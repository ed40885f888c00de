import MyBuild.Library.Unwinding
import MyBuild.Offers.AvailableOrders
import MyBuild.Offers.Rejections

/-!
# What a company with a pending offer learns of its rivals

As long as an order accepts offers, a company's side of it is its own offer and what the
client has written: the order without its status and the time of its last change.  The
other companies and the client's rejections of their offers leave that side alone, so
two runs that differ in nothing else show the company the same card, but for one field.
Every transition stamps the order with its time, whichever offer it is about, and the
card shows that time to all companies with an offer in play.
-/

namespace MyBuild

/-- What another company does to its offer, or the client's rejection of such an offer. -/
def World.IsRivalMove (companyId : Uuid) (world : World) : Request → Prop
  | .submitOffer _ _ sender _ => sender ≠ companyId
  | .withdrawOffer _ sender _ => sender ≠ companyId
  | .rejectOffer _ _ offerId =>
      ∀ offer ∈ world.tables.offers, offer.id = offerId → offer.companyId ≠ companyId
  | _ => False

/-- The identifier generated for a submission is on no offer of the order yet. -/
def World.GeneratesNewId (world : World) : Request → Prop
  | .submitOffer environment _ _ _ =>
      ∀ offer ∈ world.tables.offers, offer.id ≠ environment.offerId
  | _ => True

def OrderTables.HasPending (companyId : Uuid) (tables : OrderTables) : Prop :=
  ∃ offer ∈ tables.offers, offer.companyId = companyId ∧ offer.status = .sent

instance OrderTables.HasPending.decidable (companyId : Uuid) (tables : OrderTables) :
    Decidable (tables.HasPending companyId) :=
  inferInstanceAs (Decidable (∃ offer ∈ tables.offers, _))

/-- The actor takes a pending offer out of the client's selection. -/
def OffersService.OfferActor.leaves (tables : OrderTables) (offerId : Uuid) (actor : OfferActor)
    (offer : Offer) : Bool :=
  offer.id == offerId && actor.related tables offer && offer.status == .sent

/-- The time a request stamps the order with, if it submits an offer the order takes or takes a
pending offer out of the selection. -/
def Request.offerMove? (tables : OrderTables) : Request → Option Date
  | .submitOffer environment _ sender dto =>
      if dto.orderId = tables.order.id ∧ OffersService.takesSubmission tables sender = true then
        some environment.now
      else none
  | .withdrawOffer environment sender offerId =>
      if tables.offers.any ((OffersService.OfferActor.company sender).leaves tables offerId) then
        some environment.now
      else none
  | .rejectOffer environment clientId offerId =>
      if tables.offers.any ((OffersService.OfferActor.client clientId).leaves tables offerId) then
        some environment.now
      else none
  | _ => none

/-- The time of the last submission, withdrawal or rejection of the run; `moment` if it has
none. -/
def World.lastOfferMove (moment : Date) (world : World) : List Request → Date
  | [] => moment
  | request :: requests =>
      World.lastOfferMove ((request.offerMove? world.tables).getD moment) (world.step request)
        requests

def submittedOffers (environment : Environment) (editedAt : Date) (orderId sender : Uuid)
    (dto : CreateOfferDto) (offers : List Offer) : List Offer :=
  if offers.any (·.companyId == sender) then
    editOffers editedAt environment.now sender dto offers
  else offers ++ [Offer.create environment orderId sender dto]

namespace OrderTables

/-- The order without its status, and no notifications. -/
def masked (tables : OrderTables) : OrderTables :=
  { tables with order := { tables.order with status := .waiting }, notifications := [] }

/-- What one company has to do with an order that accepts offers. -/
def sideOf (companyId : Uuid) (tables : OrderTables) : OrderTables :=
  { tables.masked with
    order := { tables.masked.order with updatedAt := tables.order.createdAt }
    offers := tables.offers.filter (·.companyId == companyId) }

/-- The rows after a change of the offers that stamps the order. -/
def moved (now : Date) (offers : List Offer) (tables : OrderTables) : OrderTables :=
  { tables with order := { tables.order with updatedAt := now }, offers }

def submitted (environment : Environment) (editedAt : Date) (sender : Uuid)
    (dto : CreateOfferDto) (tables : OrderTables) : OrderTables :=
  if dto.orderId = tables.order.id ∧ OffersService.takesSubmission tables sender = true then
    tables.moved environment.now
      (submittedOffers environment editedAt tables.order.id sender dto tables.offers)
  else tables

def left (now : Date) (status : OfferStatus) (offerId : Uuid) (actor : OffersService.OfferActor)
    (tables : OrderTables) : OrderTables :=
  if tables.offers.any (actor.leaves tables offerId) then
    tables.moved now (Rows.updateWhere (actor.leaves tables offerId · = true)
      (Offer.withStatus now status) tables.offers)
  else tables

end OrderTables

/-- The masked rows after a request, while the order accepts offers. -/
def Request.whileOpen (tables : OrderTables) : Request → OrderTables
  | .submitOffer environment editedAt sender dto =>
      tables.submitted environment editedAt sender dto
  | .withdrawOffer environment sender offerId =>
      tables.left environment.now .withdrawn offerId (.company sender)
  | .rejectOffer environment clientId offerId =>
      tables.left environment.now .rejected offerId (.client clientId)
  | .attachClientFiles environment elsewhere orderId fresh =>
      Transaction.commit (FilesService.insertFiles environment elsewhere
        (OrdersService.clientAttachParams orderId) fresh) tables
  | .resetDemo demoIds => tables.dropDemoTraces demoIds
  | _ => tables

/-- The invariants the steps rely on. -/
structure World.Orderly (world : World) : Prop where
  wellFormed : world.WellFormed
  coupled : world.tables.Coupled
  idle : acceptsOffers world.tables.order.status = true → world.uploads = []

section

variable {companyId sender orderId : Uuid} {environment : Environment} {editedAt now : Date}
  {dto : CreateOfferDto} {offers : List Offer}

theorem submittedOffers_of_absent (absent : ∀ offer ∈ offers, offer.companyId ≠ sender) :
    submittedOffers environment editedAt orderId sender dto offers =
      offers ++ [Offer.create environment orderId sender dto] := by
  apply if_neg
  simpa using absent

theorem submittedOffers_of_mem {existing : Offer} (mem : existing ∈ offers) :
    submittedOffers environment editedAt orderId existing.companyId dto offers =
      editOffers editedAt environment.now existing.companyId dto offers := by
  apply if_pos
  exact List.any_eq_true.mpr ⟨existing, mem, by simp⟩

theorem filter_submittedOffers_own :
    (submittedOffers environment editedAt orderId companyId dto offers).filter
        (·.companyId == companyId) =
      submittedOffers environment editedAt orderId companyId dto
        (offers.filter (·.companyId == companyId)) := by
  have sameAny : (offers.filter (·.companyId == companyId)).any (·.companyId == companyId) =
      offers.any (·.companyId == companyId) := by
    simp [List.any_filter]
  simp only [submittedOffers, sameAny]
  split
  · apply Rows.filter_updateWhere
    intro offer
    rfl
  · simp

theorem filter_submittedOffers_other (other : sender ≠ companyId) :
    (submittedOffers environment editedAt orderId sender dto offers).filter
        (·.companyId == companyId) = offers.filter (·.companyId == companyId) := by
  simp only [submittedOffers]
  split
  · have kept : ∀ offer : Offer, ((offer.edit editedAt environment.now dto).companyId ==
        companyId) = (offer.companyId == companyId) := fun _ => rfl
    rw [editOffers, Rows.filter_updateWhere kept]
    apply Rows.updateWhere_eq_self
    intro offer mem isSender
    rw [List.mem_filter, beq_iff_eq, isSender] at mem
    exact absurd mem.2 other
  · simp [other]

end

namespace OrderTables

variable {companyId sender : Uuid} {tables : OrderTables} {environment : Environment}
  {editedAt now : Date} {dto : CreateOfferDto} {status : OfferStatus} {offerId : Uuid}
  {actor : OffersService.OfferActor} {offers : List Offer}

theorem sideOf_masked : tables.masked.sideOf companyId = tables.sideOf companyId := rfl

theorem sideOf_moved :
    (tables.moved now offers).sideOf companyId =
      { tables.sideOf companyId with offers := offers.filter (·.companyId == companyId) } := rfl

theorem filter_sideOf :
    (tables.sideOf companyId).offers.filter (·.companyId == companyId) =
      (tables.sideOf companyId).offers := by
  simp [sideOf]

theorem sideOf_sideOf :
    (tables.sideOf companyId).sideOf companyId = tables.sideOf companyId := by
  simp [sideOf, masked]

theorem takesSubmission_masked (accepts : acceptsOffers tables.order.status = true) :
    OffersService.takesSubmission tables.masked sender =
      OffersService.takesSubmission tables sender := by
  simp only [OffersService.takesSubmission, masked]
  cases isStatus : tables.order.status <;> rw [isStatus] at accepts <;>
    first | rfl | cases accepts

theorem takesSubmission_sideOf :
    OffersService.takesSubmission (tables.sideOf companyId) companyId =
      OffersService.takesSubmission tables.masked companyId := by
  have sameFind : (tables.sideOf companyId).offers.find? (·.companyId == companyId) =
      tables.masked.offers.find? (·.companyId == companyId) := by
    simp only [sideOf, masked, List.find?_filter, and_self, Bool.decide_eq_true]
  simp only [OffersService.takesSubmission, sameFind]
  rfl

theorem sideOf_submitted_other (other : sender ≠ companyId) :
    (tables.submitted environment editedAt sender dto).sideOf companyId =
      tables.sideOf companyId := by
  simp only [submitted]
  split
  · rw [sideOf_moved, filter_submittedOffers_other other]
    rfl
  · rfl

theorem sideOf_submitted_own :
    (tables.masked.submitted environment editedAt companyId dto).sideOf companyId =
      ((tables.sideOf companyId).submitted environment editedAt companyId dto).sideOf
        companyId := by
  simp only [submitted, takesSubmission_sideOf]
  by_cases taken : dto.orderId = tables.order.id ∧
      OffersService.takesSubmission tables.masked companyId = true
  · have sideTaken : dto.orderId = (tables.sideOf companyId).order.id ∧
        OffersService.takesSubmission tables.masked companyId = true := taken
    have maskedTaken : dto.orderId = tables.masked.order.id ∧
        OffersService.takesSubmission tables.masked companyId = true := taken
    rw [if_pos maskedTaken, if_pos sideTaken, sideOf_moved, sideOf_moved,
      filter_submittedOffers_own, filter_submittedOffers_own, filter_sideOf, sideOf_sideOf]
    rfl
  · have sideRefused : ¬(dto.orderId = (tables.sideOf companyId).order.id ∧
        OffersService.takesSubmission tables.masked companyId = true) := taken
    have maskedRefused : ¬(dto.orderId = tables.masked.order.id ∧
        OffersService.takesSubmission tables.masked companyId = true) := taken
    rw [if_neg maskedRefused, if_neg sideRefused, sideOf_sideOf]
    rfl

theorem sideOf_left :
    (tables.left now status offerId actor).sideOf companyId =
      { tables.sideOf companyId with
        offers := Rows.updateWhere (actor.leaves tables offerId · = true)
          (Offer.withStatus now status) (tables.sideOf companyId).offers } := by
  simp only [left]
  split
  · have kept : ∀ offer : Offer, ((offer.withStatus now status).companyId == companyId) =
        (offer.companyId == companyId) := fun _ => rfl
    rw [sideOf_moved, Rows.filter_updateWhere kept]
    rfl
  · rename_i noneLeaves
    rw [Rows.updateWhere_eq_self]
    intro offer mem leaves
    exact absurd (List.any_eq_true.mpr ⟨offer, List.mem_of_mem_filter mem, leaves⟩) noneLeaves

theorem leaves_sideOf :
    actor.leaves (tables.sideOf companyId) offerId = actor.leaves tables offerId := by
  cases actor <;> rfl

theorem leaves_masked : actor.leaves tables.masked offerId = actor.leaves tables offerId := by
  cases actor <;> rfl

theorem sideOf_left_own :
    (tables.masked.left now status offerId actor).sideOf companyId =
      ((tables.sideOf companyId).left now status offerId actor).sideOf companyId := by
  simp only [sideOf_left, leaves_sideOf, leaves_masked, sideOf_sideOf, sideOf_masked]

theorem sideOf_left_other
    (stays : ∀ offer ∈ tables.offers, offer.companyId = companyId →
      actor.leaves tables offerId offer = false) :
    (tables.left now status offerId actor).sideOf companyId = tables.sideOf companyId := by
  rw [sideOf_left, Rows.updateWhere_eq_self]
  intro offer mem leaves
  simp only [sideOf, List.mem_filter, beq_iff_eq] at mem
  rw [stays offer mem.1 mem.2] at leaves
  cases leaves

end OrderTables

namespace OrdersService

variable {environment : Environment} {elsewhere : FilesService.Elsewhere} {orderId : Uuid}
  {fresh : List PreparedFile}

theorem commit_clientFiles_of_room (tables : OrderTables)
    (room : (FilesService.assertStorageQuota elsewhere orderId .client fresh).run tables =
      .ok ((), tables)) :
    Transaction.commit (FilesService.insertFiles environment elsewhere
        (clientAttachParams orderId) fresh) tables =
      { tables with
        files := tables.files ++ FilesService.skipDuplicates tables.files
          (fresh.mapIdx (FilesService.toRow environment orderId .client 0)) } := by
  have returned : (FilesService.insertFiles environment elsewhere (clientAttachParams orderId)
      fresh).run tables = .ok (FilesService.skipDuplicates tables.files
        (fresh.mapIdx (FilesService.toRow environment orderId .client 0)), { tables with
          files := tables.files ++ FilesService.skipDuplicates tables.files
            (fresh.mapIdx (FilesService.toRow environment orderId .client 0)) }) := by
    simp only [FilesService.insertFiles, clientAttachParams, pure_bind]
    rw [Transaction.run_bind_of_ok room,
      Transaction.run_bind_of_ok (FilesService.run_createFiles _)]
    split <;> rfl
  exact Transaction.commit_of_ok returned

/-- The files a client attaches depend on the files of the order and on nothing else of it. -/
theorem commit_clientFiles {tables other : OrderTables} (sameId : other.order.id = tables.order.id)
    (sameFiles : other.files = tables.files) :
    Transaction.commit (FilesService.insertFiles environment elsewhere
        (clientAttachParams orderId) fresh) other =
      { other with
        files := (Transaction.commit (FilesService.insertFiles environment elsewhere
          (clientAttachParams orderId) fresh) tables).files } := by
  have sameRoom : (∃ next, (FilesService.assertStorageQuota elsewhere orderId .client fresh).run
      other = .ok ((), next)) ↔ ∃ next,
        (FilesService.assertStorageQuota elsewhere orderId .client fresh).run tables =
          .ok ((), next) := by
    simp only [FilesService.run_assertStorageQuota_eq_ok, sameId, sameFiles]
    simp
  have refused : ∀ rows : OrderTables, (¬∃ next,
      (FilesService.assertStorageQuota elsewhere orderId .client fresh).run rows =
        .ok ((), next)) → Transaction.commit (FilesService.insertFiles environment elsewhere
          (clientAttachParams orderId) fresh) rows = rows := by
    intro rows noRoom
    rcases Transaction.commit_cases (FilesService.insertFiles environment elsewhere
      (clientAttachParams orderId) fresh) rows with ⟨created, returned⟩ | unchanged
    · simp only [FilesService.insertFiles, clientAttachParams, pure_bind] at returned
      rcases Transaction.run_bind_eq_ok.mp returned with ⟨_, next, ranQuota, _⟩
      exact absurd ⟨next, ranQuota⟩ noRoom
    · exact unchanged
  by_cases room : ∃ next, (FilesService.assertStorageQuota elsewhere orderId .client fresh).run
      tables = .ok ((), next)
  · rcases room with ⟨next, fits⟩
    rcases sameRoom.mpr ⟨next, fits⟩ with ⟨otherNext, otherFits⟩
    rcases FilesService.run_assertStorageQuota_eq_ok.mp fits with ⟨_, _, _, _, rfl⟩
    rcases FilesService.run_assertStorageQuota_eq_ok.mp otherFits with ⟨_, _, _, _, rfl⟩
    rw [commit_clientFiles_of_room _ fits, commit_clientFiles_of_room _ otherFits, sameFiles]
  · rw [refused tables room, refused other (fun otherRoom => room (sameRoom.mp otherRoom)),
      ← sameFiles]

end OrdersService

section

variable {companyId : Uuid} {tables next : OrderTables} {environment : Environment}

theorem Request.sideOf_whileOpen (request : Request) :
    (request.whileOpen tables.masked).sideOf companyId =
      (request.whileOpen (tables.sideOf companyId)).sideOf companyId := by
  cases request with
  | submitOffer environment editedAt sender dto =>
      by_cases own : sender = companyId
      · subst own
        exact OrderTables.sideOf_submitted_own
      · simp only [whileOpen, OrderTables.sideOf_submitted_other own, OrderTables.sideOf_sideOf]
        rfl
  | withdrawOffer environment sender offerId => exact OrderTables.sideOf_left_own
  | rejectOffer environment clientId offerId => exact OrderTables.sideOf_left_own
  | attachClientFiles environment elsewhere orderId fresh =>
      have sameFiles := @OrdersService.commit_clientFiles environment elsewhere orderId fresh
        (tables.sideOf companyId) tables.masked rfl rfl
      have sideFiles := @OrdersService.commit_clientFiles environment elsewhere orderId fresh
        (tables.sideOf companyId) (tables.sideOf companyId) rfl rfl
      simp only [whileOpen]
      rw [sameFiles, sideFiles]
      simp [OrderTables.sideOf, OrderTables.masked]
  | resetDemo demoIds =>
      simp [whileOpen, OrderTables.sideOf, OrderTables.masked, OrderTables.dropDemoTraces,
        List.filter_filter, Bool.and_comm]
  | _ =>
      simp only [whileOpen, OrderTables.sideOf_sideOf]
      rfl

theorem World.IsRivalMove.sideOf_whileOpen {world : World} {request : Request}
    (hidden : world.IsRivalMove companyId request) :
    (request.whileOpen world.tables.masked).sideOf companyId =
      world.tables.sideOf companyId := by
  cases request with
  | submitOffer environment editedAt sender dto =>
      exact OrderTables.sideOf_submitted_other hidden
  | withdrawOffer environment sender offerId =>
      apply OrderTables.sideOf_left_other
      intro offer _ own
      simp [OffersService.OfferActor.leaves, OffersService.OfferActor.related, own, Ne.symm hidden]
  | rejectOffer environment clientId offerId =>
      apply OrderTables.sideOf_left_other
      intro offer mem own
      have otherId : offer.id ≠ offerId := fun sameId => hidden offer mem sameId own
      simp [OffersService.OfferActor.leaves, otherId]
  | _ => exact absurd hidden id

theorem OrderTables.masked_of_same (same : tables.SameOrderRows next) :
    next.masked = tables.masked := by
  rcases same with ⟨order, offers, submissions, files⟩
  simp only [masked, order, offers, submissions, files]

namespace OffersService

variable {editedAt : Date} {sender : Uuid} {dto : CreateOfferDto} {offerId : Uuid}
  {actor : OfferActor} {event : Uuid → Uuid → OrderTransitionCommand} {status : OfferStatus}

theorem masked_submit (keyed : tables.WellKeyed)
    (newId : ∀ offer ∈ tables.offers, offer.id ≠ environment.offerId)
    (accepts : acceptsOffers tables.order.status = true) :
    (Transaction.commit (submit environment editedAt sender dto) tables).masked =
      tables.masked.submitted environment editedAt sender dto := by
  have takes := @OrderTables.takesSubmission_masked sender tables accepts
  by_cases succeeds : Transaction.succeeds (submit environment editedAt sender dto) tables = true
  · rcases Transaction.succeeds_iff.mp succeeds with ⟨created, returned⟩
    rcases submit_ok keyed returned with ⟨found, middle, change, same⟩
    have taken : dto.orderId = tables.masked.order.id ∧
        takesSubmission tables.masked sender = true :=
      ⟨found, takes.trans (change.takesSubmission keyed _ _ _ _ rfl)⟩
    rw [OrderTables.masked_of_same same, OrderTables.submitted, if_pos taken]
    cases change with
    | offerCreated _ _ _ _ _ absent _ =>
        have appended : submittedOffers environment editedAt tables.masked.order.id sender dto
            tables.masked.offers = _ := submittedOffers_of_absent absent
        rw [appended]
        rfl
    | offerEdited existing _ _ _ _ mem _ _ =>
        have edited : submittedOffers environment editedAt tables.masked.order.id
            existing.companyId dto tables.masked.offers = _ := submittedOffers_of_mem mem
        rw [edited]
        rfl
  · have refused : ¬(dto.orderId = tables.masked.order.id ∧
        takesSubmission tables.masked sender = true) := by
      rintro ⟨found, taken⟩
      have sameId : tables.order.id = dto.orderId := found.symm
      exact succeeds
        ((submit_succeeds_iff keyed sameId fun _ => newId).mpr (takes.symm.trans taken))
    rw [OrderTables.submitted, if_neg refused]
    rw [Transaction.succeeds_iff] at succeeds
    rw [(Transaction.commit_cases _ tables).resolve_left succeeds]

theorem leaveSelection_error_isRefusal {error : ApiException}
    (thrown : (leaveSelection environment offerId actor event).run tables = .error error) :
    error.isRefusal = true := by
  simp only [leaveSelection] at thrown
  rcases Transaction.run_bind_eq_error.mp thrown with notFound | ⟨offer, _, found, afterFind⟩
  · simp only [findOffer, Transaction.run_get_bind] at notFound
    split at notFound
    · cases notFound
    · cases notFound
      rfl
  rcases Transaction.run_bind_eq_error.mp afterFind with refused | ⟨applied, next, _, afterRun⟩
  · exact OrderTransitionService.run_error_isRefusal refused
  rw [Transaction.run_get_bind] at afterRun
  split at afterRun
  · cases afterRun
  · cases afterRun
    rfl

/-- While the order accepts offers, exactly a pending offer can leave the selection. -/
theorem leaveSelection_succeeds_iff (keyed : tables.WellKeyed) (coupled : tables.Coupled)
    (leaves : event = .offerWithdrawn ∨ event = .offerRejected) :
    Transaction.succeeds (leaveSelection environment offerId actor event) tables = true ↔
      tables.offers.any (actor.leaves tables offerId) = true := by
  have bySent : ∀ offer ∈ tables.offers, canTransition tables.order.status
      (event offer.orderId offerId).type (some offer.status) = true ↔ offer.status = .sent := by
    intro offer mem
    constructor
    · intro allowed
      simp only [canTransition, Bool.and_eq_true, List.contains_iff_mem] at allowed
      rcases leaves with rfl | rfl <;>
        simpa [OrderTransitionCommand.type, offerPreconditions] using allowed.2
    · intro isSent
      rw [coupled.awaits_of_sent mem isSent, isSent]
      rcases leaves with rfl | rfl <;> rfl
  rw [succeeds_iff_answers fun _ => leaveSelection_error_isRefusal,
    OffersController.leaveSelection_answers_iff keyed leaves, List.any_eq_true]
  constructor
  · rintro ⟨offer, mem, sameId, related, allowed⟩
    exact ⟨offer, mem, by simp [OfferActor.leaves, sameId, related, (bySent offer mem).mp allowed]⟩
  · rintro ⟨offer, mem, leaving⟩
    simp only [OfferActor.leaves, Bool.and_eq_true, beq_iff_eq] at leaving
    exact ⟨offer, mem, leaving.1.1, leaving.1.2, (bySent offer mem).mpr leaving.2⟩

/-- Of all offers, the one that has left the selection could leave it. -/
theorem leaves_iff (keyed : tables.WellKeyed) {command : OrderTransitionCommand}
    {offer resolved : Offer} (allowed : command.Allowed environment tables resolved)
    (isOffer : command.offerId = some offerId)
    (leaves : command.type = .offerWithdrawn ∨ command.type = .offerRejected)
    (found : tables.offers.find? (fun offer =>
      offer.id == offerId && actor.related tables offer) = some offer) :
    ∀ other ∈ tables.offers,
      other.id ∈ [resolved.id] ↔ actor.leaves tables offerId other = true := by
  have sameId := allowed.offerId_eq isOffer
  have isSent : resolved.status = .sent := by
    have checked := allowed.precondition resolved.status
    cases command <;> rcases leaves with isType | isType <;> cases isType <;>
      simpa [OrderTransitionCommand.type, OrderTransitionCommand.checkedStatus,
        offerPreconditions] using checked
  have fits := List.find?_some found
  simp only [Bool.and_eq_true, beq_iff_eq] at fits
  have isResolved : offer = resolved :=
    Rows.eq_of_key keyed.offerIds (List.mem_of_find?_eq_some found) allowed.mem
      (fits.1.trans sameId.symm)
  subst isResolved
  intro other otherMem
  simp only [List.mem_singleton, OfferActor.leaves, Bool.and_eq_true, beq_iff_eq]
  constructor
  · intro same
    rw [Rows.eq_of_key keyed.offerIds otherMem allowed.mem same]
    exact ⟨⟨sameId, fits.2⟩, isSent⟩
  · rintro ⟨⟨otherId, _⟩, _⟩
    exact otherId.trans sameId.symm

theorem leaveSelection_left (keyed : tables.WellKeyed)
    (leaves : event = .offerWithdrawn ∧ status = .withdrawn ∨
      event = .offerRejected ∧ status = .rejected) {updated : Offer}
    (returned : (leaveSelection environment offerId actor event).run tables =
      .ok (updated, next)) :
    next.masked = tables.masked.moved environment.now
      (Rows.updateWhere (actor.leaves tables offerId · = true)
        (Offer.withStatus environment.now status) tables.offers) := by
  rcases leaveSelection_ok returned with ⟨offer, applied, found, ran⟩
  rcases OrderTransitionService.run_ok_after ran with ⟨resolved, allowed, same⟩
  rw [OrderTables.masked_of_same same]
  rcases leaves with ⟨rfl, rfl⟩ | ⟨rfl, rfl⟩
  · rw [← Rows.updateWhere_congr (leaves_iff keyed allowed rfl (Or.inl rfl) found)]
    rfl
  · rw [← Rows.updateWhere_congr (leaves_iff keyed allowed rfl (Or.inr rfl) found)]
    rfl

theorem masked_leaveSelection (keyed : tables.WellKeyed) (coupled : tables.Coupled)
    (leaves : event = .offerWithdrawn ∧ status = .withdrawn ∨
      event = .offerRejected ∧ status = .rejected) :
    (Transaction.commit (leaveSelection environment offerId actor event) tables).masked =
      tables.masked.left environment.now status offerId actor := by
  have isLeaving : event = .offerWithdrawn ∨ event = .offerRejected :=
    leaves.imp And.left And.left
  have succeeds := @leaveSelection_succeeds_iff tables environment offerId actor event keyed
    coupled isLeaving
  simp only [OrderTables.left, OrderTables.leaves_masked]
  by_cases leaving : tables.offers.any (actor.leaves tables offerId) = true
  · rcases Transaction.succeeds_iff.mp (succeeds.mpr leaving) with ⟨updated, returned⟩
    rw [leaveSelection_left keyed leaves returned]
    exact (if_pos leaving).symm
  · have refused := fun returned => leaving (succeeds.mp (Transaction.succeeds_iff.mpr returned))
    rw [(Transaction.commit_cases _ tables).resolve_left refused]
    exact (if_neg leaving).symm

end OffersService

end

namespace OrderTables.Coupled

variable {tables : OrderTables} {companyId : Uuid}

theorem awaits_of_pending (coupled : tables.Coupled) (pending : tables.HasPending companyId) :
    tables.order.status = .awaitingConfirmation := by
  rcases pending with ⟨offer, mem, _, isSent⟩
  exact coupled.awaits_of_sent mem isSent

theorem accepts_of_pending (coupled : tables.Coupled) (pending : tables.HasPending companyId) :
    acceptsOffers tables.order.status = true := by
  rw [coupled.awaits_of_pending pending]
  rfl

end OrderTables.Coupled

theorem noWork_of_accepts {status : OrderStatus} (accepts : acceptsOffers status = true) :
    canUploadWork status = false ∧ canVerifyArea status = false := by
  cases status <;> revert accepts <;> decide

/-- A change of such a kind leaves no order that accepts offers. -/
def RequestKind.closes : RequestKind → Bool
  | .workSubmission | .roundOpening _ => true
  | .transition event _ => [.offerAccepted, .workConfirmed, .workDisputed].contains event
  | _ => false

section

variable {tables next : OrderTables} {kind : RequestKind}

theorem OrderChange.accepts_before (change : OrderChange tables kind next)
    (accepts : acceptsOffers next.order.status = true) :
    acceptsOffers tables.order.status = true ∧ kind.closes = false := by
  cases change with
  | offerCreated _ _ _ _ accepted _ _ => exact ⟨accepted, rfl⟩
  | offerEdited _ _ _ _ accepted _ _ _ => exact ⟨accepted, rfl⟩
  | transition environment command offer allowed plain =>
      cases command with
      | offerSubmitted _ _ _ => exact absurd rfl plain.1
      | offerWithdrawn _ _ =>
          exact ⟨OrderTables.accepts_of_listed (by simp [OrderTransitionCommand.type])
            allowed.listed, rfl⟩
      | offerRejected _ _ =>
          exact ⟨OrderTables.accepts_of_listed (by simp [OrderTransitionCommand.type])
            allowed.listed, rfl⟩
      | _ => cases accepts
  | workSubmitted _ _ _ _ _ _ _ => cases accepts
  | submissionOpened _ _ uploads _ _ =>
      rw [(noWork_of_accepts accepts).1] at uploads
      cases uploads
  | _ => exact ⟨accepts, rfl⟩

theorem OrderTables.ChangesTo.accepts_before (changes : tables.ChangesTo kind next)
    (accepts : acceptsOffers next.order.status = true) :
    acceptsOffers tables.order.status = true := by
  rcases changes with same | ⟨middle, change, same⟩
  · rw [← same.1]
    exact accepts
  · rw [same.1] at accepts
    exact (change.accepts_before accepts).1

theorem OrderTables.ChangesTo.same_of_closes (changes : tables.ChangesTo kind next)
    (closes : kind.closes = true) (accepts : acceptsOffers next.order.status = true) :
    tables.SameOrderRows next := by
  rcases changes with same | ⟨middle, change, same⟩
  · exact same
  · rw [same.1] at accepts
    rw [(change.accepts_before accepts).2] at closes
    cases closes

end

namespace Request

variable {tables : OrderTables}

theorem whileOpen_updatedAt (request : Request) :
    (request.whileOpen tables).order.updatedAt =
      (request.offerMove? tables).getD tables.order.updatedAt := by
  cases request with
  | submitOffer environment editedAt sender dto =>
      simp only [whileOpen, OrderTables.submitted, offerMove?]
      split <;> rfl
  | withdrawOffer environment sender offerId =>
      simp only [whileOpen, OrderTables.left, offerMove?]
      split <;> rfl
  | rejectOffer environment clientId offerId =>
      simp only [whileOpen, OrderTables.left, offerMove?]
      split <;> rfl
  | attachClientFiles environment elsewhere orderId fresh =>
      have filesOnly := @OrdersService.commit_clientFiles environment elsewhere orderId fresh
        tables tables rfl rfl
      simp only [whileOpen]
      rw [filesOnly]
      rfl
  | _ => rfl

theorem offerMove?_masked (accepts : acceptsOffers tables.order.status = true)
    (request : Request) : request.offerMove? tables.masked = request.offerMove? tables := by
  cases request with
  | submitOffer environment editedAt sender dto =>
      simp only [offerMove?, OrderTables.takesSubmission_masked accepts]
      rfl
  | withdrawOffer environment sender offerId =>
      simp only [offerMove?, OrderTables.leaves_masked]
      rfl
  | rejectOffer environment clientId offerId =>
      simp only [offerMove?, OrderTables.leaves_masked]
      rfl
  | _ => rfl

end Request

namespace World

variable {world : World} {companyId : Uuid}

theorem uploads_nil_of_accepts {request : Request} (orderly : world.Orderly)
    (accepts : acceptsOffers (world.step request).tables.order.status = true) :
    (world.step request).uploads = [] := by
  have before := (step_changes orderly.wellFormed request).accepts_before accepts
  have idle := orderly.idle before
  cases request with
  | addFiles environment orderId status comment prepared =>
      simp only [step] at accepts ⊢
      split
      case h_2 => exact idle
      case h_1 opened next started =>
        rcases OrderWorkflowService.openSubmission_ok (startAddFiles_ok started).2.2 with
          ⟨_, uploads, _⟩
        rw [(noWork_of_accepts before).1] at uploads
        cases uploads
  | dropDuplicates call => simp [step, idle]
  | insertFiles environment elsewhere call => simp [step, finishUpload, idle]
  | saveComment call => simp [step, finishUpload, idle]
  | failUpload call => simp [step, idle]
  | _ => exact idle

theorem Orderly.step (orderly : world.Orderly) (request : Request) :
    (world.step request).Orderly := by
  rcases run_tables_invariant OrderTables.Coupled.blind
    (fun _ _ _ keyed change coupled => coupled.preserved keyed change) orderly.wellFormed
    orderly.coupled [request] with ⟨wellFormed, coupled⟩
  exact ⟨wellFormed, coupled, uploads_nil_of_accepts orderly⟩

/-- Apart from the status and the notifications, this is what a step does to an order that
accepts offers afterwards. -/
theorem masked_step {request : Request} (orderly : world.Orderly)
    (newId : world.GeneratesNewId request)
    (accepts : acceptsOffers (world.step request).tables.order.status = true) :
    (world.step request).tables.masked = request.whileOpen world.tables.masked := by
  have changes := step_changes orderly.wellFormed request
  have before := changes.accepts_before accepts
  have keyed := orderly.wellFormed.keyed
  have closed : request.kind.closes = true →
      (world.step request).tables.masked = world.tables.masked := fun closes =>
    OrderTables.masked_of_same (changes.same_of_closes closes accepts)
  cases request with
  | submitOffer environment editedAt sender dto =>
      exact OffersService.masked_submit keyed newId before
  | withdrawOffer environment sender offerId =>
      exact OffersService.masked_leaveSelection keyed orderly.coupled (Or.inl ⟨rfl, rfl⟩)
  | rejectOffer environment clientId offerId =>
      exact OffersService.masked_leaveSelection keyed orderly.coupled (Or.inr ⟨rfl, rfl⟩)
  | acceptOffer _ _ _ _ => exact closed rfl
  | submitWork _ _ => exact closed rfl
  | confirm _ _ _ => exact closed rfl
  | dispute _ _ _ => exact closed rfl
  | addFiles _ _ _ _ _ => exact closed rfl
  | insertFiles environment elsewhere call =>
      simp [World.step, finishUpload, orderly.idle before, Request.whileOpen]
  | saveComment call =>
      simp [World.step, finishUpload, orderly.idle before, Request.whileOpen]
  | verifyArea environment orderId status area =>
      rcases Transaction.commit_cases (OrderWorkflowService.verifyArea environment orderId status
        area) world.tables with ⟨_, returned⟩ | unchanged
      · have verifiable := (OrderWorkflowService.verifyArea_ok returned).1
        rw [(noWork_of_accepts before).2] at verifiable
        cases verifiable
      · exact congrArg OrderTables.masked unchanged
  | attachClientFiles environment elsewhere orderId fresh =>
      have filesOnly := @OrdersService.commit_clientFiles environment elsewhere orderId fresh
      simp only [World.step, commit, Request.whileOpen]
      rw [@filesOnly world.tables world.tables rfl rfl,
        @filesOnly world.tables world.tables.masked rfl rfl]
      rfl
  | _ => rfl

/-- The company's side after a step follows from its side before it, and a rival's move leaves
it alone. -/
theorem unwinding (companyId : Uuid) :
    Runs.Unwinding step (IsRivalMove companyId) GeneratesNewId Orderly
      (fun world => acceptsOffers world.tables.order.status = true)
      (fun world => world.tables.sideOf companyId) where
  preserved := fun _ request orderly => orderly.step request
  closed := fun _ request orderly accepts =>
    (step_changes orderly.wellFormed request).accepts_before accepts
  hidden := by
    intro world request orderly newId accepts hidden
    rw [← OrderTables.sideOf_masked, masked_step orderly newId accepts]
    exact hidden.sideOf_whileOpen
  shared := by
    intro first second request firstOrderly secondOrderly firstNew secondNew firstAccepts
      secondAccepts same
    rw [← OrderTables.sideOf_masked, masked_step firstOrderly firstNew firstAccepts,
      request.sideOf_whileOpen, same, ← request.sideOf_whileOpen,
      ← masked_step secondOrderly secondNew secondAccepts, OrderTables.sideOf_masked]

/-- The order carries the time of the last offer that was submitted or left the selection. -/
theorem updatedAt_run {requests : List Request} (orderly : world.Orderly)
    (newIds : Runs.Along step GeneratesNewId world requests)
    (accepts : acceptsOffers (Runs.run step world requests).tables.order.status = true) :
    (Runs.run step world requests).tables.order.updatedAt =
      lastOfferMove world.tables.order.updatedAt world requests := by
  induction requests generalizing world with
  | nil => rfl
  | cons request requests ih =>
      have stepAccepts := (unwinding world.tables.order.clientId).open_of_run
        (orderly.step request) accepts
      have before := (step_changes orderly.wellFormed request).accepts_before stepAccepts
      have stamped : (world.step request).tables.order.updatedAt =
          (request.offerMove? world.tables).getD world.tables.order.updatedAt := by
        calc (world.step request).tables.order.updatedAt
            = (request.whileOpen world.tables.masked).order.updatedAt := by
              rw [← masked_step orderly newIds.1 stepAccepts]
              rfl
          _ = (request.offerMove? world.tables).getD world.tables.order.updatedAt := by
              rw [request.whileOpen_updatedAt, request.offerMove?_masked before]
              rfl
      simp only [lastOfferMove]
      rw [← stamped]
      exact ih (orderly.step request) newIds.2 accepts

end World

namespace OrdersService

variable {users : Uuid → User} {tables other : OrderTables} {companyId : Uuid}

theorem view_of_pending {own : Offer} (companies : (tables.offers.map Offer.companyId).Nodup)
    (notOwner : tables.order.clientId ≠ companyId)
    (found : tables.offers.find? (·.companyId == companyId) = some own)
    (isSent : own.status = .sent) :
    let view := resolveVisibility (detailRow users tables).toOrderRow companyId
    view.isOwner = false ∧ view.ownOffer = some (own.toRow users) ∧ view.seesProgress = true ∧
      view.isParty = false := by
  intro view
  rcases @visibility_eq users tables companyId companies with
    ⟨isOwner, ownOffer, seesProgress, isParty⟩
  have other : (tables.order.clientId == companyId) = false := by simpa using notOwner
  rw [other] at isOwner
  rw [found] at ownOffer
  rw [found, other, Option.any_some, isSent] at seesProgress isParty
  exact ⟨isOwner, ownOffer, seesProgress, isParty⟩

theorem card_updatedAt (companies : (tables.offers.map Offer.companyId).Nodup)
    (notOwner : tables.order.clientId ≠ companyId) (pending : tables.HasPending companyId) :
    (card users tables companyId).updatedAt = tables.order.updatedAt.toISOString := by
  rcases pending with ⟨own, mem, rfl, isSent⟩
  have found := Rows.find?_eq_some_of_mem companies mem
  rcases @view_of_pending users _ _ own companies notOwner found isSent with
    ⟨_, _, seesProgress, _⟩
  simp only [card, toOrderDetail, seesProgress, if_true]
  rfl

/-- With a pending offer, a company sees its side of the order, the status, and the time of the
last change. -/
theorem card_eq_of_side (companies : (tables.offers.map Offer.companyId).Nodup)
    (otherCompanies : (other.offers.map Offer.companyId).Nodup)
    (notOwner : tables.order.clientId ≠ companyId)
    (pending : tables.HasPending companyId)
    (sameStatus : tables.order.status = other.order.status)
    (same : tables.sideOf companyId = other.sideOf companyId) :
    card users tables companyId =
      { card users other companyId with updatedAt := tables.order.updatedAt.toISOString } := by
  rcases pending with ⟨own, mem, isOwn, isSent⟩
  subst isOwn
  have found := Rows.find?_eq_some_of_mem companies mem
  have sameFind : other.offers.find? (·.companyId == own.companyId) = some own := by
    have sides := congrArg (fun side => side.offers.head?) same
    simp only [OrderTables.sideOf, List.head?_filter] at sides
    rw [← sides, found]
  have sameOrder : tables.order = { other.order with updatedAt := tables.order.updatedAt } := by
    have orders := congrArg (fun side : OrderTables =>
      { side.order with status := tables.order.status, updatedAt := tables.order.updatedAt }) same
    exact orders.trans (by rw [sameStatus]; rfl)
  have sameFiles : tables.files = other.files := by
    have sides := congrArg OrderTables.files same
    exact sides
  rcases tables with ⟨order, offers, submissions, files, notifications⟩
  have restamped : ∃ moment, order = { other.order with updatedAt := moment } := ⟨_, sameOrder⟩
  rcases restamped with ⟨moment, rfl⟩
  simp only at sameFiles
  subst sameFiles
  rcases @view_of_pending users _ _ own companies notOwner found isSent with
    ⟨isOwner, ownOffer, seesProgress, isParty⟩
  rcases @view_of_pending users _ _ own otherCompanies notOwner sameFind isSent with
    ⟨otherIsOwner, otherOwnOffer, otherSeesProgress, otherIsParty⟩
  simp only [card, toOrderDetail, toOrderListItem, visibleOffers, visibleFiles, isOwner, ownOffer,
    seesProgress, isParty, otherIsOwner, otherOwnOffer, otherSeesProgress, otherIsParty]
  rfl

/-- Two orders of which a company with a pending offer has the same side show it the same card
exactly when they show the same time. -/
theorem card_eq_iff {first second : World} (firstOrderly : first.Orderly)
    (secondOrderly : second.Orderly) (notOwner : first.tables.order.clientId ≠ companyId)
    (firstPending : first.tables.HasPending companyId)
    (secondPending : second.tables.HasPending companyId)
    (same : first.tables.sideOf companyId = second.tables.sideOf companyId) :
    card users first.tables companyId = card users second.tables companyId ↔
      first.tables.order.updatedAt.toISOString = second.tables.order.updatedAt.toISOString := by
  have firstCompanies := firstOrderly.wellFormed.keyed.companies
  have secondCompanies := secondOrderly.wellFormed.keyed.companies
  have sameClient : first.tables.order.clientId = second.tables.order.clientId := by
    have sides := congrArg (fun side : OrderTables => side.order.clientId) same
    exact sides
  have notSecondOwner : second.tables.order.clientId ≠ companyId := sameClient ▸ notOwner
  have sameStatus := (firstOrderly.coupled.awaits_of_pending firstPending).trans
    (secondOrderly.coupled.awaits_of_pending secondPending).symm
  constructor
  · intro sameCard
    have stamps := congrArg OrderDetail.updatedAt sameCard
    rwa [card_updatedAt firstCompanies notOwner firstPending,
      card_updatedAt secondCompanies notSecondOwner secondPending] at stamps
  · intro sameTime
    rw [card_eq_of_side firstCompanies secondCompanies notOwner firstPending sameStatus same,
      sameTime, ← card_updatedAt secondCompanies notSecondOwner secondPending]

end OrdersService

theorem reached_orderly (id : Uuid) (orderNumber : ℕ) (now : Date) (clientId : Uuid)
    (dto : CreateOrderDto) (requests : List Request) :
    (reached id orderNumber now clientId dto requests).Orderly := by
  apply Runs.run_invariant fun _ request orderly => orderly.step request
  rcases reached_coupled id orderNumber now clientId dto [] with ⟨wellFormed, coupled⟩
  exact ⟨wellFormed, coupled, fun _ => rfl⟩

theorem reached_clientId (id : Uuid) (orderNumber : ℕ) (now : Date) (clientId : Uuid)
    (dto : CreateOrderDto) (requests : List Request) :
    (reached id orderNumber now clientId dto requests).tables.order.clientId = clientId := by
  have wellFormed := (reached_coupled id orderNumber now clientId dto []).1
  have kept : ∀ before kind after, before.WellKeyed → OrderChange before kind after →
      before.order.clientId = clientId → after.order.clientId = clientId :=
    fun _ _ _ _ change same => change.order_fixed.2.2.trans same
  exact (World.run_tables_invariant (fun _ _ => Iff.rfl) kept wellFormed rfl requests).2

/-- Two runs of one order that differ only in the moves of other companies and the client's
rejections of their offers: while the offer of a company is pending in both, it sees the same card
exactly when the last submission, withdrawal or rejection of the one run has the time of that of
the other. -/
theorem rivals_seen_only_by_time (id : Uuid) (orderNumber : ℕ) (now : Date) (clientId : Uuid)
    (dto : CreateOrderDto) (users : Uuid → User) (companyId : Uuid) (first second : List Request)
    (notOwner : clientId ≠ companyId)
    (matching : Runs.Matching World.step (World.IsRivalMove companyId)
      (reached id orderNumber now clientId dto []) first
      (reached id orderNumber now clientId dto []) second)
    (firstIds : Runs.Along World.step World.GeneratesNewId
      (reached id orderNumber now clientId dto []) first)
    (secondIds : Runs.Along World.step World.GeneratesNewId
      (reached id orderNumber now clientId dto []) second)
    (firstPending : (reached id orderNumber now clientId dto first).tables.HasPending companyId)
    (secondPending :
      (reached id orderNumber now clientId dto second).tables.HasPending companyId) :
    OrdersService.card users (reached id orderNumber now clientId dto first).tables companyId =
        OrdersService.card users (reached id orderNumber now clientId dto second).tables
          companyId ↔
      (World.lastOfferMove now (reached id orderNumber now clientId dto []) first).toISOString =
        (World.lastOfferMove now (reached id orderNumber now clientId dto [])
          second).toISOString := by
  have orderly := reached_orderly id orderNumber now clientId dto
  have firstAccepts := (orderly first).coupled.accepts_of_pending firstPending
  have secondAccepts := (orderly second).coupled.accepts_of_pending secondPending
  have sameSide := (World.unwinding companyId).view_eq matching (orderly []) (orderly []) firstIds
    secondIds firstAccepts secondAccepts rfl
  have firstStamp : (reached id orderNumber now clientId dto first).tables.order.updatedAt =
      World.lastOfferMove now (reached id orderNumber now clientId dto []) first :=
    World.updatedAt_run (orderly []) firstIds firstAccepts
  have secondStamp : (reached id orderNumber now clientId dto second).tables.order.updatedAt =
      World.lastOfferMove now (reached id orderNumber now clientId dto []) second :=
    World.updatedAt_run (orderly []) secondIds secondAccepts
  have notFirstOwner :
      (reached id orderNumber now clientId dto first).tables.order.clientId ≠ companyId := by
    rw [reached_clientId]
    exact notOwner
  rw [← firstStamp, ← secondStamp]
  exact OrdersService.card_eq_iff (orderly first) (orderly second) notFirstOwner firstPending
    secondPending sameSide

def exampleRival (moment : Date) : Request :=
  .submitOffer { exampleEnvironment ⟨12⟩ with now := moment } moment ⟨3⟩
    { orderId := ⟨1⟩, proposedPrice := ⟨200⟩, proposedDeadline := Date.epoch, comment := none }

/-- A rival that has submitted its offer before the company leaves no trace on its card. -/
theorem rivals_seen_only_by_time_earlier :
    OrdersService.card (exampleEnvironment ⟨11⟩).users
        (reached ⟨1⟩ 1 exampleMoment ⟨9⟩ exampleOrder [exampleSubmission ⟨2⟩ ⟨11⟩ 100]).tables
        ⟨2⟩ =
      OrdersService.card (exampleEnvironment ⟨11⟩).users
        (reached ⟨1⟩ 1 exampleMoment ⟨9⟩ exampleOrder
          [exampleRival Date.epoch, exampleSubmission ⟨2⟩ ⟨11⟩ 100]).tables ⟨2⟩ := by
  have otherCompany : (⟨3⟩ : Uuid) ≠ ⟨2⟩ := by decide
  have later : ∀ offer ∈ (reached ⟨1⟩ 1 exampleMoment ⟨9⟩ exampleOrder
      [exampleRival Date.epoch]).tables.offers, offer.id ≠ ⟨11⟩ := by
    decide +kernel
  refine (rivals_seen_only_by_time ⟨1⟩ 1 exampleMoment ⟨9⟩ exampleOrder _ ⟨2⟩
    [exampleSubmission ⟨2⟩ ⟨11⟩ 100] [exampleRival Date.epoch, exampleSubmission ⟨2⟩ ⟨11⟩ 100]
    (by decide) (.hiddenSecond otherCompany (.shared (.done _ _))) ⟨?_, trivial⟩ ⟨?_, ?_, trivial⟩
    ?_ ?_).mpr (by decide +kernel)
  · intro offer mem
    cases mem
  · intro offer mem
    cases mem
  · exact later
  · decide +kernel
  · decide +kernel

/-- A rival submits its offer after the company: the card of the company shows that the order has
changed. -/
theorem rival_seen_by_time :
    let created := reached ⟨1⟩ 1 exampleMoment ⟨9⟩ exampleOrder []
    let own := exampleSubmission ⟨2⟩ ⟨11⟩ 100
    let rival := exampleRival ⟨9, by decide⟩
    let first := reached ⟨1⟩ 1 exampleMoment ⟨9⟩ exampleOrder [own]
    let second := reached ⟨1⟩ 1 exampleMoment ⟨9⟩ exampleOrder [own, rival]
    Runs.Matching World.step (World.IsRivalMove ⟨2⟩) created [own] created [own, rival] ∧
      first.tables.HasPending ⟨2⟩ ∧ second.tables.HasPending ⟨2⟩ ∧
      first.tables.order.status = .awaitingConfirmation ∧
      second.tables.order.status = .awaitingConfirmation ∧
      OrdersService.card (exampleEnvironment ⟨11⟩).users first.tables ⟨2⟩ ≠
        OrdersService.card (exampleEnvironment ⟨11⟩).users second.tables ⟨2⟩ := by
  intro created own rival first second
  have otherCompany : (⟨3⟩ : Uuid) ≠ ⟨2⟩ := by decide
  refine ⟨.shared (.hiddenSecond otherCompany (.done _ _)), ?_, ?_, ?_, ?_, ?_⟩
  · decide +kernel
  · decide +kernel
  · decide +kernel
  · decide +kernel
  · intro sameCard
    have stamps := congrArg OrderDetail.updatedAt sameCard
    revert stamps
    decide +kernel

end MyBuild
