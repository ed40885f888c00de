import MyBuild.Frontend.Actions
import MyBuild.Offers.AvailableOrders
import MyBuild.Orders.DealTerms
import MyBuild.Orders.Detail

/-!
# The version of an offer the client accepts

The client reads an offer, and its acceptance carries the time of the last edit it read.
The acceptance goes through only while the offer still has that time.  The time is read
from the clock before the edit waits for its turn, so two edits can carry the same one.
The client gets the terms it saw if and only if the last of them has another time or the
terms of the first.
-/

namespace MyBuild

def acceptResponse (environment : Environment) (orderId : Uuid) (response : OfferDto) :
    OrderTx AppliedTransition :=
  OrderWorkflowService.acceptOffer environment orderId response.id
    (acceptOfferBody response).offerEditedAt

def CreateOfferDto.Repeats (response : OfferDto) (dto : CreateOfferDto) : Prop :=
  dto.proposedPrice.toText = response.proposedPrice ∧
    dto.proposedDeadline.toISOString = response.proposedDeadline ∧
    dto.comment = response.comment

instance CreateOfferDto.Repeats.decidable (response : OfferDto) (dto : CreateOfferDto) :
    Decidable (dto.Repeats response) :=
  inferInstanceAs (Decidable (_ ∧ _))

def Offer.Shows (response : OfferDto) (offer : Offer) : Prop :=
  offer.proposedPrice.toText = response.proposedPrice ∧
    offer.proposedDeadline.toISOString = response.proposedDeadline ∧
    offer.comment = response.comment

/-- The order has the price and the deadline of the response, and the offer its comment. -/
structure OrderTables.DealtAs (response : OfferDto) (tables : OrderTables) : Prop where
  price : tables.order.price.map Decimal.toText = some response.proposedPrice
  deadline : tables.order.deadline.map Date.toISOString = some response.proposedDeadline
  comment : ∃ offer ∈ tables.offers, offer.id = response.id ∧ offer.comment = response.comment

instance OrderTables.DealtAs.decidable (response : OfferDto) (tables : OrderTables) :
    Decidable (tables.DealtAs response) :=
  decidable_of_iff
    (tables.order.price.map Decimal.toText = some response.proposedPrice ∧
      tables.order.deadline.map Date.toISOString = some response.proposedDeadline ∧
      ∃ offer ∈ tables.offers, offer.id = response.id ∧ offer.comment = response.comment)
    ⟨fun dealt => ⟨dealt.1, dealt.2.1, dealt.2.2⟩,
      fun dealt => ⟨dealt.price, dealt.deadline, dealt.comment⟩⟩

/-- What a submission leaves in the offer that it writes. -/
structure OfferWrite where
  id : Uuid
  editedAt : Option Date
  dto : CreateOfferDto

/-- The write of a submission that the order takes. -/
def Request.offerWrite? (tables : OrderTables) : Request → Option OfferWrite
  | .submitOffer environment editedAt companyId dto =>
      if dto.orderId = tables.order.id ∧ OffersService.takesSubmission tables companyId = true then
        match tables.offers.find? (·.companyId == companyId) with
        | some existing => some ⟨existing.id, some editedAt, dto⟩
        | none =>
            if tables.offers.any (·.id == environment.offerId) then none
            else some ⟨environment.offerId, none, dto⟩
      else none
  | _ => none

/-- The request writes the offer of the response. -/
def OfferDto.IsWritten (response : OfferDto) (world : World) (request : Request) : Prop :=
  ∃ write ∈ request.offerWrite? world.tables, write.id = response.id

/-- The write leaves another time of the last edit than the response has, or repeats the terms of
the response. -/
def OfferDto.ToldApart (response : OfferDto) (world : World) (request : Request) : Prop :=
  ∀ write ∈ request.offerWrite? world.tables,
    response.editedAt ≠ toIso write.editedAt ∨ write.dto.Repeats response

instance OfferDto.IsWritten.decidable (response : OfferDto) (world : World) (request : Request) :
    Decidable (response.IsWritten world request) :=
  inferInstanceAs (Decidable (∃ write ∈ request.offerWrite? world.tables, write.id = response.id))

instance OfferDto.ToldApart.decidable (response : OfferDto) (world : World) (request : Request) :
    Decidable (response.ToldApart world request) :=
  inferInstanceAs (Decidable (∀ write ∈ request.offerWrite? world.tables,
    response.editedAt ≠ toIso write.editedAt ∨ write.dto.Repeats response))

structure Offer.IsAs (write : OfferWrite) (offer : Offer) : Prop where
  id : offer.id = write.id
  editedAt : offer.editedAt = write.editedAt
  price : offer.proposedPrice = write.dto.proposedPrice
  deadline : offer.proposedDeadline = write.dto.proposedDeadline
  comment : offer.comment = write.dto.comment

structure Offer.SameTerms (old new : Offer) : Prop where
  id : old.id = new.id
  editedAt : old.editedAt = new.editedAt
  price : old.proposedPrice = new.proposedPrice
  deadline : old.proposedDeadline = new.proposedDeadline
  comment : old.comment = new.comment

theorem Offer.IsAs.shows_iff {write : OfferWrite} {offer : Offer} {response : OfferDto}
    (isAs : offer.IsAs write) : offer.Shows response ↔ write.dto.Repeats response := by
  rw [Offer.Shows, isAs.price, isAs.deadline, isAs.comment]
  rfl

theorem Offer.SameTerms.shows_iff {old new : Offer} {response : OfferDto}
    (same : old.SameTerms new) : old.Shows response ↔ new.Shows response := by
  rw [Offer.Shows, Offer.Shows, same.price, same.deadline, same.comment]

section

variable {tables next : OrderTables} {kind : RequestKind} {world : World}

theorem offers_kept_of_after {now : Date} {offer : Offer} {command : OrderTransitionCommand}
    (offers : next.offers = (command.after now offer tables).offers) :
    ∀ row ∈ next.offers, ∃ old ∈ tables.offers, old.SameTerms row := by
  intro row rowMem
  have sameColumns : next.offers.map (fun offer => (offer.id, offer.editedAt,
      offer.proposedPrice, offer.proposedDeadline, offer.comment)) =
        tables.offers.map fun offer => (offer.id, offer.editedAt, offer.proposedPrice,
          offer.proposedDeadline, offer.comment) := by
    rw [offers]
    exact OrderTransitionCommand.after_offers_map fun _ _ => rfl
  have known := List.mem_map_of_mem (f := fun offer : Offer => (offer.id, offer.editedAt,
    offer.proposedPrice, offer.proposedDeadline, offer.comment)) rowMem
  rw [sameColumns] at known
  rcases List.mem_map.mp known with ⟨old, oldMem, same⟩
  simp only [Prod.mk.injEq] at same
  rcases same with ⟨id, editedAt, price, deadline, comment⟩
  exact ⟨old, oldMem, id, editedAt, price, deadline, comment⟩

/-- A change that is no submission leaves the terms of the offers alone. -/
theorem OrderChange.offers_kept (change : OrderChange tables kind next)
    (plain : ∀ environment editedAt companyId dto,
      kind ≠ .offerSubmission environment editedAt companyId dto) :
    ∀ offer ∈ next.offers, ∃ old ∈ tables.offers, old.SameTerms offer := by
  intro offer mem
  cases change with
  | offerCreated environment editedAt companyId dto _ _ _ =>
      exact absurd rfl (plain environment editedAt companyId dto)
  | offerEdited existing environment editedAt dto _ _ _ _ =>
      exact absurd rfl (plain environment editedAt existing.companyId dto)
  | transition _ _ _ _ _ => exact offers_kept_of_after rfl offer mem
  | workSubmitted _ _ _ _ _ _ _ => exact offers_kept_of_after rfl offer mem
  | offersDropped demoIds =>
      exact ⟨offer, List.mem_of_mem_filter mem, rfl, rfl, rfl, rfl, rfl⟩
  | submissionOpened _ _ _ _ _ => exact ⟨offer, mem, rfl, rfl, rfl, rfl, rfl⟩
  | submissionFilled _ _ _ _ _ _ _ => exact ⟨offer, mem, rfl, rfl, rfl, rfl, rfl⟩
  | clientFilesAdded _ _ => exact ⟨offer, mem, rfl, rfl, rfl, rfl, rfl⟩
  | areaVerified _ _ _ => exact ⟨offer, mem, rfl, rfl, rfl, rfl, rfl⟩

/-- After a request the offer it has written is as written, and every other is as before. -/
def World.OffersWritten (write : Option OfferWrite) (before after : List Offer) : Prop :=
  (∀ written ∈ write, ∃ offer ∈ after, offer.IsAs written) ∧
    ∀ offer ∈ after, (∃ written ∈ write, offer.IsAs written) ∨
      ∃ old ∈ before, old.SameTerms offer

variable {environment : Environment} {editedAt : Date} {companyId : Uuid} {dto : CreateOfferDto}

/-- A submission that fails was not to write anything. -/
theorem OffersService.offerWrite?_of_error {thrown : ApiException} (keyed : tables.WellKeyed)
    (failed : (submit environment editedAt companyId dto).run tables = .error thrown) :
    (Request.submitOffer environment editedAt companyId dto).offerWrite? tables = none := by
  by_contra isSome
  have succeeds : Transaction.succeeds (submit environment editedAt companyId dto) tables =
      true := by
    simp only [Request.offerWrite?] at isSome
    split at isSome
    case isFalse => exact absurd rfl isSome
    case isTrue taken =>
      refine (submit_succeeds_iff keyed taken.1.symm ?_).mpr taken.2
      intro absent
      simpa [absent] using isSome
  rcases Transaction.succeeds_iff.mp succeeds with ⟨_, returned⟩
  rw [failed] at returned
  cases returned

theorem OrderChange.offersWritten (keyed : tables.WellKeyed)
    (sameId : dto.orderId = tables.order.id)
    (change : OrderChange tables (.offerSubmission environment editedAt companyId dto) next) :
    World.OffersWritten
      ((Request.submitOffer environment editedAt companyId dto).offerWrite? tables)
      tables.offers next.offers := by
  have taken := And.intro sameId (change.takesSubmission keyed _ _ _ _ rfl)
  simp only [Request.offerWrite?, if_pos taken]
  cases change with
  | offerCreated _ _ _ _ _ absent freshId =>
      have none : tables.offers.find? (·.companyId == companyId) = none := by
        simpa using absent
      have unused : tables.offers.any (·.id == environment.offerId) = false := by
        simpa using freshId
      simp only [none, unused, Bool.false_eq_true, if_false, World.OffersWritten,
        Option.mem_some_iff, forall_eq', exists_eq_left']
      refine ⟨⟨_, List.mem_append_right _ (List.mem_singleton_self _), rfl, rfl, rfl, rfl, rfl⟩, ?_⟩
      intro offer mem
      rcases List.mem_append.mp mem with old | new
      · exact Or.inr ⟨offer, old, rfl, rfl, rfl, rfl, rfl⟩
      · rw [List.mem_singleton.mp new]
        exact Or.inl ⟨rfl, rfl, rfl, rfl, rfl⟩
  | offerEdited existing _ _ _ _ existingMem _ _ =>
      have found := Rows.find?_eq_some_of_mem keyed.companies existingMem
      simp only [found, World.OffersWritten, Option.mem_some_iff, forall_eq', exists_eq_left']
      constructor
      · refine ⟨_, Rows.mem_updateWhere.mpr ⟨existing, existingMem, rfl⟩, ?_⟩
        rw [if_pos rfl]
        exact ⟨rfl, rfl, rfl, rfl, rfl⟩
      · intro offer mem
        rcases Rows.mem_updateWhere.mp mem with ⟨old, oldMem, rfl⟩
        split
        case isTrue sameCompany =>
          rw [Rows.eq_of_key keyed.companies oldMem existingMem sameCompany]
          exact Or.inl ⟨rfl, rfl, rfl, rfl, rfl⟩
        case isFalse => exact Or.inr ⟨old, oldMem, rfl, rfl, rfl, rfl, rfl⟩

theorem World.offersWritten_none {before after : List Offer}
    (kept : ∀ offer ∈ after, ∃ old ∈ before, old.SameTerms offer) :
    OffersWritten none before after := by
  constructor
  · intro _ written
    exact absurd written (Option.not_mem_none _)
  · intro offer mem
    exact Or.inr (kept offer mem)

theorem OffersService.submit_writes (keyed : tables.WellKeyed) :
    World.OffersWritten
      ((Request.submitOffer environment editedAt companyId dto).offerWrite? tables) tables.offers
      (Transaction.commit (submit environment editedAt companyId dto) tables).offers := by
  cases result : (submit environment editedAt companyId dto).run tables with
  | error thrown =>
      rw [Transaction.commit_of_error result, offerWrite?_of_error keyed result]
      exact World.offersWritten_none fun offer mem => ⟨offer, mem, rfl, rfl, rfl, rfl, rfl⟩
  | ok outcome =>
      rcases outcome with ⟨created, next⟩
      rcases submit_ok keyed result with ⟨sameId, middle, change, same⟩
      rw [Transaction.commit_of_ok result, same.2.1]
      exact change.offersWritten keyed sameId

theorem World.step_writes (wellFormed : world.WellFormed) (request : Request) :
    OffersWritten (request.offerWrite? world.tables) world.tables.offers
      (world.step request).tables.offers := by
  by_cases plain : ∀ environment editedAt companyId dto,
      request.kind ≠ .offerSubmission environment editedAt companyId dto
  case neg =>
    cases request with
    | submitOffer environment editedAt companyId dto =>
        exact OffersService.submit_writes wellFormed.keyed
    | _ => exact absurd (fun _ _ _ _ isKind => by cases isKind) plain
  case pos =>
    have none : request.offerWrite? world.tables = none := by
      cases request with
      | submitOffer environment editedAt companyId dto =>
          exact absurd rfl (plain environment editedAt companyId dto)
      | _ => rfl
    rw [none]
    apply offersWritten_none
    intro offer mem
    rcases step_changes wellFormed request with same | ⟨middle, change, same⟩
    · rw [same.2.1] at mem
      exact ⟨offer, mem, rfl, rfl, rfl, rfl, rfl⟩
    · rw [same.2.1] at mem
      exact change.offers_kept plain offer mem

end

/-- An offer with the time of the response has its terms. -/
def OrderTables.TokenTells (response : OfferDto) (tables : OrderTables) : Prop :=
  ∀ offer ∈ tables.offers, offer.id = response.id → toIso offer.editedAt = response.editedAt →
    offer.Shows response

/-- The offer has other terms than the response. -/
def OrderTables.Misleads (response : OfferDto) (tables : OrderTables) : Prop :=
  ∀ offer ∈ tables.offers, offer.id = response.id → ¬offer.Shows response

section

variable {response : OfferDto} {tables : OrderTables} {world : World} {request : Request}

theorem OrderTables.TokenTells.of_read {users : Uuid → User} {viewer : Uuid}
    (keyed : tables.WellKeyed)
    (read : response ∈ (toOrderDetail (OrdersService.detailRow users tables) viewer).offers) :
    tables.TokenTells response := by
  rcases OrdersService.offer_of_mem_card read with ⟨offer, mem, rfl⟩
  intro other otherMem sameId _
  rw [Rows.eq_of_key keyed.offerIds otherMem mem sameId]
  exact ⟨rfl, rfl, rfl⟩

/-- A request that writes the offer of the response leaves it as written. -/
theorem World.written_offer (wellFormed : world.WellFormed) {write : OfferWrite}
    (isWrite : write ∈ request.offerWrite? world.tables) {offer : Offer}
    (mem : offer ∈ (world.step request).tables.offers) (sameId : offer.id = write.id) :
    offer.IsAs write := by
  rcases (World.step_writes wellFormed request).1 write isWrite with ⟨written, writtenMem, isAs⟩
  have stillKeyed := (wellFormed.step request).keyed
  rw [Rows.eq_of_key stillKeyed.offerIds mem writtenMem (sameId.trans isAs.id.symm)]
  exact isAs

/-- A request that does not write it leaves it as it was. -/
theorem World.unwritten_offer (wellFormed : world.WellFormed)
    (unwritten : ¬response.IsWritten world request) {offer : Offer}
    (mem : offer ∈ (world.step request).tables.offers) (sameId : offer.id = response.id) :
    ∃ old ∈ world.tables.offers, old.SameTerms offer := by
  rcases (World.step_writes wellFormed request).2 offer mem with ⟨write, isWrite, isAs⟩ | kept
  · exact absurd ⟨write, isWrite, isAs.id.symm.trans sameId⟩ unwritten
  · exact kept

theorem OrderTables.TokenTells.made (wellFormed : world.WellFormed)
    (written : response.IsWritten world request) (apart : response.ToldApart world request) :
    (world.step request).tables.TokenTells response := by
  rcases written with ⟨write, isWrite, writeId⟩
  intro offer mem sameId sameTime
  have isAs := World.written_offer wellFormed isWrite mem (sameId.trans writeId.symm)
  rcases apart write isWrite with edited | repeats
  · rw [isAs.editedAt] at sameTime
    exact absurd sameTime.symm edited
  · exact isAs.shows_iff.mpr repeats

theorem OrderTables.TokenTells.kept (wellFormed : world.WellFormed)
    (unwritten : ¬response.IsWritten world request) (told : world.tables.TokenTells response) :
    (world.step request).tables.TokenTells response := by
  intro offer mem sameId sameTime
  rcases World.unwritten_offer wellFormed unwritten mem sameId with ⟨old, oldMem, same⟩
  exact same.shows_iff.mp
    (told old oldMem (same.id.trans sameId) (same.editedAt ▸ sameTime))

theorem OrderTables.Misleads.made (wellFormed : world.WellFormed)
    (written : response.IsWritten world request) (confused : ¬response.ToldApart world request) :
    (world.step request).tables.Misleads response := by
  simp only [OfferDto.ToldApart, not_forall] at confused
  rcases confused with ⟨write, isWrite, same⟩
  rcases written with ⟨other, isOther, otherId⟩
  have writeId : write.id = response.id := by
    rw [Option.mem_unique isWrite isOther]
    exact otherId
  intro offer mem sameId shows_
  have isAs := World.written_offer wellFormed isWrite mem (sameId.trans writeId.symm)
  exact same (Or.inr (isAs.shows_iff.mp shows_))

theorem OrderTables.Misleads.kept (wellFormed : world.WellFormed)
    (unwritten : ¬response.IsWritten world request) (misled : world.tables.Misleads response) :
    (world.step request).tables.Misleads response := by
  intro offer mem sameId shows_
  rcases World.unwritten_offer wellFormed unwritten mem sameId with ⟨old, oldMem, same⟩
  exact misled old oldMem (same.id.trans sameId) (same.shows_iff.mpr shows_)

end

/-- An acceptance that returned has written the terms of the response if and only if the offer had
them. -/
theorem dealtAs_iff {response : OfferDto} {tables next : OrderTables}
    {environment : Environment} {orderId : Uuid} {applied : AppliedTransition}
    (keyed : tables.WellKeyed)
    (returned : (acceptResponse environment orderId response).run tables = .ok (applied, next)) :
    ∃ offer ∈ tables.offers, offer.id = response.id ∧
      toIso offer.editedAt = response.editedAt ∧
        (next.DealtAs response ↔ offer.Shows response) := by
  rcases OrderTransitionService.run_ok_after returned with ⟨offer, allowed, order, offers, _⟩
  have isChosen : offer.id = response.id := by simpa using List.find?_some allowed.resolved
  have accepted : offer.withStatus environment.now .accepted ∈ next.offers := by
    rw [offers]
    exact OrderTables.accepted_mem allowed.mem
  have sameIds : next.offers.map Offer.id = tables.offers.map Offer.id := by
    rw [offers]
    exact OrderTransitionCommand.after_offers_map fun _ _ => rfl
  have price : next.order.price = some offer.proposedPrice := by
    rw [order]
    rfl
  have deadline : next.order.deadline = some offer.proposedDeadline := by
    rw [order]
    rfl
  refine ⟨offer, allowed.mem, isChosen, allowed.terms.2, ?_, ?_⟩
  · rintro ⟨samePrice, sameDeadline, other, otherMem, otherId, comment⟩
    rw [price] at samePrice
    rw [deadline] at sameDeadline
    rw [Rows.eq_of_key (sameIds ▸ keyed.offerIds) otherMem accepted
      (otherId.trans isChosen.symm)] at comment
    exact ⟨Option.some.inj samePrice, Option.some.inj sameDeadline, comment⟩
  · rintro ⟨samePrice, sameDeadline, comment⟩
    refine ⟨?_, ?_, _, accepted, isChosen, comment⟩
    · rw [price]
      exact congrArg some samePrice
    · rw [deadline]
      exact congrArg some sameDeadline

/-- The client reads an offer and accepts it later with the time it read.  An acceptance that
commits writes the terms of the response if and only if the last submission between the two that
wrote the offer, where there is one, is told apart by that time. -/
theorem accepted_terms_are_seen (id : Uuid) (orderNumber : ℕ) (now : Date) (clientId : Uuid)
    (dto : CreateOrderDto) (before between : List Request) (users : Uuid → User)
    (environment : Environment) (orderId : Uuid) (response : OfferDto)
    (read : response ∈ (toOrderDetail (OrdersService.detailRow users
      (reached id orderNumber now clientId dto before).tables) clientId).offers)
    (commits : Transaction.succeeds (acceptResponse environment orderId response)
      (reached id orderNumber now clientId dto (before ++ between)).tables = true) :
    (Transaction.commit (acceptResponse environment orderId response)
        (reached id orderNumber now clientId dto (before ++ between)).tables).DealtAs response ↔
      Runs.AtLast World.step response.IsWritten response.ToldApart
        (reached id orderNumber now clientId dto before) between := by
  have wellFormed := (reached_coupled id orderNumber now clientId dto before).1
  have stillWellFormed := (reached_coupled id orderNumber now clientId dto (before ++ between)).1
  have preserved : ∀ (world : World) (request : Request), world.WellFormed →
      (world.step request).WellFormed := fun _ request holds => holds.step request
  rcases Transaction.succeeds_iff.mp commits with ⟨applied, returned⟩
  rcases dealtAs_iff stillWellFormed.keyed returned with ⟨offer, mem, sameId, sameTime, dealt_iff⟩
  rw [dealt_iff]
  rw [reached_append] at mem
  constructor
  · intro shows_
    by_contra confused
    rcases Runs.AtLast.not confused with ⟨opposite, written⟩
    have misled := opposite.holds preserved
      (fun _ _ holds marked unmet => OrderTables.Misleads.made holds marked unmet)
      (fun _ _ holds unmarked misled => OrderTables.Misleads.kept holds unmarked misled)
      wellFormed (fun unwritten => absurd unwritten written)
    exact misled offer mem sameId shows_
  · intro atLast
    have told := atLast.holds preserved
      (fun _ _ holds marked met => OrderTables.TokenTells.made holds marked met)
      (fun _ _ holds unmarked told => OrderTables.TokenTells.kept holds unmarked told)
      wellFormed (fun _ => OrderTables.TokenTells.of_read wellFormed.keyed read)
    exact told offer mem sameId sameTime

def exampleWorld (requests : List Request) : World :=
  reached ⟨1⟩ 1 exampleMoment ⟨9⟩ exampleOrder requests

def exampleResponse : OfferDto :=
  { id := ⟨11⟩, orderId := ⟨1⟩, companyId := ⟨2⟩, companyName := "", status := .sent
    proposedPrice := "2", proposedDeadline := "1970-01-01T00:00:00.000Z", comment := none
    createdAt := "1970-01-01T00:00:00.005Z", editedAt := some "1970-01-01T00:00:00.005Z"
    updatedAt := "1970-01-01T00:00:00.005Z", rejectionCount := 0 }

/-- Two more edits in the tick of the one that the client has read, the last back to its terms. -/
theorem accepted_terms_are_seen_edited_back :
    (Transaction.commit (acceptResponse (exampleEnvironment ⟨11⟩) ⟨1⟩ exampleResponse)
      (exampleWorld ([exampleSubmission ⟨2⟩ ⟨11⟩ 100, exampleSubmission ⟨2⟩ ⟨11⟩ 200] ++
        [exampleSubmission ⟨2⟩ ⟨11⟩ 300, exampleSubmission ⟨2⟩ ⟨11⟩ 200])).tables).DealtAs
          exampleResponse := by
  have seen := accepted_terms_are_seen ⟨1⟩ 1 exampleMoment ⟨9⟩ exampleOrder
    [exampleSubmission ⟨2⟩ ⟨11⟩ 100, exampleSubmission ⟨2⟩ ⟨11⟩ 200]
    [exampleSubmission ⟨2⟩ ⟨11⟩ 300, exampleSubmission ⟨2⟩ ⟨11⟩ 200]
    (exampleEnvironment ⟨11⟩).users (exampleEnvironment ⟨11⟩) ⟨1⟩ exampleResponse
    (by decide +kernel) (by decide +kernel)
  exact seen.mpr (by decide +kernel)

/-- The company edits its offer in the tick of the edit the client has read, and the client's
acceptance takes the new price. -/
theorem accepted_terms_unseen :
    let before := [exampleSubmission ⟨2⟩ ⟨11⟩ 100, exampleSubmission ⟨2⟩ ⟨11⟩ 200]
    let between := [exampleSubmission ⟨2⟩ ⟨11⟩ 300]
    let accept := acceptResponse (exampleEnvironment ⟨11⟩) ⟨1⟩ exampleResponse
    exampleResponse ∈ (toOrderDetail (OrdersService.detailRow (exampleEnvironment ⟨11⟩).users
        (exampleWorld before).tables) ⟨9⟩).offers ∧
      Transaction.succeeds accept (exampleWorld (before ++ between)).tables = true ∧
      ¬(Transaction.commit accept (exampleWorld (before ++ between)).tables).DealtAs
        exampleResponse := by
  decide +kernel

end MyBuild
