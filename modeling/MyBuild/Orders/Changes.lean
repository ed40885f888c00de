import MyBuild.Demo.Reset
import MyBuild.Orders.Workflow

/-!
# What a committed request can do to an order

`OrderChange` lists every way a committed request changes the rows of an order, its
notifications apart, with what the request has checked before.  Each request is shown
to make one of these changes; the invariants of the later modules are then case
analyses over the list and never look at a request again.
-/

namespace MyBuild

/-- The kinds of request that are told apart: those that write the terms of an offer, those that
close a round, the plain transitions, the reset of the demo accounts, and all others. -/
inductive RequestKind where
  | offerSubmission (environment : Environment) (editedAt : Date) (companyId : Uuid)
      (dto : CreateOfferDto)
  | workSubmission
  | transition (event : OrderEventType) (offerId : Option Uuid)
  | roundOpening (environment : Environment)
  | demoReset
  | other

/-- A change of the rows of one order, notifications apart, by a request of a kind. -/
inductive OrderChange (tables : OrderTables) : RequestKind → OrderTables → Prop where
  | offerCreated (environment : Environment) (editedAt : Date) (companyId : Uuid)
      (dto : CreateOfferDto)
      (accepts : acceptsOffers tables.order.status = true)
      (absent : ∀ offer ∈ tables.offers, offer.companyId ≠ companyId)
      (freshId : ∀ offer ∈ tables.offers, offer.id ≠ environment.offerId) :
      OrderChange tables (.offerSubmission environment editedAt companyId dto) { tables with
        order := tables.order.withStatus environment.now .awaitingConfirmation
        offers := tables.offers ++ [Offer.create environment tables.order.id companyId dto] }
  | offerEdited (existing : Offer) (environment : Environment) (editedAt : Date)
      (dto : CreateOfferDto)
      (accepts : acceptsOffers tables.order.status = true)
      (mem : existing ∈ tables.offers)
      (resubmittable : existing.status ∈ offerPreconditions .offerSubmitted)
      (notFinal : isFinallyRejected (some existing.status) existing.rejectionCount = false) :
      OrderChange tables (.offerSubmission environment editedAt existing.companyId dto)
        { tables with
          order := tables.order.withStatus environment.now .awaitingConfirmation
          offers := editOffers editedAt environment.now existing.companyId dto tables.offers }
  | transition (environment : Environment) (command : OrderTransitionCommand) (offer : Offer)
      (allowed : command.Allowed environment tables offer)
      (plain : command.type ≠ .offerSubmitted ∧ command.type ≠ .workSubmitted) :
      OrderChange tables (.transition command.type command.offerId)
        (command.after environment.now offer tables)
  | workSubmitted (environment : Environment) (orderId : Uuid) (offer : Offer)
      (submission : OrderSubmission)
      (allowed : (OrderTransitionCommand.workSubmitted orderId).Allowed environment tables offer)
      (found : OrderWorkflowService.findOpenSubmission tables.submissions = some submission)
      (filled : OrderWorkflowService.companyFiles submission.round tables.files ≠ 0) :
      OrderChange tables .workSubmission
        { (OrderTransitionCommand.workSubmitted orderId).after environment.now offer tables with
          submissions := OrderWorkflowService.closeSubmission environment.now submission.id
            tables.submissions }
  | submissionOpened (environment : Environment) (comment : String)
      (uploads : canUploadWork tables.order.status = true)
      (noneOpen : OrderWorkflowService.findOpenSubmission tables.submissions = none)
      (freshId : ∀ submission ∈ tables.submissions, submission.id ≠ environment.submissionId) :
      OrderChange tables (.roundOpening environment) { tables with
        submissions := tables.submissions ++ [OrderSubmission.create environment
          ((OrderWorkflowService.latestSubmission tables.submissions).elim 0
            OrderSubmission.round + 1) comment] }
  | submissionFilled (submission : OrderSubmission) (comment : String) (rows : List OrderFile)
      (uploads : canUploadWork tables.order.status = true)
      (mem : submission ∈ tables.submissions)
      (isOpen : submission.submittedAt = none)
      (owned : ∀ row ∈ rows, row.ownerType = .company ∧ row.submissionRound = submission.round) :
      OrderChange tables .other { tables with
        submissions := OrderWorkflowService.commentSubmission submission.id comment
          tables.submissions
        files := tables.files ++ rows }
  | clientFilesAdded (rows : List OrderFile)
      (owned : ∀ row ∈ rows, row.ownerType = .client ∧ row.submissionRound = 0) :
      OrderChange tables .other { tables with files := tables.files ++ rows }
  | areaVerified (now : Date) (area : Decimal)
      (verifiable : canVerifyArea tables.order.status = true) :
      OrderChange tables .other { tables with
        order := { tables.order with verifiedSquareMeters := some area, updatedAt := now } }
  | offersDropped (demoIds : List Uuid) :
      OrderChange tables .demoReset { tables with
        offers := tables.offers.filter (!·.isDemoTrace demoIds) }

namespace OrderTables

def ChangesTo (before : OrderTables) (kind : RequestKind) (after : OrderTables) : Prop :=
  before.SameOrderRows after ∨
    ∃ middle, OrderChange before kind middle ∧ middle.SameOrderRows after

theorem SameOrderRows.trans {first second third : OrderTables}
    (firstSame : first.SameOrderRows second) (secondSame : second.SameOrderRows third) :
    first.SameOrderRows third := by
  rcases firstSame with ⟨order, offers, submissions, files⟩
  rcases secondSame with ⟨order', offers', submissions', files'⟩
  exact ⟨order'.trans order, offers'.trans offers, submissions'.trans submissions,
    files'.trans files⟩

theorem SameOrderRows.iff {Holds : OrderTables → Prop}
    (blind : ∀ tables notifications, Holds { tables with notifications } ↔ Holds tables)
    {before after : OrderTables} (same : before.SameOrderRows after) :
    Holds after ↔ Holds before := by
  rcases same with ⟨order, offers, submissions, files⟩
  rw [← blind before after.notifications]
  cases after
  simp only at order offers submissions files
  subst order offers submissions files
  exact Iff.rfl

end OrderTables

namespace OrderTransitionService

theorem run_changes {environment : Environment} {command : OrderTransitionCommand}
    {tables next : OrderTables} {applied : AppliedTransition}
    (plain : command.type ≠ .offerSubmitted ∧ command.type ≠ .workSubmitted)
    (returned : (run environment command).run tables = .ok (applied, next)) :
    tables.ChangesTo (.transition command.type command.offerId) next := by
  rcases run_ok_after returned with ⟨offer, allowed, same⟩
  exact Or.inr ⟨_, OrderChange.transition environment command offer allowed plain, same⟩

end OrderTransitionService

namespace OffersService

variable {environment : Environment} {tables next : OrderTables}

theorem leaveSelection_ok {offerId : Uuid} {actor : OfferActor} {updated : Offer}
    {event : Uuid → Uuid → OrderTransitionCommand}
    (returned : (leaveSelection environment offerId actor event).run tables =
      .ok (updated, next)) :
    ∃ offer applied, tables.offers.find?
        (fun offer => offer.id == offerId && actor.related tables offer) = some offer ∧
      (OrderTransitionService.run environment (event offer.orderId offerId)).run tables =
        .ok (applied, next) := by
  simp only [leaveSelection] at returned
  rcases Transaction.run_bind_eq_ok.mp returned with ⟨offer, _, ranFind, afterFind⟩
  rcases findOffer_eq_ok_iff.mp ranFind with ⟨found, rfl⟩
  rcases Transaction.run_bind_eq_ok.mp afterFind with ⟨applied, after, ranTransition, afterRun⟩
  rw [Transaction.run_get_bind] at afterRun
  split at afterRun
  · rw [Transaction.run_pure_eq_ok] at afterRun
    cases afterRun
    exact ⟨offer, applied, found, ranTransition⟩
  · cases afterRun

theorem leaveSelection_changes {offerId : Uuid} {actor : OfferActor} {updated : Offer}
    {event : Uuid → Uuid → OrderTransitionCommand} {type : OrderEventType}
    (isType : ∀ orderId, (event orderId offerId).type = type ∧
      (event orderId offerId).offerId = some offerId)
    (plain : type ≠ .offerSubmitted ∧ type ≠ .workSubmitted)
    (returned : (leaveSelection environment offerId actor event).run tables =
      .ok (updated, next)) :
    tables.ChangesTo (.transition type (some offerId)) next := by
  rcases leaveSelection_ok returned with ⟨offer, applied, _, ranTransition⟩
  rcases isType offer.orderId with ⟨rfl, sameOffer⟩
  rw [← sameOffer]
  exact OrderTransitionService.run_changes plain ranTransition

theorem acceptsOffers_of_listed {status : OrderStatus}
    (listed : OrderEventType.offerSubmitted ∈ orderTransitions status) :
    acceptsOffers status = true := by
  cases status <;> revert listed <;> decide

/-- The transition writes the status of an offer that was sent in the same transaction once more,
which changes nothing. -/
theorem updateOffers_sent_eq_self {now : Date} {id : Uuid} {offers : List Offer}
    (written : ∀ offer ∈ offers, offer.id = id → offer.status = .sent ∧ offer.updatedAt = now) :
    updateOffers now .sent [id] offers = offers := by
  apply Rows.updateWhere_eq_self
  intro offer mem chosen
  rcases written offer mem (List.mem_singleton.mp chosen) with ⟨status, updatedAt⟩
  cases offer
  simp only at status updatedAt
  subst status updatedAt
  rfl

/-- The upsert leaves the company's offer, just sent, and no other row with its identifier. -/
theorem upsertOffer_ok {editedAt : Date} {orderId companyId : Uuid} {dto : CreateOfferDto}
    {created : Offer} (keyed : tables.WellKeyed)
    (returned : (upsertOffer environment editedAt orderId companyId dto).run tables =
      .ok (created, next)) :
    next.order = tables.order ∧ created ∈ next.offers ∧ (next.offers.map Offer.id).Nodup ∧
      created.status = .sent ∧ created.updatedAt = environment.now := by
  rcases run_upsertOffer_eq_ok.mp returned with
    ⟨existing, found, rfl, rfl⟩ | ⟨absent, freshId, rfl, rfl⟩
  · have company : existing.companyId = companyId := by simpa using List.find?_some found
    have ids : (editOffers editedAt environment.now companyId dto tables.offers).map Offer.id =
        tables.offers.map Offer.id := Rows.map_updateWhere fun _ => rfl
    refine ⟨rfl, ?_, ids ▸ keyed.offerIds, rfl, rfl⟩
    exact Rows.mem_updateWhere.mpr
      ⟨existing, List.mem_of_find?_eq_some found, (if_pos company).symm⟩
  · refine ⟨rfl, by simp, ?_, rfl, rfl⟩
    simpa [List.nodup_append, keyed.offerIds] using freshId

theorem submit_ok {editedAt : Date} {companyId : Uuid} {dto : CreateOfferDto}
    {created : Offer} (keyed : tables.WellKeyed)
    (returned : (submit environment editedAt companyId dto).run tables = .ok (created, next)) :
    dto.orderId = tables.order.id ∧
      ∃ middle, OrderChange tables (.offerSubmission environment editedAt companyId dto) middle ∧
        middle.SameOrderRows next := by
  simp only [submit] at returned
  rcases Transaction.run_bind_eq_ok.mp returned with ⟨order, tables, locked, afterLock⟩
  rcases run_lockOrder_eq_ok.mp locked with ⟨sameId, rfl, rfl⟩
  rw [Transaction.run_get_bind] at afterLock
  rcases Transaction.run_bind_eq_ok.mp afterLock with ⟨row, middle, upserted, afterUpsert⟩
  rcases Transaction.run_bind_eq_ok.mp afterUpsert with ⟨applied, final, ran, finished⟩
  rw [Transaction.run_pure_eq_ok] at finished
  cases finished
  rcases OrderTransitionService.run_ok_after ran with ⟨offer, allowed, same⟩
  rcases upsertOffer_ok keyed upserted with ⟨sameOrder, rowMem, unique, isSent, updatedAt⟩
  have isRow : offer = created := by
    apply Rows.eq_of_key unique (List.mem_of_find?_eq_some allowed.resolved) rowMem
    simpa using List.find?_some allowed.resolved
  subst isRow
  have written : updateOffers environment.now .sent [offer.id] middle.offers = middle.offers := by
    apply updateOffers_sent_eq_self
    intro other otherMem otherId
    rw [Rows.eq_of_key unique otherMem rowMem otherId]
    exact ⟨isSent, updatedAt⟩
  simp only [OrderTransitionCommand.after, written] at same
  have accepts := acceptsOffers_of_listed allowed.listed
  refine ⟨sameId, ?_⟩
  rcases run_upsertOffer_eq_ok.mp upserted with
    ⟨existing, found, rfl, rfl⟩ | ⟨absent, freshId, rfl, rfl⟩
  · have company : existing.companyId = companyId := by simpa using List.find?_some found
    subst company
    rw [found] at allowed
    exact ⟨_, OrderChange.offerEdited existing environment editedAt dto accepts
      (List.mem_of_find?_eq_some found) (allowed.precondition existing.status rfl) allowed.terms,
      same⟩
  · simp only [List.any_eq_false, beq_iff_eq] at freshId
    exact ⟨_, OrderChange.offerCreated environment editedAt companyId dto accepts
      (by simpa using absent) freshId, same⟩

theorem submit_changes {editedAt : Date} {companyId : Uuid} {dto : CreateOfferDto}
    {created : Offer} (keyed : tables.WellKeyed)
    (returned : (submit environment editedAt companyId dto).run tables = .ok (created, next)) :
    tables.ChangesTo (.offerSubmission environment editedAt companyId dto) next :=
  Or.inr (submit_ok keyed returned).2

end OffersService

namespace OrderWorkflowService

variable {environment : Environment} {tables next : OrderTables} {orderId : Uuid}

theorem submitWork_ok {applied : AppliedTransition}
    (returned : (submitWork environment orderId).run tables = .ok (applied, next)) :
    ∃ offer submission,
      (OrderTransitionCommand.workSubmitted orderId).Allowed environment tables offer ∧
      findOpenSubmission tables.submissions = some submission ∧
      companyFiles submission.round tables.files ≠ 0 ∧
      ({ (OrderTransitionCommand.workSubmitted orderId).after environment.now offer tables with
        submissions := closeSubmission environment.now submission.id tables.submissions } :
        OrderTables).SameOrderRows next := by
  simp only [submitWork] at returned
  rcases Transaction.run_bind_eq_ok.mp returned with ⟨order, tables, locked, afterLock⟩
  rcases run_lockOrder_eq_ok.mp locked with ⟨_, rfl, rfl⟩
  rw [Transaction.run_get_bind] at afterLock
  rcases Transaction.run_bind_eq_ok.mp afterLock with ⟨transition, moved, ran, afterRun⟩
  rcases OrderTransitionService.run_ok_after ran with ⟨offer, allowed, same⟩
  split at afterRun
  case h_1 => cases afterRun
  case h_2 submission found =>
    rw [Transaction.run_get_bind] at afterRun
    rcases same with ⟨sameOrder, sameOffers, sameSubmissions, sameFiles⟩
    split at afterRun
    case isTrue => cases afterRun
    case isFalse filled =>
      cases afterRun
      rw [sameFiles] at filled
      exact ⟨offer, submission, allowed, found, filled, sameOrder, sameOffers,
        congrArg (closeSubmission environment.now submission.id) sameSubmissions, sameFiles⟩

theorem submitWork_changes {applied : AppliedTransition}
    (returned : (submitWork environment orderId).run tables = .ok (applied, next)) :
    tables.ChangesTo .workSubmission next := by
  rcases submitWork_ok returned with ⟨offer, submission, allowed, found, filled, same⟩
  exact Or.inr ⟨_, OrderChange.workSubmitted environment orderId offer submission allowed found
    filled, same⟩

theorem openSubmission_ok {comment : String} {opened : OpenSubmission}
    (returned : (openSubmission environment orderId comment).run tables = .ok (opened, next)) :
    orderId = tables.order.id ∧ canUploadWork tables.order.status = true ∧
      ((∃ submission, findOpenSubmission tables.submissions = some submission ∧
          opened.id = submission.id ∧ opened.round = submission.round ∧ next = tables) ∨
        (findOpenSubmission tables.submissions = none ∧
          (∀ submission ∈ tables.submissions, submission.id ≠ environment.submissionId) ∧
          opened.id = environment.submissionId ∧
          opened.round = (latestSubmission tables.submissions).elim 0 OrderSubmission.round + 1 ∧
          next = { tables with
            submissions := tables.submissions ++
              [OrderSubmission.create environment opened.round comment] })) := by
  unfold openSubmission at returned
  rcases Transaction.run_bind_eq_ok.mp returned with ⟨order, tables, locked, afterLock⟩
  rcases run_lockOrder_eq_ok.mp locked with ⟨sameId, rfl, rfl⟩
  split at afterLock
  case isFalse => cases afterLock
  case isTrue uploads =>
    rw [Transaction.run_get_bind] at afterLock
    dsimp only at afterLock
    split at afterLock
    case h_1 submission found =>
      cases afterLock
      exact ⟨sameId, uploads, Or.inl ⟨submission, found, rfl, rfl, rfl⟩⟩
    case h_2 noneOpen =>
      split at afterLock
      case isTrue => cases afterLock
      case isFalse freshId =>
        cases afterLock
        rw [Bool.not_eq_true, List.any_eq_false] at freshId
        refine ⟨sameId, uploads, Or.inr ⟨noneOpen, ?_, rfl, rfl, rfl⟩⟩
        simpa using freshId

theorem openSubmission_changes {comment : String} {opened : OpenSubmission}
    (returned : (openSubmission environment orderId comment).run tables = .ok (opened, next)) :
    tables.ChangesTo (.roundOpening environment) next := by
  rcases openSubmission_ok returned with
    ⟨_, uploads, ⟨_, _, _, _, rfl⟩ | ⟨noneOpen, freshId, _, sameRound, rfl⟩⟩
  · exact Or.inl (OrderTables.SameOrderRows.refl _)
  · rw [sameRound]
    exact Or.inr ⟨_, OrderChange.submissionOpened environment comment uploads noneOpen freshId,
      OrderTables.SameOrderRows.refl _⟩

theorem assertSubmissionOpen_eq_ok_iff {submissionId : Uuid} {submission : OrderSubmission} :
    (assertSubmissionOpen orderId submissionId).run tables = .ok (submission, next) ↔
      orderId = tables.order.id ∧ canUploadWork tables.order.status = true ∧
        tables.submissions.find? (fun submission =>
          submission.id == submissionId && submission.submittedAt.isNone) = some submission ∧
        next = tables := by
  simp only [assertSubmissionOpen]
  rw [Transaction.run_bind_eq_ok]
  constructor
  · rintro ⟨order, tables, locked, afterLock⟩
    rcases run_lockOrder_eq_ok.mp locked with ⟨sameId, rfl, rfl⟩
    split at afterLock
    case isFalse => cases afterLock
    case isTrue uploads =>
      rw [Transaction.run_get_bind] at afterLock
      split at afterLock
      case h_2 => cases afterLock
      case h_1 found =>
        cases afterLock
        exact ⟨sameId, uploads, found, rfl⟩
  · rintro ⟨sameId, uploads, found, rfl⟩
    refine ⟨_, _, run_lockOrder_eq_ok.mpr ⟨sameId, rfl, rfl⟩, ?_⟩
    rw [if_pos uploads, Transaction.run_get_bind, found]
    rfl

theorem saveComment_ok {submissionId : Uuid} {comment : String} {changed : Bool}
    (keyed : tables.WellKeyed)
    (returned : (saveComment orderId submissionId comment).run tables = .ok (changed, next)) :
    canUploadWork tables.order.status = true ∧
      ∃ submission ∈ tables.submissions, submission.id = submissionId ∧
        submission.submittedAt = none ∧
        next = { tables with
          submissions := commentSubmission submissionId comment tables.submissions } := by
  simp only [saveComment] at returned
  rcases Transaction.run_bind_eq_ok.mp returned with ⟨submission, tables, ran, afterCheck⟩
  rcases assertSubmissionOpen_eq_ok_iff.mp ran with ⟨_, uploads, found, rfl⟩
  have mem := List.mem_of_find?_eq_some found
  have fits := List.find?_some found
  simp only [Bool.and_eq_true, beq_iff_eq, Option.isNone_iff_eq_none] at fits
  refine ⟨uploads, submission, mem, fits.1, fits.2, ?_⟩
  split at afterCheck
  case isTrue same =>
    cases afterCheck
    rw [commentSubmission, Rows.updateWhere_eq_self]
    intro other otherMem otherId
    have isSame := Rows.eq_of_key keyed.submissionIds otherMem mem (otherId.trans fits.1.symm)
    rw [isSame, ← same]
  case isFalse =>
    cases afterCheck
    rfl

theorem saveComment_changes {submissionId : Uuid} {comment : String} {changed : Bool}
    (keyed : tables.WellKeyed)
    (returned : (saveComment orderId submissionId comment).run tables = .ok (changed, next)) :
    tables.ChangesTo .other next := by
  rcases saveComment_ok keyed returned with ⟨uploads, submission, mem, sameId, isOpen, rfl⟩
  subst sameId
  have change := OrderChange.submissionFilled submission comment [] uploads mem isOpen (by simp)
  rw [List.append_nil] at change
  exact Or.inr ⟨_, change, OrderTables.SameOrderRows.refl _⟩

theorem insertFiles_changes {elsewhere : FilesService.Elsewhere} {submission : OpenSubmission}
    {comment : String} {fresh : List PreparedFile} {created : List OrderFile}
    (keyed : tables.WellKeyed)
    (sameRound : ∀ row ∈ tables.submissions, row.id = submission.id →
      row.round = submission.round)
    (returned : (FilesService.insertFiles environment elsewhere
      (attachParams environment orderId submission comment) fresh).run tables =
        .ok (created, next)) :
    tables.ChangesTo .other next := by
  rcases FilesService.insertFiles_ok returned with ⟨guarded, ranGuard, _, _, isCreated, outcome⟩
  rcases Transaction.run_bind_eq_ok.mp ranGuard with ⟨changed, _, saved, finished⟩
  cases finished
  rcases saveComment_ok keyed saved with ⟨uploads, row, mem, sameId, isOpen, rfl⟩
  have owned : ∀ file ∈ created,
      file.ownerType = .company ∧ file.submissionRound = row.round := by
    intro file fileMem
    rw [isCreated] at fileMem
    rcases List.mem_mapIdx.mp ((FilesService.skipDuplicates_sublist _ _).subset fileMem) with
      ⟨index, bound, rfl⟩
    exact ⟨rfl, (sameRound row mem sameId).symm⟩
  have change := OrderChange.submissionFilled row comment created uploads mem isOpen owned
  rw [sameId] at change
  refine Or.inr ⟨_, change, ?_⟩
  rcases outcome with ⟨_, rfl⟩ | ⟨_, attached⟩
  · exact OrderTables.SameOrderRows.refl _
  · exact sameOrderRows_of_notify attached

theorem verifyArea_ok {status : OrderStatus} {area : Decimal} {value : Unit}
    (returned : (verifyArea environment orderId status area).run tables = .ok (value, next)) :
    canVerifyArea tables.order.status = true ∧ tables.ChangesTo .other next := by
  simp only [verifyArea] at returned
  split at returned
  case isFalse => cases returned
  case isTrue =>
    rcases Transaction.run_bind_eq_ok.mp returned with ⟨order, tables, locked, afterLock⟩
    rcases run_lockOrder_eq_ok.mp locked with ⟨_, rfl, rfl⟩
    split at afterLock
    case isFalse => cases afterLock
    case isTrue verifiable =>
      split at afterLock
      case isTrue =>
        cases afterLock
        exact ⟨verifiable, Or.inl (OrderTables.SameOrderRows.refl _)⟩
      case isFalse =>
        rcases Transaction.run_bind_eq_ok.mp afterLock with ⟨_, written, wrote, notified⟩
        cases wrote
        exact ⟨verifiable, Or.inr ⟨_, OrderChange.areaVerified environment.now area verifiable,
          sameOrderRows_of_notify notified⟩⟩

end OrderWorkflowService

/-- The files a client attaches to its order: no guard, nothing to add, round 0. -/
def OrdersService.clientAttachParams (orderId : Uuid) : FilesService.AttachFilesParams :=
  { orderId
    ownerType := .client
    submissionRound := 0
    guard := pure ()
    onAttached := fun _ => pure () }

theorem OrdersService.insertFiles_changes {environment : Environment}
    {elsewhere : FilesService.Elsewhere} {orderId : Uuid} {fresh : List PreparedFile}
    {created : List OrderFile} {tables next : OrderTables}
    (returned : (FilesService.insertFiles environment elsewhere (clientAttachParams orderId)
      fresh).run tables = .ok (created, next)) :
    tables.ChangesTo .other next := by
  rcases FilesService.insertFiles_ok returned with ⟨guarded, ranGuard, _, _, isCreated, outcome⟩
  cases ranGuard
  have owned : ∀ file ∈ created, file.ownerType = .client ∧ file.submissionRound = 0 := by
    intro file fileMem
    rw [isCreated] at fileMem
    rcases List.mem_mapIdx.mp ((FilesService.skipDuplicates_sublist _ _).subset fileMem) with
      ⟨index, bound, rfl⟩
    exact ⟨rfl, rfl⟩
  refine Or.inr ⟨_, OrderChange.clientFilesAdded created owned, ?_⟩
  rcases outcome with ⟨_, rfl⟩ | ⟨_, attached⟩
  · exact OrderTables.SameOrderRows.refl _
  · cases attached
    exact OrderTables.SameOrderRows.refl _

theorem OrderTables.dropDemoTraces_changes (demoIds : List Uuid) (tables : OrderTables) :
    tables.ChangesTo .demoReset (tables.dropDemoTraces demoIds) :=
  Or.inr ⟨_, OrderChange.offersDropped demoIds, rfl, rfl, rfl, rfl⟩

end MyBuild
