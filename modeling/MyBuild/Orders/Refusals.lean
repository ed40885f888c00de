import MyBuild.Orders.Routes
import MyBuild.Orders.Submissions

/-!
# When a route refuses

Exactly when each route of an order is refused as forbidden, not found or conflicting.
What else can go wrong behind the guards, the quota before all, is answered with other
codes and is no refusal.
-/

namespace MyBuild

section

variable {α β : Type} {tables next : OrderTables} {user : AuthUser} {orderId : Uuid}

theorem refuses_bind_left {tx : OrderTx α} {rest : α → OrderTx β}
    (answers : ∀ value next, tx.run tables = .ok (value, next) →
      refuses (rest value) next = false) :
    refuses (tx >>= rest) tables = refuses tx tables := by
  cases outcome : tx.run tables with
  | error error => rw [refuses_bind_of_error outcome, refuses_of_error outcome]
  | ok result =>
      rcases result with ⟨value, next⟩
      rw [refuses_bind_of_ok outcome, refuses_of_ok outcome]
      exact answers value next outcome

theorem answers_bind {tx : OrderTx α} {rest : α → OrderTx β} (first : refuses tx tables = false)
    (second : ∀ value next, tx.run tables = .ok (value, next) →
      refuses (rest value) next = false) :
    refuses (tx >>= rest) tables = false := by
  rw [refuses_bind_left second]
  exact first

/-- A transaction that only ever fails by refusing is refused unless it returns. -/
theorem answers_iff_returns {tx : OrderTx α}
    (refusals : ∀ error, tx.run tables = .error error → error.isRefusal = true) :
    refuses tx tables = false ↔ ∃ outcome, tx.run tables = .ok outcome := by
  cases outcome : tx.run tables with
  | error error => simp [refuses_of_error outcome, refusals error outcome]
  | ok result => simp [refuses_of_ok outcome]

theorem succeeds_iff_answers {tx : OrderTx α}
    (refusals : ∀ error, tx.run tables = .error error → error.isRefusal = true) :
    Transaction.succeeds tx tables = true ↔ refuses tx tables = false := by
  rw [answers_iff_returns refusals, Transaction.succeeds_iff]
  constructor
  · rintro ⟨value, returned⟩
    exact ⟨_, returned⟩
  · rintro ⟨⟨value, next⟩, returned⟩
    exact ⟨value, Transaction.commit_of_ok returned ▸ returned⟩

theorem answers_behind_guards {role : Role} {mode : OrderAccessMode}
    {rest : OrderAccessContext → OrderTx α} (found : tables.order.id = orderId) :
    refuses (do
      RolesGuard.canActivate role user
      let access ← OwnershipGuard.canActivate mode user orderId
      rest access) tables = false ↔
      user.role = some role ∧ OwnershipGuard.allows mode user tables = true ∧
        refuses (rest (OwnershipGuard.contextOf user tables)) tables = false := by
  rw [refuses_behind_role, refuses_behind_ownership found]
  simp

theorem OrderTables.ChangesTo.order_id {kind : RequestKind} (changes : tables.ChangesTo kind next) :
    next.order.id = tables.order.id := by
  rcases changes with same | ⟨middle, change, same⟩
  · rw [same.1]
  · rw [same.1, change.order_id]

theorem refuses_before_card {kind : RequestKind} {users : Uuid → User} {viewer : Uuid}
    {tx : OrderTx α} (found : tables.order.id = orderId)
    (changes : ∀ value next, tx.run tables = .ok (value, next) → tables.ChangesTo kind next) :
    refuses (do
      let _ ← tx
      OrdersService.getDetail users orderId viewer) tables = refuses tx tables := by
  apply refuses_bind_left
  intro value next returned
  have stillFound : next.order.id = orderId := (changes value next returned).order_id.trans found
  exact refuses_of_ok (OrdersService.run_getDetail_eq_ok.mpr ⟨stillFound, rfl, rfl⟩)

end

variable {environment : Environment} {user : AuthUser} {tables next : OrderTables} {orderId : Uuid}

theorem OrderTransitionService.answers_iff {command : OrderTransitionCommand} :
    refuses (run environment command) tables = false ↔
      ∃ offer, command.Allowed environment tables offer := by
  rw [answers_iff_returns fun _ thrown => run_error_isRefusal thrown]
  exact run_returns_iff

namespace OrderWorkflowService

/-- The three decisions of the client are one route, up to the command. -/
theorem clientDecision_answers_iff {command : Uuid → OrderTransitionCommand}
    (plain : ∀ orderId, (command orderId).type ≠ .offerSubmitted ∧
      (command orderId).type ≠ .workSubmitted)
    (found : tables.order.id = orderId) :
    refuses (do
      RolesGuard.canActivate .client user
      let access ← OwnershipGuard.canActivate .owner user orderId
      let _ ← OrderTransitionService.run environment (command access.orderId)
      OrdersService.getDetail environment.users access.orderId user.id) tables = false ↔
      user.role = some .client ∧ tables.order.clientId = user.id ∧
        ∃ offer, (command orderId).Allowed environment tables offer := by
  rw [answers_behind_guards found, OwnershipGuard.contextOf]
  rw [refuses_before_card rfl fun _ _ returned =>
    OrderTransitionService.run_changes (plain _) returned]
  rw [OrderTransitionService.answers_iff, found]
  simp [OwnershipGuard.allows]

theorem submitWork_answers_iff :
    refuses (submitWork environment orderId) tables = false ↔
      (∃ offer, (OrderTransitionCommand.workSubmitted orderId).Allowed environment tables offer) ∧
        ∃ submission, findOpenSubmission tables.submissions = some submission ∧
          companyFiles submission.round tables.files ≠ 0 := by
  have refusals : ∀ error, (submitWork environment orderId).run tables = .error error →
      error.isRefusal = true := by
    intro error thrown
    simp only [submitWork] at thrown
    rcases Transaction.run_bind_eq_error.mp thrown with lockFailed | ⟨_, _, locked, afterLock⟩
    · exact run_lockOrder_error lockFailed
    rcases run_lockOrder_eq_ok.mp locked with ⟨_, _, rfl⟩
    rw [Transaction.run_get_bind] at afterLock
    rcases Transaction.run_bind_eq_error.mp afterLock with refused | ⟨_, moved, _, afterRun⟩
    · exact OrderTransitionService.run_error_isRefusal refused
    split at afterRun
    · cases afterRun
      rfl
    · rw [Transaction.run_get_bind] at afterRun
      split at afterRun <;> cases afterRun
      rfl
  rw [answers_iff_returns refusals]
  constructor
  · rintro ⟨⟨applied, next⟩, returned⟩
    rcases submitWork_ok returned with ⟨offer, submission, allowed, found, filled, _⟩
    exact ⟨⟨offer, allowed⟩, submission, found, filled⟩
  · rintro ⟨⟨offer, allowed⟩, submission, found, filled⟩
    rcases OrderTransitionService.run_returns_iff.mpr ⟨offer, allowed⟩ with
      ⟨⟨applied, moved⟩, ran⟩
    rcases OrderTransitionService.run_ok_after ran with ⟨_, _, _, _, _, sameFiles⟩
    rw [OrderTransitionCommand.after_files] at sameFiles
    have locked : (lockOrder orderId).run tables = .ok (tables.order, tables) :=
      run_lockOrder_eq_ok.mpr ⟨allowed.sameOrder, rfl, rfl⟩
    simp only [submitWork]
    rw [Transaction.run_bind_of_ok locked, Transaction.run_get_bind,
      Transaction.run_bind_of_ok ran, found]
    simp only [Transaction.run_get_bind, sameFiles, if_neg filled]
    exact ⟨_, rfl⟩

theorem refuses_verifyArea {area : Decimal} (found : tables.order.id = orderId) :
    refuses (verifyArea environment orderId tables.order.status area) tables =
      !canVerifyArea tables.order.status := by
  simp only [verifyArea]
  cases verifiable : canVerifyArea tables.order.status with
  | false => rfl
  | true =>
      have locked : (lockOrder orderId).run tables = .ok (tables.order, tables) :=
        run_lockOrder_eq_ok.mpr ⟨found.symm, rfl, rfl⟩
      rw [if_pos rfl, refuses_bind_of_ok locked, if_pos verifiable]
      split <;> rfl

end OrderWorkflowService

namespace FilesService

variable {elsewhere : Elsewhere} {uploader : FileOwnerType}

/-- Too little room is answered otherwise than with a refusal. -/
theorem answers_quota (usage : StorageUsage) (incoming : ℕ) :
    refuses (liftM (refuseOverQuota (checkStorageQuota usage incoming uploader)) : OrderTx Unit)
      tables = false := by
  cases checkStorageQuota usage incoming uploader with
  | none => rfl
  | some refusal =>
      rcases refusal with ⟨scope, message⟩
      cases scope <;> rfl

theorem answers_readStorageUsage (found : tables.order.id = orderId) :
    refuses (readStorageUsage elsewhere orderId) tables = false :=
  refuses_of_ok (run_readStorageUsage_eq_ok.mpr ⟨found, rfl, rfl⟩)

theorem unchanged_of_check {check : StorageUsage → Except ApiException Unit} {value : Unit}
    (returned : (do
      let usage ← readStorageUsage elsewhere orderId
      liftM (check usage) : OrderTx Unit).run tables = .ok (value, next)) : next = tables := by
  rcases Transaction.run_bind_eq_ok.mp returned with ⟨_, middle, read, fits⟩
  rw [(Transaction.run_liftM_eq_ok.mp fits).2, (run_readStorageUsage_eq_ok.mp read).2.2]

theorem answers_assertRoomForUpload (found : tables.order.id = orderId)
    (reserved : StorageUsage) (declaredBytes : ℕ) :
    refuses (assertRoomForUpload elsewhere reserved orderId uploader declaredBytes) tables =
      false :=
  answers_bind (answers_readStorageUsage found) fun _ _ _ => answers_quota _ _

theorem answers_reserveStorage (found : tables.order.id = orderId) (reserved : StorageUsage)
    (adding : List PreparedFile) :
    refuses (reserveStorage elsewhere reserved orderId uploader adding) tables = false :=
  answers_bind (answers_readStorageUsage found) fun _ _ _ => answers_quota _ _

/-- The insert transaction refuses when its guard does, or when what the caller adds does. -/
theorem answers_insertFiles {params : AttachFilesParams} (fresh : List PreparedFile)
    (guarded : refuses params.guard tables = false)
    (kept : ∀ next, params.guard.run tables = .ok ((), next) → next.order.id = params.orderId)
    (attached : ∀ created next, refuses (params.onAttached created) next = false) :
    refuses (insertFiles environment elsewhere params fresh) tables = false := by
  apply answers_bind guarded
  intro _ middle ranGuard
  apply answers_bind
  · exact answers_bind (answers_readStorageUsage (kept middle ranGuard))
      fun _ _ _ => answers_quota _ _
  intro _ _ _
  rw [refuses_bind_of_ok (run_createFiles _)]
  split
  · exact answers_bind (attached _ _) fun _ _ _ => rfl
  · rfl

end FilesService

namespace OrderWorkflowService

variable {elsewhere : FilesService.Elsewhere}

theorem saveComment_returns {submission : OrderSubmission} {comment : String}
    (found : tables.order.id = orderId) (uploads : canUploadWork tables.order.status = true)
    (mem : submission ∈ tables.submissions) (isOpen : submission.submittedAt = none) :
    ∃ changed next, (saveComment orderId submission.id comment).run tables = .ok (changed, next) ∧
      next.order = tables.order := by
  have present : ∃ row, tables.submissions.find? (fun row =>
      row.id == submission.id && row.submittedAt.isNone) = some row := by
    rw [← Option.isSome_iff_exists, List.find?_isSome]
    exact ⟨submission, mem, by simp [isOpen]⟩
  rcases present with ⟨row, found?⟩
  simp only [saveComment]
  rw [Transaction.run_bind_of_ok
    (assertSubmissionOpen_eq_ok_iff.mpr ⟨found.symm, uploads, found?, rfl⟩)]
  split
  · exact ⟨_, _, rfl, rfl⟩
  · exact ⟨_, _, rfl, rfl⟩

/-- The second half of `addFiles` never refuses right after its first half. -/
theorem answers_fillSubmission {submission : OrderSubmission} {opened : OpenSubmission}
    {comment : String} {reserved : StorageUsage} (found : tables.order.id = orderId)
    (uploads : canUploadWork tables.order.status = true)
    (mem : submission ∈ tables.submissions) (isOpen : submission.submittedAt = none)
    (sameId : opened.id = submission.id) (fresh : List PreparedFile) :
    refuses (match fresh with
      | [] => do
          let _ ← saveComment orderId opened.id comment
      | file :: files => do
          FilesService.reserveStorage elsewhere reserved orderId .company (file :: files)
          let _ ← FilesService.insertFiles environment elsewhere
            (attachParams environment orderId opened comment) (file :: files)) tables = false := by
  rcases @saveComment_returns tables orderId submission comment found uploads mem isOpen with
    ⟨changed, next, saved, sameOrder⟩
  rw [← sameId] at saved
  cases fresh with
  | nil => exact answers_bind (refuses_of_ok saved) fun _ _ _ => rfl
  | cons file files =>
      apply answers_bind (FilesService.answers_reserveStorage found _ _)
      intro _ middle reservedRoom
      rw [FilesService.unchanged_of_check reservedRoom]
      refine answers_bind ?_ fun _ _ _ => rfl
      apply FilesService.answers_insertFiles
      · exact answers_bind (refuses_of_ok saved) fun _ _ _ => rfl
      · intro guarded ranGuard
        rcases Transaction.run_bind_eq_ok.mp ranGuard with ⟨_, _, savedHere, finished⟩
        rw [saved] at savedHere
        cases savedHere
        cases finished
        rw [sameOrder]
        exact found
      · intro _ _
        rfl

theorem answers_startAddFiles {comment : String} {prepared : List PreparedFile}
    (found : tables.order.id = orderId) (uploads : canUploadWork tables.order.status = true) :
    refuses (startAddFiles environment orderId tables.order.status comment prepared) tables =
      false := by
  have locked : (lockOrder orderId).run tables = .ok (tables.order, tables) :=
    run_lockOrder_eq_ok.mpr ⟨found.symm, rfl, rfl⟩
  simp only [startAddFiles, assertUploadAllowed]
  rw [if_pos uploads]
  apply answers_bind rfl
  intro _ _ checked
  cases checked
  split
  · rfl
  · unfold openSubmission
    rw [refuses_bind_of_ok locked, if_pos uploads]
    apply answers_bind rfl
    intro _ _ read
    cases read
    dsimp only
    split
    · rfl
    · split <;> rfl

theorem startAddFiles_opened {comment : String} {prepared : List PreparedFile}
    {opened : OpenSubmission}
    (returned : (startAddFiles environment orderId tables.order.status comment prepared).run
      tables = .ok (opened, next)) :
    next.order = tables.order ∧ ∃ submission ∈ next.submissions,
      submission.submittedAt = none ∧ opened.id = submission.id := by
  rcases World.startAddFiles_ok returned with ⟨_, _, ran⟩
  rcases openSubmission_ok ran with
    ⟨_, _, ⟨submission, found, sameId, _, rfl⟩ | ⟨_, _, sameId, _, rfl⟩⟩
  · exact ⟨rfl, submission, findOpenSubmission_mem found, findOpenSubmission_isOpen found, sameId⟩
  · exact ⟨rfl, _, List.mem_append_right _ (List.mem_singleton_self _), rfl, sameId⟩

theorem refuses_addFiles {reserved : StorageUsage} {comment : String}
    {prepared : List PreparedFile} (found : tables.order.id = orderId) :
    refuses (addFiles environment elsewhere reserved orderId tables.order.status comment prepared)
      tables = !canUploadWork tables.order.status := by
  simp only [addFiles]
  cases uploads : canUploadWork tables.order.status with
  | false =>
      simp only [startAddFiles, assertUploadAllowed]
      simp only [uploads]
      rfl
  | true =>
      apply answers_bind (answers_startAddFiles found uploads)
      intro opened middle started
      rcases startAddFiles_opened started with ⟨sameOrder, submission, mem, isOpen, sameId⟩
      exact answers_fillSubmission (sameOrder ▸ found) (sameOrder ▸ uploads) mem isOpen sameId _

theorem saveComment_found {submissionId : Uuid} {comment : String} {changed : Bool}
    (returned : (saveComment orderId submissionId comment).run tables = .ok (changed, next)) :
    next.order.id = orderId := by
  simp only [saveComment] at returned
  rcases Transaction.run_bind_eq_ok.mp returned with ⟨submission, middle, ran, afterCheck⟩
  rcases assertSubmissionOpen_eq_ok_iff.mp ran with ⟨found, _, _, rfl⟩
  split at afterCheck <;> cases afterCheck <;> exact found.symm

theorem addFiles_found {reserved : StorageUsage} {comment : String} {status : OrderStatus}
    {prepared : List PreparedFile} {value : Unit}
    (returned : (addFiles environment elsewhere reserved orderId status comment prepared).run
      tables = .ok (value, next)) : next.order.id = orderId := by
  simp only [addFiles] at returned
  rcases Transaction.run_bind_eq_ok.mp returned with ⟨opened, middle, _, afterStart⟩
  rw [Transaction.run_get_bind] at afterStart
  split at afterStart
  · rcases Transaction.run_bind_eq_ok.mp afterStart with ⟨_, _, saved, finished⟩
    cases finished
    exact saveComment_found saved
  · rcases Transaction.run_bind_eq_ok.mp afterStart with ⟨_, _, _, afterReserve⟩
    rcases Transaction.run_bind_eq_ok.mp afterReserve with ⟨created, _, inserted, finished⟩
    cases finished
    rcases FilesService.insertFiles_ok inserted with
      ⟨guarded, _, found, _, _, ⟨_, rfl⟩ | ⟨_, attached⟩⟩
    · exact found
    · rw [(sameOrderRows_of_notify attached).1]
      exact found

end OrderWorkflowService

namespace OrdersService

theorem refuses_remove (found : tables.order.id = orderId) :
    refuses (remove orderId tables.order.status) tables = !canDeleteOrder tables.order.status := by
  simp only [remove]
  cases deletable : canDeleteOrder tables.order.status with
  | false => rfl
  | true =>
      rw [if_pos rfl, deleteWithNotices, refuses_bind_of_ok
        (run_lockOrder_eq_ok.mpr ⟨found.symm, rfl, rfl⟩)]
      apply answers_bind rfl
      intro _ _ read
      cases read
      rw [if_pos deletable]
      rfl

end OrdersService

namespace OffersService

variable {environment : Environment}

theorem submit_answers_iff {editedAt : Date} {companyId : Uuid} {dto : CreateOfferDto}
    (keyed : tables.WellKeyed) (found : tables.order.id = dto.orderId)
    (freshId : tables.offers.find? (·.companyId == companyId) = none →
      ∀ offer ∈ tables.offers, offer.id ≠ environment.offerId) :
    refuses (submit environment editedAt companyId dto) tables = false ↔
      takesSubmission tables companyId = true := by
  have locked : (lockOrder dto.orderId).run tables = .ok (tables.order, tables) :=
    run_lockOrder_eq_ok.mpr ⟨found.symm, rfl, rfl⟩
  have returns : ∃ created next, (upsertOffer environment editedAt tables.order.id companyId
      dto).run tables = .ok (created, next) ∧
        ∀ existing, tables.offers.find? (·.companyId == companyId) = some existing →
          created.rejectionCount = existing.rejectionCount := by
    cases existing : tables.offers.find? (·.companyId == companyId) with
    | some offer =>
        refine ⟨_, _, run_upsertOffer_eq_ok.mpr (Or.inl ⟨offer, existing, rfl, rfl⟩), ?_⟩
        intro _ same
        cases same
        rfl
    | none =>
        have unused : tables.offers.any (·.id == environment.offerId) = false := by
          simpa using freshId existing
        exact ⟨_, _, run_upsertOffer_eq_ok.mpr (Or.inr ⟨existing, unused, rfl, rfl⟩), by simp⟩
  rcases returns with ⟨created, next, upserted, sameCount⟩
  rcases upsertOffer_ok keyed upserted with ⟨sameOrder, mem, unique, _, _⟩
  have resolved := Rows.find?_eq_some_of_mem unique mem
  simp only [submit]
  rw [refuses_bind_of_ok locked, refuses_bind_of_ok (Transaction.run_get _),
    refuses_bind_of_ok upserted, refuses_bind_left fun _ _ _ => rfl,
    OrderTransitionService.answers_iff]
  have checks : (∃ offer, (OrderTransitionCommand.offerSubmitted tables.order.id created.id
      ((tables.offers.find? (·.companyId == companyId)).map Offer.status)).Allowed environment
        next offer) ↔
      OrderEventType.offerSubmitted ∈ orderTransitions tables.order.status ∧
        (∀ status, (tables.offers.find? (·.companyId == companyId)).map Offer.status =
          some status → status ∈ offerPreconditions .offerSubmitted) ∧
        isFinallyRejected ((tables.offers.find? (·.companyId == companyId)).map Offer.status)
          created.rejectionCount = false := by
    constructor
    · rintro ⟨offer, allowed⟩
      have isCreated := allowed.resolved
      simp only [OrderTransitionService.resolved?, OrderTransitionCommand.offerId, resolved,
        Option.some.injEq] at isCreated
      subst isCreated
      exact ⟨sameOrder ▸ allowed.listed, allowed.precondition, allowed.terms⟩
    · rintro ⟨listed, precondition, terms⟩
      exact ⟨created, congrArg Order.id sameOrder.symm, resolved, sameOrder.symm ▸ listed,
        precondition, terms⟩
  rw [checks, takesSubmission]
  cases existing : tables.offers.find? (·.companyId == companyId) with
  | none => simp [canTransition, isFinallyRejected]
  | some offer => simp [canTransition, sameCount offer existing, and_assoc]

theorem leaveSelection_answers_iff {offerId : Uuid} {actor : OfferActor}
    {event : Uuid → Uuid → OrderTransitionCommand}
    (resolves : ∀ orderId, (event orderId offerId).offerId = some offerId) :
    refuses (leaveSelection environment offerId actor event) tables = false ↔
      ∃ offer, tables.offers.find? (fun offer =>
          offer.id == offerId && actor.related tables offer) = some offer ∧
        ∃ resolved, (event offer.orderId offerId).Allowed environment tables resolved := by
  simp only [leaveSelection]
  cases found : tables.offers.find? (fun offer =>
      offer.id == offerId && actor.related tables offer) with
  | none =>
      have missing : (findOffer offerId actor).run tables =
          .error (.notFound offerNotFound) := by
        simp only [findOffer]
        rw [Transaction.run_get_bind, found]
        rfl
      rw [refuses_bind_of_error missing]
      simp [ApiException.isRefusal, ApiException.statusCode]
  | some offer =>
      rw [refuses_bind_of_ok (findOffer_eq_ok_iff.mpr ⟨found, rfl⟩), refuses_bind_left]
      · rw [OrderTransitionService.answers_iff]
        simp
      · intro _ next ran
        rcases OrderTransitionService.run_ok_after ran with ⟨resolved, allowed, same⟩
        have isResolved := allowed.resolved
        simp only [OrderTransitionService.resolved?, resolves] at isResolved
        have ids : next.offers.map Offer.id = tables.offers.map Offer.id := by
          rw [same.2.1]
          exact OrderTransitionCommand.after_offers_map fun _ _ => rfl
        have present : ∃ updated, next.offers.find? (·.id == offerId) = some updated := by
          have kept : resolved.id ∈ next.offers.map Offer.id :=
            ids ▸ List.mem_map_of_mem (List.mem_of_find?_eq_some isResolved)
          rcases List.mem_map.mp kept with ⟨updated, mem, sameId⟩
          rw [← Option.isSome_iff_exists, List.find?_isSome]
          refine ⟨updated, mem, ?_⟩
          simpa [sameId] using List.find?_some isResolved
        rcases present with ⟨updated, reread⟩
        rw [refuses_bind_of_ok (Transaction.run_get _)]
        simp only [reread]
        rfl

end OffersService

theorem OrderTransitionCommand.exists_allowed_iff {command : OrderTransitionCommand}
    {offerId : Uuid} (keyed : tables.WellKeyed) (resolves : command.offerId = some offerId)
    (sameOrder : command.orderId = tables.order.id) :
    (∃ offer, command.Allowed environment tables offer) ↔
      ∃ offer ∈ tables.offers, offer.id = offerId ∧
        command.type ∈ orderTransitions tables.order.status ∧
        (∀ offerStatus, command.checkedStatus offer = some offerStatus →
          offerStatus ∈ offerPreconditions command.type) ∧
        command.TermsHold environment offer := by
  constructor
  · rintro ⟨offer, allowed⟩
    have resolved := allowed.resolved
    simp only [OrderTransitionService.resolved?, resolves] at resolved
    refine ⟨offer, List.mem_of_find?_eq_some resolved, ?_, allowed.listed, allowed.precondition,
      allowed.terms⟩
    simpa using List.find?_some resolved
  · rintro ⟨offer, mem, rfl, listed, precondition, terms⟩
    refine ⟨offer, sameOrder, ?_, listed, precondition, terms⟩
    simp only [OrderTransitionService.resolved?, resolves]
    exact Rows.find?_eq_some_of_mem keyed.offerIds mem

/-! The routes -/

namespace OrderWorkflowController

theorem acceptOffer_answers_iff {offerId : Uuid} {dto : AcceptOfferDto}
    (found : tables.order.id = orderId) :
    refuses (acceptOffer environment user orderId offerId dto) tables = false ↔
      user.role = some .client ∧ tables.order.clientId = user.id ∧
        ∃ offer, (OrderTransitionCommand.offerAccepted orderId offerId
          dto.offerEditedAt).Allowed environment tables offer :=
  @OrderWorkflowService.clientDecision_answers_iff environment user tables orderId
    (fun orderId => .offerAccepted orderId offerId dto.offerEditedAt) (by simp
      [OrderTransitionCommand.type]) found

theorem confirm_answers_iff {comment : Option String} (found : tables.order.id = orderId) :
    refuses (confirm environment user orderId comment) tables = false ↔
      user.role = some .client ∧ tables.order.clientId = user.id ∧
        ∃ offer, (OrderTransitionCommand.workConfirmed orderId comment).Allowed environment
          tables offer :=
  @OrderWorkflowService.clientDecision_answers_iff environment user tables orderId
    (fun orderId => .workConfirmed orderId comment) (by simp [OrderTransitionCommand.type]) found

theorem dispute_answers_iff {correctionComment : String} (found : tables.order.id = orderId) :
    refuses (dispute environment user orderId correctionComment) tables = false ↔
      user.role = some .client ∧ tables.order.clientId = user.id ∧
        ∃ offer, (OrderTransitionCommand.workDisputed orderId correctionComment).Allowed
          environment tables offer :=
  @OrderWorkflowService.clientDecision_answers_iff environment user tables orderId
    (fun orderId => .workDisputed orderId correctionComment)
    (by simp [OrderTransitionCommand.type]) found

theorem submitWork_answers_iff (found : tables.order.id = orderId) :
    refuses (submitWork environment user orderId) tables = false ↔
      user.role = some .company ∧ OwnershipGuard.allows .executor user tables = true ∧
        (∃ offer, (OrderTransitionCommand.workSubmitted orderId).Allowed environment tables
          offer) ∧
        ∃ submission, OrderWorkflowService.findOpenSubmission tables.submissions =
            some submission ∧
          OrderWorkflowService.companyFiles submission.round tables.files ≠ 0 := by
  simp only [submitWork]
  rw [answers_behind_guards found, OwnershipGuard.contextOf, refuses_before_card rfl
    fun _ _ returned => OrderWorkflowService.submitWork_changes returned,
    OrderWorkflowService.submitWork_answers_iff, found]

theorem addFiles_answers {elsewhere : FilesService.Elsewhere} {reserved : StorageUsage}
    {declaredBytes : ℕ} {comment : String} {prepared : List PreparedFile}
    (found : tables.order.id = orderId) (holds : user.role = some .company)
    (allowed : OwnershipGuard.allows .executor user tables = true)
    (uploads : canUploadWork tables.order.status = true) :
    refuses (addFiles environment user elsewhere reserved orderId declaredBytes comment prepared)
      tables = false := by
  simp only [addFiles]
  rw [answers_behind_guards found, OwnershipGuard.contextOf]
  refine ⟨holds, allowed, ?_⟩
  apply answers_bind (FilesService.answers_assertRoomForUpload rfl _ _)
  intro _ next admitted
  rw [FilesService.unchanged_of_check admitted]
  apply answers_bind
  · simp [OrderWorkflowService.refuses_addFiles, uploads]
  · intro _ next returned
    exact refuses_of_ok (OrdersService.run_getDetail_eq_ok.mpr
      ⟨OrderWorkflowService.addFiles_found returned, rfl, rfl⟩)

/-- Behind the quota by the declared length only the status and the executor are refused. -/
theorem addFiles_answers_iff {elsewhere : FilesService.Elsewhere} {reserved : StorageUsage}
    {declaredBytes : ℕ} {comment : String} {prepared : List PreparedFile}
    (found : tables.order.id = orderId)
    (admitted : Transaction.succeeds (FilesService.assertRoomForUpload elsewhere reserved orderId
      .company declaredBytes) tables = true) :
    refuses (addFiles environment user elsewhere reserved orderId declaredBytes comment prepared)
      tables = false ↔
      user.role = some .company ∧ OwnershipGuard.allows .executor user tables = true ∧
        canUploadWork tables.order.status = true := by
  constructor
  · intro answers
    simp only [addFiles] at answers
    rw [answers_behind_guards found, OwnershipGuard.contextOf] at answers
    rcases answers with ⟨holds, allowed, answers⟩
    refine ⟨holds, allowed, ?_⟩
    rcases Transaction.succeeds_iff.mp admitted with ⟨_, admittedHere⟩
    subst found
    rw [refuses_bind_of_ok admittedHere, FilesService.unchanged_of_check admittedHere] at answers
    by_contra closed
    rw [Bool.not_eq_true] at closed
    have refused : refuses (OrderWorkflowService.addFiles environment elsewhere reserved
        tables.order.id tables.order.status comment prepared) tables = true := by
      simp [OrderWorkflowService.refuses_addFiles, closed]
    rw [refuses_bind_left, refused] at answers
    · cases answers
    · intro _ next returned
      exact refuses_of_ok (OrdersService.run_getDetail_eq_ok.mpr
        ⟨OrderWorkflowService.addFiles_found returned, rfl, rfl⟩)
  · rintro ⟨holds, allowed, uploads⟩
    exact addFiles_answers found holds allowed uploads

theorem verifyArea_answers_iff {area : Decimal} (found : tables.order.id = orderId) :
    refuses (verifyArea environment user orderId area) tables = false ↔
      user.role = some .company ∧ OwnershipGuard.allows .executor user tables = true ∧
        canVerifyArea tables.order.status = true := by
  simp only [verifyArea]
  rw [answers_behind_guards found, OwnershipGuard.contextOf, refuses_before_card rfl
    fun _ _ returned => (OrderWorkflowService.verifyArea_ok returned).2]
  simp [OrderWorkflowService.refuses_verifyArea]

end OrderWorkflowController

theorem OrdersController.remove_answers_iff (found : tables.order.id = orderId) :
    refuses (remove user orderId) tables = false ↔
      user.role = some .client ∧ tables.order.clientId = user.id ∧
        canDeleteOrder tables.order.status = true := by
  simp only [remove]
  rw [answers_behind_guards found, OwnershipGuard.contextOf]
  simp [OrdersService.refuses_remove, OwnershipGuard.allows]

namespace OffersController

theorem leaveSelection_answers_iff {offerId : Uuid} {actor : OffersService.OfferActor}
    {event : Uuid → Uuid → OrderTransitionCommand} (keyed : tables.WellKeyed)
    (leaves : event = .offerWithdrawn ∨ event = .offerRejected) :
    refuses (OffersService.leaveSelection environment offerId actor event) tables = false ↔
      ∃ offer ∈ tables.offers, offer.id = offerId ∧ actor.related tables offer = true ∧
        canTransition tables.order.status (event offer.orderId offerId).type
          (some offer.status) = true := by
  have resolves : ∀ orderId, (event orderId offerId).offerId = some offerId := by
    rcases leaves with rfl | rfl <;> exact fun _ => rfl
  have sameOrder : ∀ orderId, (event orderId offerId).orderId = orderId := by
    rcases leaves with rfl | rfl <;> exact fun _ => rfl
  have byStatus : ∀ (orderId : Uuid) (offer : Offer),
      ((∀ offerStatus, (event orderId offerId).checkedStatus offer = some offerStatus →
        offerStatus ∈ offerPreconditions (event orderId offerId).type) ∧
        (event orderId offerId).TermsHold environment offer) ↔
      offer.status ∈ offerPreconditions (event orderId offerId).type := by
    rcases leaves with rfl | rfl <;> intro orderId offer <;>
      simp [OrderTransitionCommand.checkedStatus, OrderTransitionCommand.TermsHold]
  rw [OffersService.leaveSelection_answers_iff resolves]
  constructor
  · rintro ⟨offer, found, resolved⟩
    have mem := List.mem_of_find?_eq_some found
    have fits := List.find?_some found
    simp only [Bool.and_eq_true, beq_iff_eq] at fits
    rw [OrderTransitionCommand.exists_allowed_iff keyed (resolves _)
      ((sameOrder _).trans (keyed.orderIds offer mem))] at resolved
    rcases resolved with ⟨same, sameMem, sameId, listed, checks⟩
    have isOffer : same = offer :=
      Rows.eq_of_key keyed.offerIds sameMem mem (sameId.trans fits.1.symm)
    subst isOffer
    rw [byStatus] at checks
    exact ⟨same, mem, fits.1, fits.2, by simp [canTransition, listed, checks]⟩
  · rintro ⟨offer, mem, sameId, related, allowed⟩
    simp only [canTransition, Bool.and_eq_true, List.contains_iff_mem] at allowed
    refine ⟨offer, ?_, ?_⟩
    · apply Rows.find?_eq_some_of_sole mem (by simp [sameId, related])
      intro other otherMem fits
      simp only [Bool.and_eq_true, beq_iff_eq] at fits
      exact Rows.eq_of_key keyed.offerIds otherMem mem (fits.1.trans sameId.symm)
    · rw [OrderTransitionCommand.exists_allowed_iff keyed (resolves _)
        ((sameOrder _).trans (keyed.orderIds offer mem))]
      exact ⟨offer, mem, sameId, allowed.1, (byStatus _ _).mpr allowed.2⟩

theorem submit_answers_iff {editedAt : Date} {dto : CreateOfferDto} (keyed : tables.WellKeyed)
    (found : tables.order.id = dto.orderId)
    (freshId : ∀ offer ∈ tables.offers, offer.id ≠ environment.offerId) :
    refuses (submit environment user editedAt dto) tables = false ↔
      user.role = some .company ∧ OffersService.takesSubmission tables user.id = true := by
  simp only [submit]
  rw [refuses_behind_role, Bool.or_eq_false_iff,
    OffersService.submit_answers_iff keyed found fun _ => freshId]
  simp

theorem withdraw_answers_iff {offerId : Uuid} (keyed : tables.WellKeyed) :
    refuses (withdraw environment user offerId) tables = false ↔
      user.role = some .company ∧ ∃ offer ∈ tables.offers, offer.id = offerId ∧
        offer.companyId = user.id ∧
        canTransition tables.order.status .offerWithdrawn (some offer.status) = true := by
  simp only [withdraw, OffersService.withdraw]
  rw [refuses_behind_role, Bool.or_eq_false_iff,
    leaveSelection_answers_iff keyed (Or.inl rfl)]
  simp [OffersService.OfferActor.related, OrderTransitionCommand.type]

theorem reject_answers_iff {offerId : Uuid} (keyed : tables.WellKeyed) :
    refuses (reject environment user offerId) tables = false ↔
      user.role = some .client ∧ ∃ offer ∈ tables.offers, offer.id = offerId ∧
        tables.order.clientId = user.id ∧
        canTransition tables.order.status .offerRejected (some offer.status) = true := by
  simp only [reject, OffersService.reject]
  rw [refuses_behind_role, Bool.or_eq_false_iff,
    leaveSelection_answers_iff keyed (Or.inr rfl)]
  simp [OffersService.OfferActor.related, OrderTransitionCommand.type]

end OffersController

end MyBuild
