import MyBuild.Library.Frame
import MyBuild.Orders.World

/-!
# What a request does to the notifications

No request reads the notifications.  What it does to them is one function, fixed by the other
rows: the unread ones about a subject of its drafts go, and the drafts are appended.  The
frame rules carry this through the transactions, each of which notifies once at most.
-/

namespace MyBuild

def OrderTables.withNotifications (tables : OrderTables) (notifications : List Notification) :
    OrderTables :=
  { tables with notifications }

/-- The notifications after `drafts` were sent: their unread predecessors go, they come last. -/
def notices (environment : Environment) (drafts : List NotificationDraft)
    (notifications : List Notification) : List Notification :=
  notifications.filter (fun notification => !drafts.any (·.supersedes notification)) ++
    drafts.mapIdx (NotificationDraft.toRow environment)

/-- No two of the drafts replace each other, and none has an empty key. -/
structure Apart (drafts : List NotificationDraft) : Prop where
  subjects : drafts.Pairwise fun first second =>
    first.collapseKey = none ∨ first.userId ≠ second.userId ∨
      first.collapseKey ≠ second.collapseKey
  keys : ∀ draft ∈ drafts, draft.collapseKey ≠ some ""

/-- The change of the notifications by a transaction that notifies once. -/
def Notifies (change : List Notification → List Notification) : Prop :=
  ∃ environment drafts, Apart drafts ∧ change = notices environment drafts

abbrev OrderFramed {α : Type} (tx : OrderTx α) (tables : OrderTables) : Prop :=
  Transaction.Framed OrderTables.withNotifications Notifies tx tables

abbrev OrderQuiet {α : Type} (tx : OrderTx α) (tables : OrderTables) : Prop :=
  Transaction.Quiet OrderTables.withNotifications tx tables

theorem Apart.nil : Apart [] :=
  ⟨List.Pairwise.nil, by simp⟩

theorem Apart.singleton {draft : NotificationDraft} (key : draft.collapseKey ≠ some "") :
    Apart [draft] :=
  ⟨List.pairwise_singleton _ _, by simpa using key⟩

theorem notices_nil (environment : Environment) : notices environment [] = id := by
  funext notifications
  simp [notices]

theorem Notifies.id : Notifies id :=
  ⟨exampleEnvironment ⟨0⟩, [], Apart.nil, (notices_nil _).symm⟩

theorem offerKey_ne (offerId : Uuid) : some (notificationKeys.offer offerId) ≠ some "" := by
  simp [notificationKeys.offer]

theorem orderFilesKey_ne (orderId : String) :
    some (notificationKeys.orderFiles orderId) ≠ some "" := by
  simp [notificationKeys.orderFiles]

theorem orderAreaKey_ne (orderId : String) :
    some (notificationKeys.orderArea orderId) ≠ some "" := by
  simp [notificationKeys.orderArea]

section

variable {α β : Type} {tables : OrderTables} {environment : Environment} {orderId : Uuid}

theorem notify_framed {drafts : List NotificationDraft} (apart : Apart drafts) :
    OrderFramed (do
      dropSupersededNotifications drafts
      createNotifications environment drafts) tables :=
  Transaction.Framed.of_ok ⟨environment, drafts, apart, rfl⟩ fun _ => rfl

/-- Behind the lock the order is the one of the rows. -/
theorem lockOrder_bind {rest : Order → OrderTx β}
    {Allowed : (List Notification → List Notification) → Prop}
    (second : Transaction.Framed OrderTables.withNotifications Allowed (rest tables.order) tables) :
    Transaction.Framed OrderTables.withNotifications Allowed (lockOrder orderId >>= rest)
      tables := by
  simp only [lockOrder, bind_assoc]
  refine Transaction.Framed.get_bind (fun _ => rfl) ?_
  by_cases found : tables.order.id = orderId
  · simpa only [if_pos found, pure_bind] using second
  · simp only [if_neg found]
    exact Transaction.Framed.of_error fun _ => rfl

end

namespace OrderTransitionService

variable {environment : Environment} {tables : OrderTables}

theorem resolveOffer_quiet (command : OrderTransitionCommand) :
    OrderQuiet (resolveOffer command) tables := by
  refine Transaction.Framed.get_bind (fun _ => rfl) ?_
  split <;> split
  all_goals first | exact Transaction.Quiet.pure | exact Transaction.Quiet.throw _

theorem applyEffects_framed {orderId : Uuid} {nextStatus : OrderStatus}
    {effects : List OrderSideEffect}
    (apart : Apart (WriteSet.ofEffects orderId nextStatus effects).notificationsToCreate) :
    OrderFramed (applyEffects environment orderId nextStatus effects) tables := by
  cases updated : tables.order.update environment.now
      (WriteSet.ofEffects orderId nextStatus effects).orderData with
  | error error =>
      refine Or.inl ⟨error, fun part => ?_⟩
      simp only [applyEffects, Transaction.run_get_bind]
      exact Transaction.run_bind_of_error (Transaction.run_liftM_eq_error.mpr updated)
  | ok order =>
      let writes := WriteSet.ofEffects orderId nextStatus effects
      refine Or.inr ⟨writes.offerUpdates, { tables with
          order
          offers := writeOffers environment.now writes.offerUpdates tables.offers },
        notices environment writes.notificationsToCreate, ⟨environment, _, apart, rfl⟩,
        fun part => ?_⟩
      simp only [applyEffects, Transaction.run_get_bind]
      exact Transaction.run_bind_of_ok (Transaction.run_liftM_eq_ok.mpr ⟨updated, rfl⟩)

theorem applyEffects_notifications {orderId : Uuid} {nextStatus : OrderStatus}
    {effects : List OrderSideEffect} {updates : List OfferStatusUpdate} {next : OrderTables}
    (returned : (applyEffects environment orderId nextStatus effects).run tables =
      .ok (updates, next)) :
    next.notifications = notices environment
      (WriteSet.ofEffects orderId nextStatus effects).notificationsToCreate
        tables.notifications := by
  simp only [applyEffects, Transaction.run_get_bind] at returned
  rcases Transaction.run_bind_eq_ok.mp returned with ⟨order, afterUpdate, updated, wrote⟩
  rcases Transaction.run_liftM_eq_ok.mp updated with ⟨-, rfl⟩
  cases wrote
  rfl

/-- The companies that are told of an accepted offer are all different. -/
theorem companies_told_nodup {offer : Offer}
    (companies : (tables.offers.map Offer.companyId).Nodup) (mem : offer ∈ tables.offers) :
    (offer.companyId :: (otherSentOffers tables offer).map Offer.companyId).Nodup := by
  rw [List.nodup_cons]
  constructor
  · intro told
    rcases List.mem_map.mp told with ⟨rival, rivalMem, sameCompany⟩
    simp only [otherSentOffers, List.mem_filter, Bool.and_eq_true, bne_iff_ne] at rivalMem
    have same := Rows.eq_of_key companies rivalMem.1 mem sameCompany
    exact rivalMem.2.2 (congrArg Offer.id same)
  · exact companies.sublist (List.filter_sublist.map Offer.companyId)

/-- No two notifications of one transition are about the same. -/
theorem drafts_apart {command : OrderTransitionCommand} {offer : Offer}
    {result : OrderTransitionResult}
    (companies : (tables.offers.map Offer.companyId).Nodup) (mem : offer ∈ tables.offers)
    (handled : handlerOf command.type (contextOf tables.order)
      (buildEvent environment command offer tables) = .ok (result.nextStatus, result.effects)) :
    Apart (WriteSet.ofEffects tables.order.id result.nextStatus
      result.effects).notificationsToCreate := by
  rcases result with ⟨fromStatus, nextStatus, effects⟩
  cases command with
  | offerAccepted orderId offerId seenOfferEditedAt =>
      simp only [OrderTransitionCommand.type, handlerOf, buildEvent, offerAccepted,
        Except.ok.injEq, Prod.mk.injEq] at handled
      rcases handled with ⟨rfl, rfl⟩
      have rivals := foldl_addEffect_rivals tables.order.id
        (orderRef tables.order.orderNumber tables.order.title ++
          ": клиент выбрал другое предложение")
        (otherSentOffers tables offer)
      simp only [WriteSet.ofEffects, List.foldl_append, List.foldl_cons, List.foldl_nil,
        setOfferStatus, notify, WriteSet.addEffect, contextOf, List.nil_append] at rivals ⊢
      rw [(rivals _).2.2]
      have told := companies_told_nodup companies mem
      rw [List.nodup_cons] at told
      constructor
      · simp only [List.singleton_append, List.pairwise_cons, List.pairwise_map,
          List.forall_mem_map]
        refine ⟨fun rival rivalMem => Or.inr (Or.inl ?_), ?_⟩
        · intro same
          exact told.1 (same ▸ List.mem_map_of_mem rivalMem)
        · exact (List.pairwise_map.mp told.2).imp fun differ => Or.inr (Or.inl differ)
      · simp only [List.singleton_append, List.forall_mem_cons, List.forall_mem_map]
        exact ⟨offerKey_ne _, fun rival _ => offerKey_ne _⟩
  | offerSubmitted _ _ _ =>
      cases handled
      exact Apart.singleton (offerKey_ne _)
  | offerWithdrawn _ _ =>
      cases handled
      exact Apart.singleton (offerKey_ne _)
  | offerRejected _ _ =>
      cases handled
      exact Apart.singleton (offerKey_ne _)
  | _ =>
      cases handled
      exact Apart.singleton (by simp)

theorem run_framed {command : OrderTransitionCommand}
    (companies : (tables.offers.map Offer.companyId).Nodup) :
    OrderFramed (run environment command) tables := by
  simp only [run]
  apply lockOrder_bind
  apply Transaction.Framed.bind_quiet (resolveOffer_quiet command)
  intro offer next resolves
  have resolved : resolved? command tables = some offer :=
    (run_resolveOffer_eq_ok.mp (resolves tables.notifications)).1
  have same : ∀ part, next.withNotifications part = tables.withNotifications part :=
    fun part => (run_resolveOffer_eq_ok.mp (resolves part)).2
  refine Transaction.Framed.congr ?_ same
  refine Transaction.Framed.get_bind (fun _ => rfl) ?_
  have mem : offer ∈ tables.offers := by
    simp only [resolved?] at resolved
    split at resolved <;> exact List.mem_of_find?_eq_some resolved
  cases decision : OrderStateMachine.transition (contextOf tables.order)
      (buildEvent environment command offer tables) with
  | error error => exact Transaction.Framed.bind_error fun _ => rfl
  | ok result =>
      rcases OrderStateMachine.transition_eq_ok_iff.mp decision with ⟨_, _, _, handled, _⟩
      rw [buildEvent_type] at handled
      refine Transaction.Framed.bind_ok (fun _ => rfl) ?_
      exact Transaction.Framed.then_quiet
        (applyEffects_framed (drafts_apart companies mem handled))
        fun _ _ => Transaction.Quiet.pure

end OrderTransitionService

namespace OffersService

variable {environment : Environment} {tables : OrderTables} {editedAt : Date}
  {orderId companyId : Uuid} {dto : CreateOfferDto}

theorem upsertOffer_quiet :
    OrderQuiet (upsertOffer environment editedAt orderId companyId dto) tables := by
  cases existing : tables.offers.find? (·.companyId == companyId) with
  | some offer =>
      refine Or.inr ⟨offer.edit editedAt environment.now dto, { tables with
        offers := editOffers editedAt environment.now companyId dto tables.offers }, id, rfl,
        fun part => ?_⟩
      exact run_upsertOffer_eq_ok.mpr (Or.inl ⟨offer, existing, rfl, rfl⟩)
  | none =>
      cases taken : tables.offers.any (·.id == environment.offerId) with
      | true =>
          refine Or.inl ⟨.internal "Unique constraint failed on the fields: (`id`)",
            fun part => ?_⟩
          simp only [upsertOffer, Transaction.run_get_bind, OrderTables.withNotifications,
            existing, taken, if_true, Transaction.run_throw]
      | false =>
          refine Or.inr ⟨Offer.create environment orderId companyId dto, { tables with
            offers := tables.offers ++ [Offer.create environment orderId companyId dto] }, id,
            rfl, fun part => ?_⟩
          exact run_upsertOffer_eq_ok.mpr (Or.inr ⟨existing, taken, rfl, rfl⟩)

theorem upsertOffer_companies {created : Offer} {next : OrderTables}
    (companies : (tables.offers.map Offer.companyId).Nodup)
    (returned : (upsertOffer environment editedAt orderId companyId dto).run tables =
      .ok (created, next)) : (next.offers.map Offer.companyId).Nodup := by
  rcases run_upsertOffer_eq_ok.mp returned with ⟨existing, _, _, rfl⟩ | ⟨absent, _, _, rfl⟩
  · have kept : (editOffers editedAt environment.now companyId dto tables.offers).map
        Offer.companyId = tables.offers.map Offer.companyId := Rows.map_updateWhere fun _ => rfl
    exact kept ▸ companies
  · simpa [List.nodup_append, companies] using absent

theorem submit_framed (companies : (tables.offers.map Offer.companyId).Nodup) :
    OrderFramed (submit environment editedAt companyId dto) tables := by
  apply lockOrder_bind
  refine Transaction.Framed.get_bind (fun _ => rfl) ?_
  apply Transaction.Framed.bind_quiet upsertOffer_quiet
  intro created next returns
  have kept : ((next.withNotifications tables.notifications).offers.map Offer.companyId).Nodup :=
    @upsertOffer_companies _ tables _ _ _ _ _ _ companies (returns tables.notifications)
  exact Transaction.Framed.then_quiet (OrderTransitionService.run_framed kept)
    fun _ _ => Transaction.Quiet.pure

/-- The client is told of every submission. -/
theorem client_told {created : Offer} {next : OrderTables}
    (returned : (submit environment editedAt companyId dto).run tables = .ok (created, next)) :
    tables.order.clientId ∈ next.notifications.map (·.userId) := by
  simp only [submit] at returned
  rcases Transaction.run_bind_eq_ok.mp returned with ⟨order, tables, locked, afterLock⟩
  rcases run_lockOrder_eq_ok.mp locked with ⟨-, rfl, rfl⟩
  rw [Transaction.run_get_bind] at afterLock
  rcases Transaction.run_bind_eq_ok.mp afterLock with ⟨row, middle, upserted, afterUpsert⟩
  rcases Transaction.run_bind_eq_ok.mp afterUpsert with ⟨applied, final, ran, finished⟩
  rw [Transaction.run_pure_eq_ok] at finished
  cases finished
  have sameOrder : middle.order = tables.order := by
    rcases run_upsertOffer_eq_ok.mp upserted with ⟨existing, -, -, rfl⟩ | ⟨-, -, -, rfl⟩ <;> rfl
  rcases OrderTransitionService.run_decided ran with
    ⟨-, offer, ⟨fromStatus, nextStatus, effects⟩, -, decision, wrote, -⟩
  rcases OrderStateMachine.transition_eq_ok_iff.mp decision with ⟨-, -, -, handled, -⟩
  rw [OrderTransitionService.buildEvent_type] at handled
  cases handled
  rw [OrderTransitionService.applyEffects_notifications wrote, ← sameOrder]
  simp [notices, WriteSet.ofEffects, WriteSet.addEffect, setOfferStatus, notify,
    NotificationDraft.toRow, OrderTransitionService.contextOf]

theorem findOffer_quiet {offerId : Uuid} {actor : OfferActor} :
    OrderQuiet (findOffer offerId actor) tables := by
  refine Transaction.Framed.get_bind (fun _ => by cases actor <;> rfl) ?_
  split
  · exact Transaction.Quiet.pure
  · exact Transaction.Quiet.throw _

theorem leaveSelection_framed {offerId : Uuid} {actor : OfferActor}
    {event : Uuid → Uuid → OrderTransitionCommand}
    (companies : (tables.offers.map Offer.companyId).Nodup) :
    OrderFramed (leaveSelection environment offerId actor event) tables := by
  apply Transaction.Framed.bind_quiet findOffer_quiet
  intro offer next returns
  have same : ∀ part, next.withNotifications part = tables.withNotifications part :=
    fun part => (findOffer_eq_ok_iff.mp (returns part)).2
  refine Transaction.Framed.congr ?_ same
  refine Transaction.Framed.then_quiet (OrderTransitionService.run_framed companies)
    fun _ after => ?_
  refine Transaction.Framed.get_bind (fun _ => rfl) ?_
  split
  · exact Transaction.Quiet.pure
  · exact Transaction.Quiet.throw _

end OffersService

namespace OrderWorkflowService

variable {environment : Environment} {tables : OrderTables} {orderId : Uuid}

theorem submitWork_framed (companies : (tables.offers.map Offer.companyId).Nodup) :
    OrderFramed (submitWork environment orderId) tables := by
  apply lockOrder_bind
  refine Transaction.Framed.get_bind (fun _ => rfl) ?_
  refine Transaction.Framed.then_quiet (OrderTransitionService.run_framed companies)
    fun transition after => ?_
  split
  · exact Transaction.Quiet.throw _
  · rename_i submission _
    by_cases filled : companyFiles submission.round after.files = 0
    · refine Or.inl ⟨.conflict nothingToSubmit, fun part => ?_⟩
      simp only [Transaction.run_get_bind, OrderTables.withNotifications, filled, if_true]
      rfl
    · refine Or.inr ⟨transition, { after with
        submissions := closeSubmission environment.now submission.id after.submissions }, id, rfl,
        fun part => ?_⟩
      simp only [Transaction.run_get_bind, OrderTables.withNotifications, filled, if_false]
      rfl

theorem openSubmission_quiet {comment : String} :
    OrderQuiet (openSubmission environment orderId comment) tables := by
  apply lockOrder_bind
  split
  · cases found : findOpenSubmission tables.submissions with
    | some submission =>
        refine Transaction.Framed.get_bind (fun _ => ?_) ?_
        · simp only [OrderTables.withNotifications, found]
        · simp only [found]
          exact Transaction.Quiet.pure
    | none =>
        cases taken : tables.submissions.any (·.id == environment.submissionId) with
        | true =>
            refine Or.inl ⟨.internal "Unique constraint failed on the fields: (`id`)",
              fun part => ?_⟩
            simp only [Transaction.run_get_bind, OrderTables.withNotifications, found, taken,
              if_true, Transaction.run_throw]
        | false =>
            let round := (latestSubmission tables.submissions).elim 0 OrderSubmission.round + 1
            refine Or.inr ⟨⟨environment.submissionId, round, tables.order.orderNumber,
              tables.order.title, tables.order.clientId⟩, { tables with
                submissions := tables.submissions ++
                  [OrderSubmission.create environment round comment] }, id, rfl, fun part => ?_⟩
            simp only [Transaction.run_get_bind, OrderTables.withNotifications, found, taken,
              Bool.false_eq_true, if_false]
            rfl
  · exact Transaction.Quiet.throw _

theorem startAddFiles_quiet {status : OrderStatus} {comment : String}
    {prepared : List PreparedFile} :
    OrderQuiet (startAddFiles environment orderId status comment prepared) tables := by
  apply Transaction.Framed.bind_quiet (Transaction.Quiet.liftM _)
  intro _ next _
  split
  · exact Transaction.Quiet.throw _
  · exact openSubmission_quiet

theorem assertSubmissionOpen_quiet {submissionId : Uuid} :
    OrderQuiet (assertSubmissionOpen orderId submissionId) tables := by
  apply lockOrder_bind
  split
  · refine Transaction.Framed.get_bind (fun _ => rfl) ?_
    split
    · exact Transaction.Quiet.pure
    · exact Transaction.Quiet.throw _
  · exact Transaction.Quiet.throw _

theorem saveComment_quiet {submissionId : Uuid} {comment : String} :
    OrderQuiet (saveComment orderId submissionId comment) tables := by
  apply Transaction.Framed.bind_quiet assertSubmissionOpen_quiet
  intro submission next _
  split
  · exact Transaction.Quiet.pure
  · apply Transaction.Framed.bind_quiet (Transaction.Quiet.modify fun _ => rfl)
    exact fun _ _ _ => Transaction.Quiet.pure

theorem notifyFilesUpdated_framed {submission : OpenSubmission} :
    OrderFramed (notifyFilesUpdated environment orderId submission) tables :=
  notify_framed (Apart.singleton (orderFilesKey_ne orderId.toText))

theorem verifyArea_framed {status : OrderStatus} {area : Decimal} :
    OrderFramed (verifyArea environment orderId status area) tables := by
  simp only [verifyArea]
  split
  · apply lockOrder_bind
    split
    · split
      · exact Transaction.Framed.of_quiet Transaction.Quiet.pure Notifies.id
      · apply Transaction.Framed.bind_quiet (Transaction.Quiet.modify fun _ => rfl)
        intro _ written _
        exact notify_framed (Apart.singleton (orderAreaKey_ne orderId.toText))
    · exact Transaction.Framed.of_quiet (Transaction.Quiet.throw _) Notifies.id
  · exact Transaction.Framed.of_quiet (Transaction.Quiet.throw _) Notifies.id

end OrderWorkflowService

namespace FilesService

variable {environment : Environment} {elsewhere : Elsewhere} {tables : OrderTables}

theorem assertStorageQuota_quiet {orderId : Uuid} {uploader : FileOwnerType}
    {adding : List PreparedFile} :
    OrderQuiet (assertStorageQuota elsewhere orderId uploader adding) tables := by
  have reads : OrderQuiet (readStorageUsage elsewhere orderId) tables := by
    refine Transaction.Framed.get_bind (fun _ => rfl) ?_
    split
    · exact Transaction.Quiet.pure
    · exact Transaction.Quiet.throw _
  exact Transaction.Framed.bind_quiet reads fun _ _ _ => Transaction.Quiet.liftM _

theorem createFiles_quiet {rows : List OrderFile} : OrderQuiet (createFiles rows) tables :=
  Or.inr ⟨skipDuplicates tables.files rows,
    { tables with files := tables.files ++ skipDuplicates tables.files rows }, id, rfl,
    fun _ => rfl⟩

theorem insertFiles_framed {params : AttachFilesParams} {fresh : List PreparedFile}
    {Allowed : (List Notification → List Notification) → Prop} (unchanged : Allowed id)
    (guard : OrderQuiet params.guard tables)
    (attached : ∀ created next, Transaction.Framed OrderTables.withNotifications Allowed
      (params.onAttached created) next) :
    Transaction.Framed OrderTables.withNotifications Allowed
      (insertFiles environment elsewhere params fresh) tables := by
  apply Transaction.Framed.bind_quiet guard
  intro _ guarded _
  apply Transaction.Framed.bind_quiet assertStorageQuota_quiet
  intro _ fits _
  apply Transaction.Framed.bind_quiet createFiles_quiet
  intro created inserted _
  dsimp only
  split
  · exact Transaction.Framed.then_quiet (attached created inserted)
      fun _ _ => Transaction.Quiet.pure
  · exact Transaction.Framed.of_quiet Transaction.Quiet.pure unchanged

end FilesService

namespace World

def withNotifications (world : World) (notifications : List Notification) : World :=
  { world with tables := world.tables.withNotifications notifications }

/-- The step changes the notifications as a transaction that notifies once. -/
def StepNotifies (world : World) (request : Request) : Prop :=
  ∃ change, Notifies change ∧ ∀ notifications,
    ((world.withNotifications notifications).step request).tables.notifications =
      change notifications

variable {world : World}

theorem stepNotifies_of_commit {α : Type} {tx : OrderTx α} {request : Request}
    (framed : OrderFramed tx world.tables)
    (isCommit : ∀ other : World, (other.step request).tables.notifications =
      (other.commit tx).tables.notifications) : world.StepNotifies request := by
  rcases framed.commit Notifies.id with ⟨next, change, notifies, committed⟩
  refine ⟨change, notifies, fun notifications => ?_⟩
  rw [isCommit]
  exact congrArg OrderTables.notifications (committed notifications)

theorem stepNotifies_of_unchanged {request : Request}
    (unchanged : ∀ other : World,
      (other.step request).tables.notifications = other.tables.notifications) :
    world.StepNotifies request :=
  ⟨id, Notifies.id, fun notifications => unchanged (world.withNotifications notifications)⟩

theorem stepNotifies_of_finish {request : Request} {call : ℕ}
    {tx : Upload → List PreparedFile → Option (OrderTx Unit)}
    (framed : ∀ upload fresh ending, tx upload fresh = some ending →
      OrderFramed ending world.tables)
    (isFinish : ∀ other : World, other.step request = other.finishUpload call tx) :
    world.StepNotifies request := by
  have sameUploads : ∀ notifications,
      (world.withNotifications notifications).uploads = world.uploads := fun _ => rfl
  cases found : world.uploads[call]? with
  | none =>
      refine ⟨id, Notifies.id, fun notifications => ?_⟩
      simp only [isFinish, finishUpload, sameUploads, found]
      rfl
  | some upload =>
      cases chosen : upload.fresh.bind (tx upload) with
      | none =>
          refine ⟨id, Notifies.id, fun notifications => ?_⟩
          simp only [isFinish, finishUpload, sameUploads, found, chosen]
          rfl
      | some ending =>
          rcases Option.bind_eq_some_iff.mp chosen with ⟨fresh, _, isEnding⟩
          rcases (framed upload fresh ending isEnding).commit Notifies.id with
            ⟨next, change, notifies, committed⟩
          refine ⟨change, notifies, fun notifications => ?_⟩
          simp only [isFinish, finishUpload, sameUploads, found, chosen]
          exact congrArg OrderTables.notifications (committed notifications)

/-- Every request but the reading of notifications and the demo reset notifies once at most. -/
theorem step_notifies (companies : (world.tables.offers.map Offer.companyId).Nodup)
    (request : Request) (notReads : ∀ ids, request ≠ .readNotifications ids)
    (notReset : ∀ demoIds, request ≠ .resetDemo demoIds) : world.StepNotifies request := by
  cases request with
  | submitOffer environment editedAt companyId dto =>
      exact stepNotifies_of_commit (OffersService.submit_framed companies) fun _ => rfl
  | withdrawOffer environment companyId offerId =>
      exact stepNotifies_of_commit (OffersService.leaveSelection_framed companies) fun _ => rfl
  | rejectOffer environment clientId offerId =>
      exact stepNotifies_of_commit (OffersService.leaveSelection_framed companies) fun _ => rfl
  | acceptOffer environment orderId offerId seenOfferEditedAt =>
      exact stepNotifies_of_commit (OrderTransitionService.run_framed companies) fun _ => rfl
  | submitWork environment orderId =>
      exact stepNotifies_of_commit (OrderWorkflowService.submitWork_framed companies) fun _ => rfl
  | confirm environment orderId comment =>
      exact stepNotifies_of_commit (OrderTransitionService.run_framed companies) fun _ => rfl
  | dispute environment orderId correctionComment =>
      exact stepNotifies_of_commit (OrderTransitionService.run_framed companies) fun _ => rfl
  | addFiles environment orderId status comment prepared =>
      have quiet : OrderQuiet (OrderWorkflowService.startAddFiles environment orderId status
        comment prepared) world.tables := OrderWorkflowService.startAddFiles_quiet
      rcases quiet with ⟨error, throws⟩ | ⟨opened, next, _, rfl, returns⟩
      · refine ⟨id, Notifies.id, fun notifications => ?_⟩
        simp only [step, withNotifications, throws notifications]
        rfl
      · refine ⟨id, Notifies.id, fun notifications => ?_⟩
        simp only [step, withNotifications, returns notifications]
        rfl
  | dropDuplicates call => exact stepNotifies_of_unchanged fun _ => rfl
  | insertFiles environment elsewhere call =>
      refine stepNotifies_of_finish (fun upload fresh ending isEnding => ?_) fun _ => rfl
      cases fresh with
      | nil => cases isEnding
      | cons file files =>
          cases isEnding
          refine Transaction.Framed.then_quiet (FilesService.insertFiles_framed Notifies.id ?_
            fun _ _ => OrderWorkflowService.notifyFilesUpdated_framed)
            fun _ _ => Transaction.Quiet.pure
          exact Transaction.Framed.bind_quiet OrderWorkflowService.saveComment_quiet
            fun _ _ _ => Transaction.Quiet.pure
  | saveComment call =>
      refine stepNotifies_of_finish (fun upload fresh ending isEnding => ?_) fun _ => rfl
      cases fresh with
      | cons _ _ => cases isEnding
      | nil =>
          cases isEnding
          refine Transaction.Framed.of_quiet ?_ Notifies.id
          exact Transaction.Framed.bind_quiet OrderWorkflowService.saveComment_quiet
            fun _ _ _ => Transaction.Quiet.pure
  | failUpload call => exact stepNotifies_of_unchanged fun _ => rfl
  | verifyArea environment orderId status area =>
      exact stepNotifies_of_commit OrderWorkflowService.verifyArea_framed fun _ => rfl
  | attachClientFiles environment elsewhere orderId fresh =>
      refine stepNotifies_of_commit (FilesService.insertFiles_framed Notifies.id
        Transaction.Quiet.pure fun _ _ => ?_) fun _ => rfl
      exact Transaction.Framed.of_quiet Transaction.Quiet.pure Notifies.id
  | resetDemo demoIds => exact absurd rfl (notReset demoIds)
  | readNotifications ids => exact absurd rfl (notReads ids)

end World

end MyBuild
