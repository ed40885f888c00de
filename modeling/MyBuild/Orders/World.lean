import MyBuild.Library.Runs
import MyBuild.Orders.Changes

/-!
# Requests to one order, in any order

The system around one order: its rows and the calls of `addFiles` that are between their
two transactions.  A step is one committed or refused transaction, or one of the reads
and failures of a call in flight; a run is any list of them.  Requests carry the clock
readings and the generated identifiers they were served with, so a run quantifies over
all of these.
-/

namespace MyBuild

/-- A call of `addFiles` after its first transaction; `fresh` is what the lookup of
duplicates left of the files. -/
structure Upload where
  orderId : Uuid
  submission : OrderWorkflowService.OpenSubmission
  comment : String
  prepared : List PreparedFile
  fresh : Option (List PreparedFile)

/-- The rows of the order and the calls of `addFiles` in flight. -/
structure World where
  tables : OrderTables
  uploads : List Upload

/-- One request to the order, or one step of a call in flight. -/
inductive Request where
  | submitOffer (environment : Environment) (editedAt : Date) (companyId : Uuid)
      (dto : CreateOfferDto)
  | withdrawOffer (environment : Environment) (companyId offerId : Uuid)
  | rejectOffer (environment : Environment) (clientId offerId : Uuid)
  | acceptOffer (environment : Environment) (orderId offerId : Uuid)
      (seenOfferEditedAt : Option String)
  | submitWork (environment : Environment) (orderId : Uuid)
  | confirm (environment : Environment) (orderId : Uuid) (comment : Option String)
  | dispute (environment : Environment) (orderId : Uuid) (correctionComment : String)
  | addFiles (environment : Environment) (orderId : Uuid) (status : OrderStatus)
      (comment : String) (prepared : List PreparedFile)
  | dropDuplicates (call : ℕ)
  | insertFiles (environment : Environment) (elsewhere : FilesService.Elsewhere) (call : ℕ)
  | saveComment (call : ℕ)
  | failUpload (call : ℕ)
  | verifyArea (environment : Environment) (orderId : Uuid) (status : OrderStatus)
      (verifiedSquareMeters : Decimal)
  | attachClientFiles (environment : Environment) (elsewhere : FilesService.Elsewhere)
      (orderId : Uuid) (fresh : List PreparedFile)
  | resetDemo (demoIds : List Uuid)
  | readNotifications (ids : List Uuid)

def Request.kind : Request → RequestKind
  | .submitOffer environment editedAt companyId dto =>
      .offerSubmission environment editedAt companyId dto
  | .submitWork .. => .workSubmission
  | .withdrawOffer _ _ offerId => .transition .offerWithdrawn (some offerId)
  | .rejectOffer _ _ offerId => .transition .offerRejected (some offerId)
  | .acceptOffer _ _ offerId _ => .transition .offerAccepted (some offerId)
  | .confirm .. => .transition .workConfirmed none
  | .dispute .. => .transition .workDisputed none
  | .addFiles environment .. => .roundOpening environment
  | .resetDemo _ => .demoReset
  | _ => .other

/-- The first transaction of `addFiles`, behind the checks that need no row. -/
def OrderWorkflowService.startAddFiles (environment : Environment) (orderId : Uuid)
    (status : OrderStatus) (comment : String) (prepared : List PreparedFile) :
    OrderTx OpenSubmission := do
  liftM (assertUploadAllowed status)
  if prepared.isEmpty then throw (.badRequest "Не приложен ни один файл")
  else openSubmission environment orderId comment

namespace World

def commit {α : Type} (tx : OrderTx α) (world : World) : World :=
  { world with tables := Transaction.commit tx world.tables }

/-- The insert transaction of a call, or the comment alone when every file was a duplicate;
the call ends with it. -/
def finishUpload (world : World) (call : ℕ)
    (tx : Upload → List PreparedFile → Option (OrderTx Unit)) : World :=
  match world.uploads[call]? with
  | some upload =>
      match upload.fresh.bind (tx upload) with
      | some ending => { (world.commit ending) with uploads := world.uploads.eraseIdx call }
      | none => world
  | none => world

def insertTx (environment : Environment) (elsewhere : FilesService.Elsewhere) (upload : Upload) :
    List PreparedFile → Option (OrderTx Unit)
  | [] => none
  | file :: files => some do
      let _ ← FilesService.insertFiles environment elsewhere
        (OrderWorkflowService.attachParams environment upload.orderId upload.submission
          upload.comment) (file :: files)

/-- The transaction that saves the comment of a call none of whose files is new. -/
def commentTx (upload : Upload) : List PreparedFile → Option (OrderTx Unit)
  | [] => some do
      let _ ← OrderWorkflowService.saveComment upload.orderId upload.submission.id upload.comment
  | _ :: _ => none

/-- One step.  A request that throws, and a label without a call behind it, change nothing. -/
def step (world : World) : Request → World
  | .submitOffer environment editedAt companyId dto =>
      world.commit (OffersService.submit environment editedAt companyId dto)
  | .withdrawOffer environment companyId offerId =>
      world.commit (OffersService.withdraw environment companyId offerId)
  | .rejectOffer environment clientId offerId =>
      world.commit (OffersService.reject environment clientId offerId)
  | .acceptOffer environment orderId offerId seenOfferEditedAt =>
      world.commit (OrderWorkflowService.acceptOffer environment orderId offerId seenOfferEditedAt)
  | .submitWork environment orderId =>
      world.commit (OrderWorkflowService.submitWork environment orderId)
  | .confirm environment orderId comment =>
      world.commit (OrderWorkflowService.confirm environment orderId comment)
  | .dispute environment orderId correctionComment =>
      world.commit (OrderWorkflowService.dispute environment orderId correctionComment)
  | .addFiles environment orderId status comment prepared =>
      match (OrderWorkflowService.startAddFiles environment orderId status comment prepared).run
          world.tables with
      | .ok (submission, tables) =>
          { tables
            uploads :=
              world.uploads ++ [{ orderId, submission, comment, prepared, fresh := none }] }
      | .error _ => world
  | .dropDuplicates call =>
      { world with
        uploads := world.uploads.modify call fun upload =>
          { upload with
            fresh := some (upload.fresh.getD (FilesService.dropDuplicates world.tables.files
              upload.submission.round upload.prepared)) } }
  | .insertFiles environment elsewhere call =>
      world.finishUpload call (insertTx environment elsewhere)
  | .saveComment call => world.finishUpload call commentTx
  | .failUpload call => { world with uploads := world.uploads.eraseIdx call }
  | .verifyArea environment orderId status verifiedSquareMeters =>
      world.commit (OrderWorkflowService.verifyArea environment orderId status
        verifiedSquareMeters)
  | .attachClientFiles environment elsewhere orderId fresh =>
      world.commit (FilesService.insertFiles environment elsewhere
        (OrdersService.clientAttachParams orderId) fresh)
  | .resetDemo demoIds => { world with tables := world.tables.dropDemoTraces demoIds }
  | .readNotifications ids =>
      { world with
        tables := { world.tables with
          notifications := world.tables.notifications.map fun notification =>
            if notification.id ∈ ids then { notification with isRead := true }
            else notification } }

end World

structure CreateOrderDto where
  title : String
  category : OrderCategory
  objectType : ObjectType
  description : String
  address : String
  squareMeters : Decimal
  clientBudget : Option Decimal
  desiredStartDate : Option Date

/-- The row of a new order; its files are attached by a later transaction. -/
def OrdersService.createOrder (id : Uuid) (orderNumber : ℕ) (now : Date) (clientId : Uuid)
    (dto : CreateOrderDto) : OrderTables :=
  { order :=
      { id, orderNumber, clientId
        title := dto.title
        category := dto.category
        objectType := dto.objectType
        description := dto.description
        address := dto.address
        squareMeters := dto.squareMeters
        verifiedSquareMeters := none
        clientBudget := dto.clientBudget
        desiredStartDate := dto.desiredStartDate
        price := none
        deadline := none
        status := .waiting
        clientCompletionComment := none
        correctionComment := none
        createdAt := now
        updatedAt := now }
    offers := []
    submissions := []
    files := []
    notifications := [] }

structure OrderTables.Fresh (tables : OrderTables) : Prop where
  waiting : tables.order.status = .waiting
  noPrice : tables.order.price = none
  noDeadline : tables.order.deadline = none
  noOffers : tables.offers = []
  noSubmissions : tables.submissions = []
  noFiles : tables.files = []

theorem OrdersService.createOrder_fresh (id : Uuid) (orderNumber : ℕ) (now : Date)
    (clientId : Uuid) (dto : CreateOrderDto) :
    (createOrder id orderNumber now clientId dto).Fresh :=
  ⟨rfl, rfl, rfl, rfl, rfl, rfl⟩

namespace World

def ofTables (tables : OrderTables) : World :=
  { tables, uploads := [] }

/-- The submission of a call in flight is one of the order's, under the number it was opened
with. -/
def SubmissionsKnown (world : World) : Prop :=
  ∀ upload ∈ world.uploads, ∃ submission ∈ world.tables.submissions,
    submission.id = upload.submission.id ∧ submission.round = upload.submission.round

/-- What holds of the keys and the calls in every reachable state. -/
structure WellFormed (world : World) : Prop where
  keyed : world.tables.WellKeyed
  submissionsKnown : world.SubmissionsKnown

end World

/-- The columns of an offer no request writes again. -/
def Offer.keys (offer : Offer) : Uuid × Uuid × Uuid :=
  (offer.id, offer.companyId, offer.orderId)

theorem OrderTables.WellKeyed.of_keys {before after : OrderTables} (keyed : before.WellKeyed)
    (offers : after.offers.map Offer.keys = before.offers.map Offer.keys)
    (order : after.order.id = before.order.id)
    (submissions : after.submissions.map OrderSubmission.id =
      before.submissions.map OrderSubmission.id) : after.WellKeyed := by
  have ids := congrArg (List.map Prod.fst) offers
  have companies := congrArg (List.map fun keys => keys.2.1) offers
  have orderIds := congrArg (List.map fun keys => keys.2.2) offers
  simp only [List.map_map, Function.comp_def, Offer.keys] at ids companies orderIds
  refine ⟨ids ▸ keyed.offerIds, companies ▸ keyed.companies, ?_, submissions ▸ keyed.submissionIds⟩
  have known : ∀ id ∈ before.offers.map Offer.orderId, id = before.order.id :=
    List.forall_mem_map.mpr keyed.orderIds
  rw [order]
  exact List.forall_mem_map.mp (orderIds ▸ known)

namespace OrderTransitionCommand

variable {now : Date} {offer : Offer} {tables : OrderTables} {command : OrderTransitionCommand}

theorem after_offers_map {Column : Type} {column : Offer → Column}
    (kept : ∀ status offer, column (Offer.withStatus now status offer) = column offer) :
    (command.after now offer tables).offers.map column = tables.offers.map column := by
  cases command <;>
    simp only [after, leave, updateOffers, Rows.map_updateWhere (kept _)]

@[simp]
theorem after_order_id : (command.after now offer tables).order.id = tables.order.id := by
  cases command <;> rfl

@[simp]
theorem after_submissions :
    (command.after now offer tables).submissions = tables.submissions := by
  cases command <;> rfl

@[simp]
theorem after_files : (command.after now offer tables).files = tables.files := by
  cases command <;> rfl

end OrderTransitionCommand

namespace OrderChange

variable {tables next : OrderTables} {kind : RequestKind}

theorem order_id (change : OrderChange tables kind next) : next.order.id = tables.order.id := by
  cases change <;> simp [Order.withStatus]

theorem order_fixed (change : OrderChange tables kind next) :
    next.order.orderNumber = tables.order.orderNumber ∧ next.order.title = tables.order.title ∧
      next.order.clientId = tables.order.clientId := by
  cases change with
  | transition _ command _ _ _ => cases command <;> exact ⟨rfl, rfl, rfl⟩
  | _ => exact ⟨rfl, rfl, rfl⟩

theorem takesSubmission (keyed : tables.WellKeyed) (change : OrderChange tables kind next) :
    ∀ environment editedAt companyId dto,
      kind = .offerSubmission environment editedAt companyId dto →
        OffersService.takesSubmission tables companyId = true := by
  intro environment editedAt companyId dto isKind
  cases change <;> cases isKind
  case offerCreated accepts freshId absent =>
      have none : tables.offers.find? (·.companyId == companyId) = none := by simpa using absent
      simp only [OffersService.takesSubmission, none]
      cases status : tables.order.status <;> rw [status] at accepts <;>
        first | rfl | cases accepts
  case offerEdited existing accepts mem resubmittable notFinal =>
      simp only [OffersService.takesSubmission, Rows.find?_eq_some_of_mem keyed.companies mem,
        Option.map_some, Option.any_some, notFinal, canTransition]
      have listed : (orderTransitions tables.order.status).contains .offerSubmitted = true := by
        cases status : tables.order.status <;> rw [status] at accepts <;>
          first | rfl | cases accepts
      rw [listed]
      simpa using resubmittable

theorem submissions_prefix (change : OrderChange tables kind next) :
    tables.submissions.map (fun submission => (submission.id, submission.round)) <+:
      next.submissions.map fun submission => (submission.id, submission.round) := by
  cases change with
  | workSubmitted environment orderId offer submission _ _ _ =>
      have same : (OrderWorkflowService.closeSubmission environment.now submission.id
          tables.submissions).map (fun submission => (submission.id, submission.round)) =
            tables.submissions.map fun submission => (submission.id, submission.round) :=
        Rows.map_updateWhere fun _ => rfl
      exact same ▸ List.prefix_refl _
  | submissionOpened environment comment _ _ _ => simp
  | submissionFilled submission comment rows _ _ _ _ =>
      have same : (OrderWorkflowService.commentSubmission submission.id comment
          tables.submissions).map (fun submission => (submission.id, submission.round)) =
            tables.submissions.map fun submission => (submission.id, submission.round) :=
        Rows.map_updateWhere fun _ => rfl
      exact same ▸ List.prefix_refl _
  | transition _ _ _ _ _ => simp
  | _ => exact List.prefix_refl _

theorem wellKeyed (change : OrderChange tables kind next) (keyed : tables.WellKeyed) :
    next.WellKeyed := by
  cases change with
  | offerCreated environment _ companyId dto _ absent freshId =>
      refine ⟨?_, ?_, ?_, keyed.submissionIds⟩
      · simpa [List.nodup_append, keyed.offerIds] using freshId
      · simpa [List.nodup_append, keyed.companies] using absent
      · simpa [Order.withStatus, or_imp, forall_and, Offer.create] using keyed.orderIds
  | offerEdited existing environment editedAt dto _ _ _ _ =>
      exact keyed.of_keys (Rows.map_updateWhere fun _ => rfl) rfl rfl
  | transition environment command offer _ _ =>
      exact keyed.of_keys (OrderTransitionCommand.after_offers_map fun _ _ => rfl) (by simp)
        (by simp)
  | workSubmitted environment orderId offer submission _ _ _ =>
      exact keyed.of_keys (Rows.map_updateWhere fun _ => rfl) rfl
        (Rows.map_updateWhere fun _ => rfl)
  | submissionOpened environment comment _ _ freshId =>
      refine ⟨keyed.offerIds, keyed.companies, keyed.orderIds, ?_⟩
      simpa [List.nodup_append, keyed.submissionIds, OrderSubmission.create] using freshId
  | submissionFilled submission comment rows _ _ _ _ =>
      exact keyed.of_keys rfl rfl (Rows.map_updateWhere fun _ => rfl)
  | clientFilesAdded _ _ => exact keyed.of_keys rfl rfl rfl
  | areaVerified _ _ _ => exact keyed.of_keys rfl rfl rfl
  | offersDropped demoIds =>
      refine ⟨keyed.offerIds.sublist (List.filter_sublist.map _),
        keyed.companies.sublist (List.filter_sublist.map _), ?_, keyed.submissionIds⟩
      intro offer mem
      exact keyed.orderIds offer (List.mem_of_mem_filter mem)

end OrderChange

namespace World

variable {world : World} {kind : RequestKind}

theorem commit_changes {α : Type} {tx : OrderTx α}
    (changes : ∀ value next, tx.run world.tables = .ok (value, next) →
      world.tables.ChangesTo kind next) :
    world.tables.ChangesTo kind (world.commit tx).tables := by
  rcases Transaction.commit_cases tx world.tables with ⟨value, returned⟩ | unchanged
  · exact changes value _ returned
  · rw [show (world.commit tx).tables = world.tables from unchanged]
    exact Or.inl (OrderTables.SameOrderRows.refl _)

theorem finishUpload_changes {call : ℕ} {tx : Upload → List PreparedFile → Option (OrderTx Unit)}
    (changes : ∀ upload ∈ world.uploads, ∀ fresh ending, tx upload fresh = some ending →
      ∀ value next, ending.run world.tables = .ok (value, next) →
        world.tables.ChangesTo kind next) :
    world.tables.ChangesTo kind (world.finishUpload call tx).tables := by
  simp only [finishUpload]
  split
  case h_1 upload found =>
    split
    case h_1 ending chosen =>
      rcases Option.bind_eq_some_iff.mp chosen with ⟨fresh, _, isEnding⟩
      exact commit_changes (changes upload (List.mem_of_getElem? found) fresh ending isEnding)
    case h_2 => exact Or.inl (OrderTables.SameOrderRows.refl _)
  case h_2 => exact Or.inl (OrderTables.SameOrderRows.refl _)

theorem WellFormed.sameRound (wellFormed : world.WellFormed) {upload : Upload}
    (mem : upload ∈ world.uploads) :
    ∀ row ∈ world.tables.submissions, row.id = upload.submission.id →
      row.round = upload.submission.round := by
  intro row rowMem sameId
  rcases wellFormed.submissionsKnown upload mem with ⟨known, knownMem, knownId, knownRound⟩
  rw [Rows.eq_of_key wellFormed.keyed.submissionIds rowMem knownMem (sameId.trans knownId.symm)]
  exact knownRound

theorem startAddFiles_ok {environment : Environment} {orderId : Uuid} {status : OrderStatus}
    {comment : String} {prepared : List PreparedFile} {tables next : OrderTables}
    {opened : OrderWorkflowService.OpenSubmission}
    (returned : (OrderWorkflowService.startAddFiles environment orderId status comment
      prepared).run tables = .ok (opened, next)) :
    canUploadWork status = true ∧ prepared ≠ [] ∧
      (OrderWorkflowService.openSubmission environment orderId comment).run tables =
        .ok (opened, next) := by
  simp only [OrderWorkflowService.startAddFiles, OrderWorkflowService.assertUploadAllowed]
    at returned
  rcases Transaction.run_bind_eq_ok.mp returned with ⟨_, middle, ran, afterCheck⟩
  rcases Transaction.run_liftM_eq_ok.mp ran with ⟨allowed, rfl⟩
  split at allowed
  case isFalse => cases allowed
  case isTrue uploads =>
    split at afterCheck
    case isTrue => cases afterCheck
    case isFalse nonempty => exact ⟨uploads, by simpa using nonempty, afterCheck⟩

/-- Every step leaves the rows as they were or makes one of the listed changes. -/
theorem step_changes (wellFormed : world.WellFormed) (request : Request) :
    world.tables.ChangesTo request.kind (world.step request).tables := by
  cases request with
  | submitOffer environment editedAt companyId dto =>
      exact commit_changes fun _ _ => OffersService.submit_changes wellFormed.keyed
  | withdrawOffer environment companyId offerId =>
      exact commit_changes fun _ _ => OffersService.leaveSelection_changes
        (fun _ => ⟨rfl, rfl⟩) (by decide)
  | rejectOffer environment clientId offerId =>
      exact commit_changes fun _ _ => OffersService.leaveSelection_changes
        (fun _ => ⟨rfl, rfl⟩) (by decide)
  | acceptOffer environment orderId offerId seenOfferEditedAt =>
      exact commit_changes fun _ _ => OrderTransitionService.run_changes
        (by simp [OrderTransitionCommand.type])
  | submitWork environment orderId =>
      exact commit_changes fun _ _ => OrderWorkflowService.submitWork_changes
  | confirm environment orderId comment =>
      exact commit_changes fun _ _ => OrderTransitionService.run_changes
        (by simp [OrderTransitionCommand.type])
  | dispute environment orderId correctionComment =>
      exact commit_changes fun _ _ => OrderTransitionService.run_changes
        (by simp [OrderTransitionCommand.type])
  | addFiles environment orderId status comment prepared =>
      simp only [step]
      split
      case h_1 opened next started =>
        exact OrderWorkflowService.openSubmission_changes (startAddFiles_ok started).2.2
      case h_2 => exact Or.inl (OrderTables.SameOrderRows.refl _)
  | dropDuplicates call => exact Or.inl (OrderTables.SameOrderRows.refl _)
  | insertFiles environment elsewhere call =>
      apply finishUpload_changes
      intro upload mem fresh ending isEnding value next returned
      cases fresh with
      | nil => cases isEnding
      | cons file files =>
          cases isEnding
          rcases Transaction.run_bind_eq_ok.mp returned with ⟨created, _, inserted, finished⟩
          cases finished
          exact OrderWorkflowService.insertFiles_changes wellFormed.keyed
            (wellFormed.sameRound mem) inserted
  | saveComment call =>
      apply finishUpload_changes
      intro upload mem fresh ending isEnding value next returned
      cases fresh with
      | cons _ _ => cases isEnding
      | nil =>
          cases isEnding
          rcases Transaction.run_bind_eq_ok.mp returned with ⟨changed, _, saved, finished⟩
          cases finished
          exact OrderWorkflowService.saveComment_changes wellFormed.keyed saved
  | failUpload call => exact Or.inl (OrderTables.SameOrderRows.refl _)
  | verifyArea environment orderId status area =>
      exact commit_changes fun _ _ returned => (OrderWorkflowService.verifyArea_ok returned).2
  | attachClientFiles environment elsewhere orderId fresh =>
      exact commit_changes fun _ _ => OrdersService.insertFiles_changes
  | resetDemo demoIds => exact OrderTables.dropDemoTraces_changes demoIds world.tables
  | readNotifications ids => exact Or.inl ⟨rfl, rfl, rfl, rfl⟩

theorem wellKeyed_of_changesTo {before after : OrderTables} (keyed : before.WellKeyed)
    (changes : before.ChangesTo kind after) : after.WellKeyed := by
  rcases changes with same | ⟨middle, change, same⟩
  · rcases same with ⟨order, offers, submissions, _⟩
    exact keyed.of_keys (by rw [offers]) (by rw [order]) (by rw [submissions])
  · rcases same with ⟨order, offers, submissions, _⟩
    exact (change.wellKeyed keyed).of_keys (by rw [offers]) (by rw [order]) (by rw [submissions])

theorem submissions_prefix_of_changesTo {before after : OrderTables}
    (changes : before.ChangesTo kind after) :
    before.submissions.map (fun submission => (submission.id, submission.round)) <+:
      after.submissions.map fun submission => (submission.id, submission.round) := by
  rcases changes with same | ⟨middle, change, same⟩
  · exact same.2.2.1 ▸ List.prefix_refl _
  · exact same.2.2.1 ▸ change.submissions_prefix

theorem known_of_changesTo {before after : OrderTables} (changes : before.ChangesTo kind after)
    {id : Uuid} {round : ℕ}
    (known : ∃ submission ∈ before.submissions, submission.id = id ∧ submission.round = round) :
    ∃ submission ∈ after.submissions, submission.id = id ∧ submission.round = round := by
  rcases known with ⟨submission, mem, rfl, rfl⟩
  have there := (submissions_prefix_of_changesTo changes).subset (List.mem_map_of_mem mem)
  rcases List.mem_map.mp there with ⟨row, rowMem, same⟩
  simp only [Prod.mk.injEq] at same
  exact ⟨row, rowMem, same⟩

/-- The calls after a step were there before, their lookup apart, or the step has opened their
submission. -/
theorem step_uploads (request : Request) {upload : Upload}
    (mem : upload ∈ (world.step request).uploads) :
    (∃ old ∈ world.uploads, old.submission = upload.submission) ∨
      ∃ submission ∈ (world.step request).tables.submissions,
        submission.id = upload.submission.id ∧ submission.round = upload.submission.round := by
  have kept : ∀ other, other ∈ world.uploads →
      ∃ old ∈ world.uploads, old.submission = other.submission := fun other otherMem =>
    ⟨other, otherMem, rfl⟩
  have finished : ∀ call tx, upload ∈ (world.finishUpload call tx).uploads →
      upload ∈ world.uploads := by
    intro call tx otherMem
    simp only [finishUpload] at otherMem
    split at otherMem
    · split at otherMem
      · exact List.mem_of_mem_eraseIdx otherMem
      · exact otherMem
    · exact otherMem
  cases request with
  | addFiles environment orderId status comment prepared =>
      simp only [step] at mem ⊢
      split at mem
      case h_2 => exact Or.inl (kept upload mem)
      case h_1 opened next started =>
        rcases List.mem_append.mp mem with old | new
        · exact Or.inl (kept upload old)
        · rw [List.mem_singleton.mp new]
          apply Or.inr
          rcases OrderWorkflowService.openSubmission_ok (startAddFiles_ok started).2.2 with
            ⟨_, _, ⟨submission, found, sameId, sameRound, rfl⟩ | ⟨_, _, sameId, _, rfl⟩⟩
          · exact ⟨submission, OrderWorkflowService.findOpenSubmission_mem found, sameId.symm,
              sameRound.symm⟩
          · exact ⟨OrderSubmission.create environment opened.round comment, by simp,
              sameId.symm, rfl⟩
  | dropDuplicates call =>
      apply Or.inl
      rcases List.getElem_of_mem mem with ⟨index, bound, rfl⟩
      simp only [step, List.length_modify] at bound
      refine ⟨world.uploads[index], List.getElem_mem bound, ?_⟩
      simp only [step, List.getElem_modify]
      split <;> rfl
  | insertFiles environment elsewhere call => exact Or.inl (kept upload (finished _ _ mem))
  | saveComment call => exact Or.inl (kept upload (finished _ _ mem))
  | failUpload call => exact Or.inl (kept upload (List.mem_of_mem_eraseIdx mem))
  | _ => exact Or.inl (kept upload mem)

theorem WellFormed.step (wellFormed : world.WellFormed) (request : Request) :
    (world.step request).WellFormed := by
  have changes := step_changes wellFormed request
  refine ⟨wellKeyed_of_changesTo wellFormed.keyed changes, ?_⟩
  intro upload mem
  rcases step_uploads request mem with ⟨old, oldMem, same⟩ | known
  · rw [← same]
    exact known_of_changesTo changes (wellFormed.submissionsKnown old oldMem)
  · exact known

theorem wellFormed_of_keyed {tables : OrderTables} (keyed : tables.WellKeyed) :
    (ofTables tables).WellFormed := by
  refine ⟨keyed, ?_⟩
  intro upload mem
  cases mem

theorem wellFormed_ofTables {tables : OrderTables} (fresh : tables.Fresh) :
    (ofTables tables).WellFormed := by
  apply wellFormed_of_keyed
  constructor
  · simp [fresh.noOffers]
  · simp [fresh.noOffers]
  · simp [fresh.noOffers]
  · simp [fresh.noSubmissions]

/-- A property of the rows that no listed change breaks holds in every state reached from rows
that have it. -/
theorem run_tables_invariant {Invariant : OrderTables → Prop}
    (blind : ∀ tables notifications,
      Invariant { tables with notifications } ↔ Invariant tables)
    (preserved : ∀ before kind after, before.WellKeyed → OrderChange before kind after →
      Invariant before → Invariant after)
    (wellFormed : world.WellFormed) (holds : Invariant world.tables) (requests : List Request) :
    (Runs.run World.step world requests).WellFormed ∧
      Invariant (Runs.run World.step world requests).tables := by
  have stepPreserves : ∀ (state : World) (request : Request),
      state.WellFormed ∧ Invariant state.tables →
        (state.step request).WellFormed ∧ Invariant (state.step request).tables := by
    rintro state request ⟨stateWellFormed, stateHolds⟩
    refine ⟨stateWellFormed.step request, ?_⟩
    rcases step_changes stateWellFormed request with same | ⟨middle, change, same⟩
    · exact (same.iff blind).mpr stateHolds
    · exact (same.iff blind).mpr (preserved _ _ _ stateWellFormed.keyed change stateHolds)
  exact Runs.run_invariant stepPreserves ⟨wellFormed, holds⟩ requests

/-- What every listed change keeps from before to after, every run keeps from its start to its
end. -/
theorem run_tables_relation {Invariant : OrderTables → Prop}
    {Related : OrderTables → OrderTables → Prop}
    (blind : ∀ tables notifications,
      Invariant { tables with notifications } ↔ Invariant tables)
    (preserved : ∀ before kind after, before.WellKeyed → OrderChange before kind after →
      Invariant before → Invariant after)
    (reflexive : ∀ tables, Related tables tables)
    (transitive : ∀ first second third, Related first second → Related second third →
      Related first third)
    (relatedBlind : ∀ before after notifications,
      Related before { after with notifications } ↔ Related before after)
    (related : ∀ before kind after, before.WellKeyed → OrderChange before kind after →
      Invariant before → Related before after)
    (wellFormed : world.WellFormed) (holds : Invariant world.tables) (requests : List Request) :
    Related world.tables (Runs.run World.step world requests).tables := by
  have stepPreserves : ∀ (state : World) (request : Request),
      state.WellFormed ∧ Invariant state.tables →
        (state.step request).WellFormed ∧ Invariant (state.step request).tables := by
    rintro state request ⟨stateWellFormed, stateHolds⟩
    exact run_tables_invariant blind preserved stateWellFormed stateHolds [request]
  have stepRelates : ∀ (state : World) (request : Request),
      state.WellFormed ∧ Invariant state.tables →
        Related state.tables (state.step request).tables := by
    rintro state request ⟨stateWellFormed, stateHolds⟩
    rcases step_changes stateWellFormed request with same | ⟨middle, change, same⟩
    · exact (same.iff (relatedBlind state.tables)).mpr (reflexive state.tables)
    · exact (same.iff (relatedBlind state.tables)).mpr
        (related _ _ _ stateWellFormed.keyed change stateHolds)
  have runRelates : ∀ state : World, state.WellFormed ∧ Invariant state.tables →
      Related state.tables (Runs.run World.step state requests).tables := fun state holds =>
    Runs.run_relation (fun state => reflexive state.tables)
      (fun first second third => transitive first.tables second.tables third.tables)
      stepPreserves stepRelates holds requests
  exact runRelates world ⟨wellFormed, holds⟩

end World

def exampleOrder : CreateOrderDto :=
  { title := "Ремонт", category := .planImplementation, objectType := .house
    description := "", address := "", squareMeters := ⟨100⟩, clientBudget := none
    desiredStartDate := none }

def exampleSubmission (companyId offerId : Uuid) (price : ℕ) : Request :=
  .submitOffer (exampleEnvironment offerId) exampleMoment companyId
    { orderId := ⟨1⟩, proposedPrice := ⟨price⟩, proposedDeadline := Date.epoch
      comment := none }

end MyBuild
