import MyBuild.Orders.Coupling
import MyBuild.Orders.Routes

/-!
# A request to add files that fails

One `addFiles` request among other requests to its order.  Its transactions are those of
`OrderWorkflowService.addFiles`, and between them come the lookup of duplicates, the
reservation and one upload for each file; any of these may fail, and other requests may come
between any two.  What the request leaves behind is told by a second run, of the other
requests alone.
-/

namespace MyBuild

structure AddFilesRequest where
  environment : Environment
  orderId : Uuid
  status : OrderStatus
  comment : String
  prepared : List PreparedFile

/-- Where the request stands after its first transaction. -/
inductive AddFilesPhase where
  | deduplicating (submission : OrderWorkflowService.OpenSubmission)
  | reserving (submission : OrderWorkflowService.OpenSubmission) (fresh : List PreparedFile)
  | uploading (submission : OrderWorkflowService.OpenSubmission) (fresh : List PreparedFile)
      (uploaded : ℕ)
  | commenting (submission : OrderWorkflowService.OpenSubmission)
  | committed
  | failed

/-- What the request does next; `fail` is any exception that is thrown outside a transaction. -/
inductive AddFilesAction where
  | dropDuplicates
  | reserveStorage (elsewhere : FilesService.Elsewhere) (reserved : StorageUsage)
  | upload
  | insertFiles (environment : Environment) (elsewhere : FilesService.Elsewhere)
  | saveComment
  | fail

inductive UploadLabel where
  | own (action : AddFilesAction)
  | other (request : Request)

def UploadLabel.request? : UploadLabel → Option Request
  | .own _ => none
  | .other request => some request

/-- The order with the other requests to it, and the request in question. -/
structure UploadRun where
  world : World
  phase : AddFilesPhase

namespace AddFilesRequest

/-- The first transaction of the request. -/
def start (request : AddFilesRequest) (world : World) : UploadRun :=
  match (OrderWorkflowService.startAddFiles request.environment request.orderId request.status
      request.comment request.prepared).run world.tables with
  | .ok (submission, tables) =>
      { world := { world with tables }, phase := .deduplicating submission }
  | .error _ => { world, phase := .failed }

/-- The last transaction of the request. -/
def finish {α : Type} (tx : OrderTx α) (world : World) : UploadRun :=
  { world := world.commit tx
    phase := if Transaction.succeeds tx world.tables then .committed else .failed }

def advance (request : AddFilesRequest) (world : World) (phase : AddFilesPhase)
    (action : AddFilesAction) : UploadRun :=
  match phase, action with
  | .committed, _ => { world, phase }
  | .failed, _ => { world, phase }
  | _, .fail => { world, phase := .failed }
  | .deduplicating submission, .dropDuplicates =>
      match FilesService.dropDuplicates world.tables.files submission.round request.prepared with
      | [] => { world, phase := .commenting submission }
      | file :: files => { world, phase := .reserving submission (file :: files) }
  | .reserving submission fresh, .reserveStorage elsewhere reserved =>
      { world
        phase :=
          if Transaction.succeeds (FilesService.reserveStorage elsewhere reserved request.orderId
              .company fresh) world.tables then .uploading submission fresh 0
          else .failed }
  | .uploading submission fresh uploaded, .upload =>
      { world
        phase :=
          if uploaded < fresh.length then .uploading submission fresh (uploaded + 1) else phase }
  | .uploading submission fresh uploaded, .insertFiles environment elsewhere =>
      if uploaded = fresh.length then
        finish (FilesService.insertFiles environment elsewhere
          (OrderWorkflowService.attachParams environment request.orderId submission
            request.comment) fresh) world
      else { world, phase }
  | .commenting submission, .saveComment =>
      finish (OrderWorkflowService.saveComment request.orderId submission.id request.comment)
        world
  | _, _ => { world, phase }

def step (request : AddFilesRequest) (state : UploadRun) : UploadLabel → UploadRun
  | .own action => request.advance state.world state.phase action
  | .other other => { state with world := state.world.step other }

/-- The request is accepted by an order without an open submission: it opens one. -/
def opensRound (request : AddFilesRequest) (tables : OrderTables) : Bool :=
  canUploadWork request.status && !request.prepared.isEmpty &&
    tables.order.id == request.orderId && canUploadWork tables.order.status &&
    (OrderWorkflowService.findOpenSubmission tables.submissions).isNone

end AddFilesRequest

/-- The submissions, files and notifications of both are the same. -/
def OrderTables.SameUploads (first second : OrderTables) : Prop :=
  first.submissions = second.submissions ∧ first.files = second.files ∧
    first.notifications = second.notifications

/-- The identifier the request generates for a submission, if it makes one. -/
def Request.submissionId? : Request → Option Uuid
  | .addFiles environment .. => some environment.submissionId
  | _ => none

def OrderTables.HasSubmission (submissionId : Uuid) (tables : OrderTables) : Prop :=
  submissionId ∈ tables.submissions.map OrderSubmission.id

/-- A change leaves the submissions as they are, or adds the one of the kind. -/
theorem OrderChange.submissionIds {tables next : OrderTables} {kind : RequestKind}
    (change : OrderChange tables kind next) :
    next.submissions.map OrderSubmission.id = tables.submissions.map OrderSubmission.id ∨
      ∃ environment, kind = .roundOpening environment ∧
        next.submissions.map OrderSubmission.id =
          tables.submissions.map OrderSubmission.id ++ [environment.submissionId] := by
  cases change with
  | submissionOpened environment comment _ _ _ =>
      refine Or.inr ⟨environment, rfl, ?_⟩
      simp [OrderSubmission.create]
  | submissionFilled _ _ _ _ _ _ _ => exact Or.inl (Rows.map_updateWhere fun _ => rfl)
  | workSubmitted _ _ _ _ _ _ _ => exact Or.inl (Rows.map_updateWhere fun _ => rfl)
  | transition _ _ _ _ _ => exact Or.inl (by simp)
  | _ => exact Or.inl rfl

theorem Request.submissionId?_of_kind {request : Request} {environment : Environment}
    (isKind : request.kind = .roundOpening environment) :
    request.submissionId? = some environment.submissionId := by
  cases request with
  | addFiles environment orderId status comment prepared =>
      cases isKind
      rfl
  | _ => cases isKind

namespace World

variable {world : World} {submissionId : Uuid}

theorem hasSubmission_step (wellFormed : world.WellFormed) (request : Request)
    (present : world.tables.HasSubmission submissionId) :
    (world.step request).tables.HasSubmission submissionId := by
  have kept := submissions_prefix_of_changesTo (step_changes wellFormed request)
  have ids := kept.map Prod.fst
  simp only [List.map_map, Function.comp_def] at ids
  exact ids.subset present

/-- Only the request that generates an identifier makes the submission of that identifier. -/
theorem not_hasSubmission_step (wellFormed : world.WellFormed) {request : Request}
    (generated : request.submissionId? ≠ some submissionId)
    (absent : ¬world.tables.HasSubmission submissionId) :
    ¬(world.step request).tables.HasSubmission submissionId := by
  intro present
  simp only [OrderTables.HasSubmission] at absent present
  rcases step_changes wellFormed request with same | ⟨middle, change, same⟩
  · rw [same.2.2.1] at present
    exact absent present
  · rw [same.2.2.1] at present
    rcases change.submissionIds with kept | ⟨environment, isKind, added⟩
    · exact absent (kept ▸ present)
    · rw [added, List.mem_append, List.mem_singleton] at present
      rcases present with old | rfl
      · exact absent old
      · exact generated (Request.submissionId?_of_kind isKind)

theorem hasSubmission_run (wellFormed : world.WellFormed) (requests : List Request)
    (present : world.tables.HasSubmission submissionId) :
    (Runs.run step world requests).tables.HasSubmission submissionId := by
  have preserved : ∀ (state : World) (request : Request),
      state.WellFormed ∧ state.tables.HasSubmission submissionId →
        (state.step request).WellFormed ∧
          (state.step request).tables.HasSubmission submissionId :=
    fun state request holds =>
      ⟨holds.1.step request, hasSubmission_step holds.1 request holds.2⟩
  exact (Runs.run_invariant preserved ⟨wellFormed, present⟩ requests).2

theorem not_hasSubmission_run (wellFormed : world.WellFormed) {requests : List Request}
    (generated : ∀ request ∈ requests, request.submissionId? ≠ some submissionId)
    (absent : ¬world.tables.HasSubmission submissionId) :
    ¬(Runs.run step world requests).tables.HasSubmission submissionId := by
  have preserved : ∀ (state : World) (request : Request),
      request.submissionId? ≠ some submissionId →
        state.WellFormed ∧ ¬state.tables.HasSubmission submissionId →
          (state.step request).WellFormed ∧
            ¬(state.step request).tables.HasSubmission submissionId :=
    fun state request generates holds =>
      ⟨holds.1.step request, not_hasSubmission_step holds.1 generates holds.2⟩
  have along := @Runs.Along.of_mem World Request step
    (fun request => request.submissionId? ≠ some submissionId) requests generated world
  exact (along.invariant preserved ⟨wellFormed, absent⟩).2

end World

namespace AddFilesRequest

variable {request : AddFilesRequest} {world : World} {state : UploadRun}

theorem finish_world {α : Type} {tx : OrderTx α}
    (notCommitted : (finish tx world).phase ≠ .committed) : (finish tx world).world = world := by
  simp only [finish] at notCommitted ⊢
  split at notCommitted
  case isTrue => exact absurd rfl notCommitted
  case isFalse failed =>
      cases ran : tx.run world.tables with
      | ok result => exact absurd (by simp [Transaction.succeeds, ran]) failed
      | error error => simp [World.commit, Transaction.commit_of_error ran]

/-- Until the request has committed, its steps leave the rows alone. -/
theorem advance_world {phase : AddFilesPhase} {action : AddFilesAction}
    (notCommitted : (request.advance world phase action).phase ≠ .committed) :
    (request.advance world phase action).world = world := by
  simp only [advance] at notCommitted ⊢
  split
  case h_4 => split <;> rfl
  case h_7 =>
      split
      · rename_i allUploaded
        simp only [allUploaded, if_true] at notCommitted
        exact finish_world notCommitted
      · rfl
  case h_8 => exact finish_world notCommitted
  all_goals rfl

theorem committed_stays (isCommitted : state.phase = .committed) (schedule : List UploadLabel) :
    (Runs.run request.step state schedule).phase = .committed := by
  have stays : ∀ (state : UploadRun) (label : UploadLabel),
      state.phase = .committed → (request.step state label).phase = .committed := by
    rintro ⟨world, phase⟩ label rfl
    cases label <;> rfl
  exact Runs.run_invariant stays isCommitted schedule

/-- The rows of a run in which the request fails are those of the other requests alone. -/
theorem run_world {schedule : List UploadLabel}
    (failed : (Runs.run request.step state schedule).phase = .failed) :
    (Runs.run request.step state schedule).world =
      Runs.run World.step state.world (schedule.filterMap UploadLabel.request?) := by
  induction schedule generalizing state with
  | nil => rfl
  | cons label schedule ih =>
      rw [Runs.run_cons] at failed ⊢
      rw [ih failed]
      cases label with
      | other other => rfl
      | own action =>
          have notCommitted : (request.step state (.own action)).phase ≠ .committed := by
            intro isCommitted
            rw [committed_stays isCommitted] at failed
            cases failed
          exact congrArg (Runs.run World.step · _) (advance_world notCommitted)

theorem opensRound_iff {tables : OrderTables} :
    request.opensRound tables = true ↔
      canUploadWork request.status = true ∧ request.prepared ≠ [] ∧
        tables.order.id = request.orderId ∧ canUploadWork tables.order.status = true ∧
          OrderWorkflowService.findOpenSubmission tables.submissions = none := by
  simp [opensRound, and_assoc]

theorem start_of_opensRound
    (generated : ¬world.tables.HasSubmission request.environment.submissionId)
    (opens : request.opensRound world.tables = true) :
    (request.start world).world.tables.HasSubmission request.environment.submissionId := by
  rcases opensRound_iff.mp opens with ⟨allowed, nonempty, found, uploads, noneOpen⟩
  have unused : world.tables.submissions.any (·.id == request.environment.submissionId) =
      false := by
    simpa [OrderTables.HasSubmission] using generated
  let round := (OrderWorkflowService.latestSubmission world.tables.submissions).elim 0
    OrderSubmission.round + 1
  have ran : (OrderWorkflowService.startAddFiles request.environment request.orderId
      request.status request.comment request.prepared).run world.tables =
        .ok (⟨request.environment.submissionId, round, world.tables.order.orderNumber,
            world.tables.order.title, world.tables.order.clientId⟩,
          { world.tables with
            submissions := world.tables.submissions ++
              [OrderSubmission.create request.environment round request.comment] }) := by
    simp only [OrderWorkflowService.startAddFiles, OrderWorkflowService.assertUploadAllowed,
      allowed, if_true]
    rw [Transaction.run_bind_of_ok (Transaction.run_liftM_eq_ok.mpr ⟨rfl, rfl⟩)]
    simp only [List.isEmpty_iff, nonempty, if_false, OrderWorkflowService.openSubmission]
    rw [Transaction.run_bind_of_ok (run_lockOrder_eq_ok.mpr ⟨found.symm, rfl, rfl⟩)]
    simp only [uploads, if_true, Transaction.run_get_bind, noneOpen, unused,
      Bool.false_eq_true, if_false]
    rfl
  simp [start, ran, OrderTables.HasSubmission, OrderSubmission.create]

theorem start_of_not_opensRound (refused : ¬request.opensRound world.tables = true) :
    (request.start world).world = world := by
  simp only [start]
  split
  case h_2 => rfl
  case h_1 submission tables started =>
      rcases World.startAddFiles_ok started with ⟨allowed, nonempty, ran⟩
      rcases OrderWorkflowService.openSubmission_ok ran with
        ⟨found, uploads, ⟨_, _, _, _, rfl⟩ | ⟨noneOpen, _⟩⟩
      · rfl
      · exact absurd (opensRound_iff.mpr ⟨allowed, nonempty, found.symm, uploads, noneOpen⟩)
          refused

theorem start_wellFormed (wellFormed : world.WellFormed) :
    (request.start world).world.WellFormed := by
  have stepped := wellFormed.step (.addFiles request.environment request.orderId request.status
    request.comment request.prepared)
  simp only [World.step] at stepped
  simp only [start]
  cases started : (OrderWorkflowService.startAddFiles request.environment request.orderId
      request.status request.comment request.prepared).run world.tables with
  | ok outcome =>
      rcases outcome with ⟨submission, tables⟩
      simp only [started] at stepped
      exact ⟨stepped.keyed, fun upload mem =>
        stepped.submissionsKnown upload (List.mem_append_left _ mem)⟩
  | error error => exact wellFormed

end AddFilesRequest

/-- A request that fails leaves nothing behind exactly if it did not open a submission. -/
theorem failed_upload_unseen_iff (id : Uuid) (orderNumber : ℕ) (now : Date) (clientId : Uuid)
    (dto : CreateOrderDto) (before : List Request) (request : AddFilesRequest)
    (schedule : List UploadLabel)
    (generated : ¬(reached id orderNumber now clientId dto before).tables.HasSubmission
      request.environment.submissionId)
    (generatedElsewhere : ∀ other ∈ schedule.filterMap UploadLabel.request?,
      other.submissionId? ≠ some request.environment.submissionId)
    (failed : (Runs.run request.step
      (request.start (reached id orderNumber now clientId dto before)) schedule).phase = .failed) :
    (Runs.run request.step (request.start (reached id orderNumber now clientId dto before))
          schedule).world.tables.SameUploads
        (reached id orderNumber now clientId dto
          (before ++ schedule.filterMap UploadLabel.request?)).tables ↔
      ¬request.opensRound (reached id orderNumber now clientId dto before).tables = true := by
  have wellFormed := (reached_coupled id orderNumber now clientId dto before).1
  rw [AddFilesRequest.run_world failed, reached_append]
  constructor
  · intro same opens
    have present := World.hasSubmission_run (request.start_wellFormed wellFormed)
      (schedule.filterMap UploadLabel.request?)
      (AddFilesRequest.start_of_opensRound generated opens)
    have absent := World.not_hasSubmission_run wellFormed generatedElsewhere generated
    simp only [OrderTables.HasSubmission] at present absent
    rw [same.1] at present
    exact absent present
  · intro refused
    rw [AddFilesRequest.start_of_not_opensRound refused]
    exact ⟨rfl, rfl, rfl⟩

def exampleUpload (submissionId : Uuid) : AddFilesRequest :=
  { environment := { exampleEnvironment ⟨11⟩ with submissionId }
    orderId := ⟨1⟩
    status := .inProgress
    comment := "Готово"
    prepared := [{ originalName := "plan.pdf", safeName := "plan.pdf"
                   mimeType := "application/pdf", sizeBytes := 100, fileHash := "a" }] }

/-- An order at work, in which a first upload has opened a submission. -/
def exampleRound : List Request :=
  [exampleSubmission ⟨2⟩ ⟨11⟩ 100, .acceptOffer (exampleEnvironment ⟨11⟩) ⟨1⟩ ⟨11⟩ none,
    .addFiles (exampleEnvironment ⟨11⟩) ⟨1⟩ .inProgress "Начали" (exampleUpload ⟨50⟩).prepared]

/-- The storage fails on the file of an upload. -/
def exampleFailure : List UploadLabel :=
  [.own .dropDuplicates, .own (.reserveStorage ⟨0, 0⟩ ⟨0, 0, 0⟩), .own .fail]

theorem failed_upload_unseen_second :
    (Runs.run (exampleUpload ⟨51⟩).step ((exampleUpload ⟨51⟩).start
        (reached ⟨1⟩ 1 exampleMoment ⟨9⟩ exampleOrder exampleRound))
      exampleFailure).world.tables.SameUploads
        (reached ⟨1⟩ 1 exampleMoment ⟨9⟩ exampleOrder
          (exampleRound ++ exampleFailure.filterMap UploadLabel.request?)).tables := by
  apply (failed_upload_unseen_iff ⟨1⟩ 1 exampleMoment ⟨9⟩ exampleOrder exampleRound
    (exampleUpload ⟨51⟩) exampleFailure ?_ ?_ ?_).mpr
  · decide +kernel
  · simp only [OrderTables.HasSubmission]
    decide +kernel
  · intro other mem
    cases mem
  · rfl

/-- The first upload of an order fails, and a submission with its comment stays. -/
theorem failed_upload_seen :
    let world := reached ⟨1⟩ 1 exampleMoment ⟨9⟩ exampleOrder (exampleRound.take 2)
    let run := Runs.run (exampleUpload ⟨51⟩).step ((exampleUpload ⟨51⟩).start world) exampleFailure
    run.phase = .failed ∧
      run.world.tables.submissions.map OrderSubmission.comment = ["Готово"] ∧
      world.tables.submissions = [] ∧ ¬run.world.tables.SameUploads world.tables := by
  intro world run
  have left : run.world.tables.submissions.map OrderSubmission.comment = ["Готово"] := rfl
  have none : world.tables.submissions = [] := rfl
  refine ⟨rfl, left, none, fun same => ?_⟩
  rw [same.1, none] at left
  cases left

end MyBuild
