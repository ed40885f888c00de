import MyBuild.Orders.DealTerms

/-!
# The rounds of the work

A company hands in its work in numbered rounds.  Files and the comment go to the open
round, in two transactions with an upload in between; handing in the work closes it.
The second transaction checks again that its round is open, and this is what keeps a
closed round as the client received it, whatever was in flight when it was closed.
-/

namespace MyBuild

def closedRounds (submissions : List OrderSubmission) : ℕ :=
  (submissions.filter (·.submittedAt.isSome)).length

def roundFiles (round : ℕ) (files : List OrderFile) : List OrderFile :=
  files.filter (·.submissionRound == round)

namespace OrderTables

/-- The rounds are numbered from 1 on, the open one is the last, it is there only while the order
takes work, and every closed one has a file of the company. -/
structure Rounds (tables : OrderTables) : Prop where
  numbered : tables.submissions.map OrderSubmission.round =
    List.range' 1 tables.submissions.length
  openLast : ∀ submission ∈ tables.submissions, submission.submittedAt = none →
    submission.round = tables.submissions.length
  openUploads : ∀ submission ∈ tables.submissions, submission.submittedAt = none →
    canUploadWork tables.order.status = true
  filled : ∀ submission ∈ tables.submissions, submission.submittedAt ≠ none →
    OrderWorkflowService.companyFiles submission.round tables.files ≠ 0

/-- The files of the company belong to rounds. -/
def FilesOwned (tables : OrderTables) : Prop :=
  ∀ file ∈ tables.files, file.ownerType = .company →
    file.submissionRound ∈ tables.submissions.map OrderSubmission.round

/-- Every closed round keeps its row and its files. -/
def RoundsFrozen (before after : OrderTables) : Prop :=
  ∀ submission ∈ before.submissions, submission.submittedAt ≠ none →
    submission ∈ after.submissions ∧
      roundFiles submission.round after.files = roundFiles submission.round before.files

end OrderTables

namespace OrderWorkflowService

theorem latestSubmission_eq_none_iff {submissions : List OrderSubmission} :
    latestSubmission submissions = none ↔ submissions = [] := by
  cases submissions with
  | nil => simp [latestSubmission]
  | cons submission rest =>
      simp only [latestSubmission, reduceCtorEq, iff_false]
      split
      · simp
      · split <;> simp

theorem findOpenSubmission_eq_none_iff {submissions : List OrderSubmission} :
    findOpenSubmission submissions = none ↔
      ∀ submission ∈ submissions, submission.submittedAt ≠ none := by
  simp [findOpenSubmission, latestSubmission_eq_none_iff]

theorem findOpenSubmission_isOpen {submissions : List OrderSubmission}
    {submission : OrderSubmission} (found : findOpenSubmission submissions = some submission) :
    submission.submittedAt = none := by
  have fits := (List.mem_filter.mp (latestSubmission_mem found)).2
  simpa using fits

theorem round_le_latest {submissions : List OrderSubmission} {submission : OrderSubmission}
    (mem : submission ∈ submissions) :
    submission.round ≤ (latestSubmission submissions).elim 0 OrderSubmission.round := by
  induction submissions with
  | nil => cases mem
  | cons first rest ih =>
      simp only [latestSubmission]
      cases latest : latestSubmission rest with
      | none =>
          rw [latestSubmission_eq_none_iff.mp latest, List.mem_singleton] at mem
          simp [mem]
      | some last =>
          rw [latest, Option.elim_some] at ih
          simp only
          rcases List.mem_cons.mp mem with rfl | later
          · split
            · exact le_rfl
            · exact Nat.le_of_not_lt ‹_›
          · have bound := ih later
            split
            · exact Nat.le_of_lt (Nat.lt_of_le_of_lt bound ‹_›)
            · exact bound

theorem companyFiles_append (round : ℕ) (files rows : List OrderFile) :
    companyFiles round (files ++ rows) = companyFiles round files + companyFiles round rows := by
  simp [companyFiles]

end OrderWorkflowService

namespace OrderTables.Rounds

variable {tables next : OrderTables}

theorem eq_of_round (rounds : tables.Rounds) {first second : OrderSubmission}
    (firstMem : first ∈ tables.submissions) (secondMem : second ∈ tables.submissions)
    (same : first.round = second.round) : first = second := by
  refine Rows.eq_of_key ?_ firstMem secondMem same
  rw [rounds.numbered]
  exact List.nodup_range'

theorem round_pos (rounds : tables.Rounds) {submission : OrderSubmission}
    (mem : submission ∈ tables.submissions) : 0 < submission.round := by
  have listed : submission.round ∈ tables.submissions.map OrderSubmission.round :=
    List.mem_map_of_mem mem
  rw [rounds.numbered, List.mem_range'_1] at listed
  omega

theorem open_unique (rounds : tables.Rounds) {first second : OrderSubmission}
    (firstMem : first ∈ tables.submissions) (secondMem : second ∈ tables.submissions)
    (firstOpen : first.submittedAt = none) (secondOpen : second.submittedAt = none) :
    first = second :=
  rounds.eq_of_round firstMem secondMem
    ((rounds.openLast first firstMem firstOpen).trans
      (rounds.openLast second secondMem secondOpen).symm)

theorem latest_round (rounds : tables.Rounds) :
    (OrderWorkflowService.latestSubmission tables.submissions).elim 0 OrderSubmission.round =
      tables.submissions.length := by
  cases latest : OrderWorkflowService.latestSubmission tables.submissions with
  | none => simp [OrderWorkflowService.latestSubmission_eq_none_iff.mp latest]
  | some submission =>
      have mem := OrderWorkflowService.latestSubmission_mem latest
      have numbers := rounds.numbered
      have upper : submission.round ∈ List.range' 1 tables.submissions.length :=
        numbers ▸ List.mem_map_of_mem mem
      rw [List.mem_range'_1] at upper
      have lastNumber : tables.submissions.length ∈
          tables.submissions.map OrderSubmission.round := by
        rw [numbers, List.mem_range'_1]
        omega
      rcases List.mem_map.mp lastNumber with ⟨last, lastMem, isLast⟩
      have lower := OrderWorkflowService.round_le_latest lastMem
      rw [latest] at lower
      simp only [Option.elim_some] at lower ⊢
      omega

theorem of_allClosed (rounds : tables.Rounds)
    (allClosed : ∀ submission ∈ tables.submissions, submission.submittedAt ≠ none)
    (submissions : next.submissions = tables.submissions) (files : next.files = tables.files) :
    next.Rounds := by
  refine ⟨?_, ?_, ?_, ?_⟩
  · rw [submissions]
    exact rounds.numbered
  · intro submission mem isOpen
    rw [submissions] at mem
    exact absurd isOpen (allClosed submission mem)
  · intro submission mem isOpen
    rw [submissions] at mem
    exact absurd isOpen (allClosed submission mem)
  · intro submission mem closed
    rw [submissions] at mem
    rw [files]
    exact rounds.filled submission mem closed

theorem allClosed (rounds : tables.Rounds) (refuses : canUploadWork tables.order.status = false) :
    ∀ submission ∈ tables.submissions, submission.submittedAt ≠ none := by
  intro submission mem isOpen
  rw [rounds.openUploads submission mem isOpen] at refuses
  cases refuses

theorem of_moreFiles (rounds : tables.Rounds) (rows : List OrderFile)
    (status : next.order.status = tables.order.status)
    (submissions : next.submissions = tables.submissions)
    (files : next.files = tables.files ++ rows) : next.Rounds := by
  refine ⟨?_, ?_, ?_, ?_⟩
  · rw [submissions]
    exact rounds.numbered
  · rw [submissions]
    exact rounds.openLast
  · rw [submissions, status]
    exact rounds.openUploads
  · rw [submissions, files]
    intro submission mem closed
    have before := rounds.filled submission mem closed
    rw [OrderWorkflowService.companyFiles_append]
    omega

theorem open_next (rounds : tables.Rounds) (environment : Environment) (comment : String)
    (uploads : canUploadWork tables.order.status = true)
    (noneOpen : OrderWorkflowService.findOpenSubmission tables.submissions = none) :
    ({ tables with
      submissions := tables.submissions ++ [OrderSubmission.create environment
        ((OrderWorkflowService.latestSubmission tables.submissions).elim 0
          OrderSubmission.round + 1) comment] } : OrderTables).Rounds := by
  have closed := OrderWorkflowService.findOpenSubmission_eq_none_iff.mp noneOpen
  rw [rounds.latest_round]
  refine ⟨?_, ?_, ?_, ?_⟩
  · simp only [List.map_append, List.map_cons, List.map_nil, List.length_append,
      List.length_cons, List.length_nil, rounds.numbered, OrderSubmission.create]
    rw [List.range'_concat]
    simp [Nat.add_comm]
  · intro submission mem isOpen
    rcases List.mem_append.mp mem with old | new
    · exact absurd isOpen (closed submission old)
    · rw [List.mem_singleton.mp new]
      simp [OrderSubmission.create]
  · intro submission mem isOpen
    exact uploads
  · intro submission mem isClosed
    rcases List.mem_append.mp mem with old | new
    · exact rounds.filled submission old isClosed
    · rw [List.mem_singleton.mp new] at isClosed
      exact absurd rfl isClosed

theorem comment (rounds : tables.Rounds) (submissionId : Uuid) (comment : String) :
    ({ tables with
      submissions := OrderWorkflowService.commentSubmission submissionId comment
        tables.submissions } : OrderTables).Rounds := by
  have length : (OrderWorkflowService.commentSubmission submissionId comment
      tables.submissions).length = tables.submissions.length := by
    simp [OrderWorkflowService.commentSubmission, Rows.updateWhere]
  have source : ∀ submission ∈ OrderWorkflowService.commentSubmission submissionId comment
      tables.submissions, ∃ old ∈ tables.submissions, old.round = submission.round ∧
        old.submittedAt = submission.submittedAt := by
    intro submission mem
    rcases Rows.mem_updateWhere.mp mem with ⟨old, oldMem, rfl⟩
    refine ⟨old, oldMem, ?_⟩
    split <;> exact ⟨rfl, rfl⟩
  refine ⟨?_, ?_, ?_, ?_⟩
  · simp only [length]
    rw [← rounds.numbered]
    exact Rows.map_updateWhere fun _ => rfl
  · intro submission mem isOpen
    rcases source submission mem with ⟨old, oldMem, sameRound, sameClosing⟩
    simp only [length]
    rw [← sameRound]
    exact rounds.openLast old oldMem (sameClosing.trans isOpen)
  · intro submission mem isOpen
    rcases source submission mem with ⟨old, oldMem, _, sameClosing⟩
    exact rounds.openUploads old oldMem (sameClosing.trans isOpen)
  · intro submission mem isClosed
    rcases source submission mem with ⟨old, oldMem, sameRound, sameClosing⟩
    rw [← sameRound]
    exact rounds.filled old oldMem (sameClosing ▸ isClosed)

theorem close (rounds : tables.Rounds) (keyed : tables.WellKeyed) {submission : OrderSubmission}
    {now : Date}
    (found : OrderWorkflowService.findOpenSubmission tables.submissions = some submission)
    (filled : OrderWorkflowService.companyFiles submission.round tables.files ≠ 0)
    (submissions : next.submissions = OrderWorkflowService.closeSubmission now submission.id
      tables.submissions)
    (files : next.files = tables.files) : next.Rounds := by
  have mem := OrderWorkflowService.findOpenSubmission_mem found
  have isOpen := OrderWorkflowService.findOpenSubmission_isOpen found
  have closed : ∀ row ∈ next.submissions, row.submittedAt ≠ none := by
    intro row rowMem stillOpen
    rw [submissions] at rowMem
    rcases Rows.mem_updateWhere.mp rowMem with ⟨old, oldMem, rfl⟩
    split at stillOpen
    · cases stillOpen
    · rename_i notChosen
      exact notChosen (congrArg OrderSubmission.id
        (rounds.open_unique oldMem mem stillOpen isOpen))
  refine ⟨?_, ?_, ?_, ?_⟩
  · have length : next.submissions.length = tables.submissions.length := by
      simp [submissions, OrderWorkflowService.closeSubmission, Rows.updateWhere]
    rw [length, ← rounds.numbered, submissions]
    exact Rows.map_updateWhere fun _ => rfl
  · intro row rowMem stillOpen
    exact absurd stillOpen (closed row rowMem)
  · intro row rowMem stillOpen
    exact absurd stillOpen (closed row rowMem)
  · intro row rowMem _
    rw [submissions] at rowMem
    rw [files]
    rcases Rows.mem_updateWhere.mp rowMem with ⟨old, oldMem, rfl⟩
    split
    · rename_i chosen
      rw [Rows.eq_of_key keyed.submissionIds oldMem mem chosen]
      exact filled
    · rename_i notChosen
      apply rounds.filled old oldMem
      intro oldOpen
      exact notChosen (congrArg OrderSubmission.id
        (rounds.open_unique oldMem mem oldOpen isOpen))

/-- A transition other than the work handed in is only listed while the order takes no work. -/
theorem refuses_of_listed {event : OrderEventType} {status : OrderStatus}
    (notSubmitted : event ≠ .workSubmitted) (listed : event ∈ orderTransitions status) :
    canUploadWork status = false := by
  cases status <;> cases event <;> simp_all [orderTransitions, canUploadWork,
    workUploadOrderStatuses]

theorem refuses_of_accepts {status : OrderStatus} (accepts : acceptsOffers status = true) :
    canUploadWork status = false := by
  cases status <;> revert accepts <;> decide

theorem preserved {kind : RequestKind} (rounds : tables.Rounds) (keyed : tables.WellKeyed)
    (change : OrderChange tables kind next) : next.Rounds := by
  cases change with
  | offerCreated environment _ companyId dto accepts _ _ =>
      exact rounds.of_allClosed (rounds.allClosed (refuses_of_accepts accepts)) rfl rfl
  | offerEdited existing environment editedAt dto accepts _ _ _ =>
      exact rounds.of_allClosed (rounds.allClosed (refuses_of_accepts accepts)) rfl rfl
  | transition environment command offer allowed plain =>
      exact rounds.of_allClosed
        (rounds.allClosed (refuses_of_listed plain.2 allowed.listed)) (by simp) (by simp)
  | workSubmitted environment orderId offer submission allowed found filled =>
      exact rounds.close keyed found filled rfl rfl
  | submissionOpened environment comment uploads noneOpen _ =>
      exact rounds.open_next environment comment uploads noneOpen
  | submissionFilled submission comment rows _ _ _ _ =>
      exact (rounds.comment submission.id comment).of_moreFiles rows rfl rfl rfl
  | clientFilesAdded rows _ => exact rounds.of_moreFiles rows rfl rfl rfl
  | areaVerified _ _ _ =>
      exact ⟨rounds.numbered, rounds.openLast, rounds.openUploads, rounds.filled⟩
  | offersDropped demoIds =>
      exact ⟨rounds.numbered, rounds.openLast, rounds.openUploads, rounds.filled⟩

theorem blind (tables : OrderTables) (notifications : List Notification) :
    ({ tables with notifications } : OrderTables).Rounds ↔ tables.Rounds :=
  ⟨fun rounds => ⟨rounds.numbered, rounds.openLast, rounds.openUploads, rounds.filled⟩,
    fun rounds => ⟨rounds.numbered, rounds.openLast, rounds.openUploads, rounds.filled⟩⟩

theorem of_fresh (fresh : tables.Fresh) : tables.Rounds := by
  constructor <;> simp [fresh.noSubmissions]

end OrderTables.Rounds

namespace OrderTables.FilesOwned

variable {tables next : OrderTables}

theorem of_added (owned : tables.FilesOwned) {rows : List OrderFile}
    (rounds : tables.submissions.map OrderSubmission.round <+:
      next.submissions.map OrderSubmission.round)
    (files : next.files = tables.files ++ rows)
    (added : ∀ row ∈ rows, row.ownerType = .company →
      row.submissionRound ∈ tables.submissions.map OrderSubmission.round) : next.FilesOwned := by
  intro file mem company
  apply rounds.subset
  rw [files] at mem
  rcases List.mem_append.mp mem with old | new
  · exact owned file old company
  · exact added file new company

theorem preserved {kind : RequestKind} (change : OrderChange tables kind next)
    (owned : tables.FilesOwned) : next.FilesOwned := by
  have rounds : tables.submissions.map OrderSubmission.round <+:
      next.submissions.map OrderSubmission.round := by
    simpa [Function.comp_def] using change.submissions_prefix.map Prod.snd
  cases change with
  | submissionFilled submission comment rows _ mem _ fills =>
      apply owned.of_added rounds rfl
      intro row rowMem _
      rw [(fills row rowMem).2]
      exact List.mem_map_of_mem mem
  | clientFilesAdded rows fills =>
      apply owned.of_added rounds rfl
      intro row rowMem company
      rw [(fills row rowMem).1] at company
      cases company
  | transition _ _ _ _ _ =>
      exact @of_added _ _ owned [] rounds (by simp) (by simp)
  | _ => exact @of_added _ _ owned [] rounds (List.append_nil _).symm (by simp)

theorem of_fresh (fresh : tables.Fresh) : tables.FilesOwned := by
  simp [FilesOwned, fresh.noFiles]

end OrderTables.FilesOwned

namespace OrderTables.RoundsFrozen

variable {tables next : OrderTables}

theorem refl (tables : OrderTables) : tables.RoundsFrozen tables :=
  fun _ mem _ => ⟨mem, rfl⟩

theorem trans {first second third : OrderTables} (firstFrozen : first.RoundsFrozen second)
    (secondFrozen : second.RoundsFrozen third) : first.RoundsFrozen third := by
  intro submission mem closed
  rcases firstFrozen submission mem closed with ⟨memSecond, files⟩
  rcases secondFrozen submission memSecond closed with ⟨memThird, files'⟩
  exact ⟨memThird, files'.trans files⟩

theorem of_same (submissions : next.submissions = tables.submissions)
    (files : next.files = tables.files) : tables.RoundsFrozen next := by
  intro submission mem _
  rw [submissions, files]
  exact ⟨mem, rfl⟩

/-- Rows of other rounds are added, and rows of open rounds are written. -/
theorem of_added {rows : List OrderFile} {update : OrderSubmission → OrderSubmission}
    {written : OrderSubmission} (keyed : tables.WellKeyed) (mem : written ∈ tables.submissions)
    (isOpen : written.submittedAt = none)
    (elsewhere : ∀ submission ∈ tables.submissions, submission.submittedAt ≠ none →
      ∀ row ∈ rows, row.submissionRound ≠ submission.round)
    (submissions : next.submissions =
      Rows.updateWhere (·.id = written.id) update tables.submissions)
    (files : next.files = tables.files ++ rows) : tables.RoundsFrozen next := by
  intro submission submissionMem closed
  rw [submissions, files]
  constructor
  · refine Rows.mem_updateWhere.mpr ⟨submission, submissionMem, ?_⟩
    rw [if_neg]
    intro sameId
    rw [Rows.eq_of_key keyed.submissionIds submissionMem mem sameId] at closed
    exact closed isOpen
  · have none : roundFiles submission.round rows = [] := by
      simpa [roundFiles] using elsewhere submission submissionMem closed
    rw [roundFiles, List.filter_append]
    simpa [roundFiles] using none

theorem of_change {kind : RequestKind} (keyed : tables.WellKeyed)
    (change : OrderChange tables kind next) (rounds : tables.Rounds) :
    tables.RoundsFrozen next := by
  cases change with
  | offerCreated _ _ _ _ _ _ _ => exact of_same rfl rfl
  | offerEdited _ _ _ _ _ _ _ _ => exact of_same rfl rfl
  | transition environment command offer allowed plain => exact of_same (by simp) (by simp)
  | workSubmitted environment orderId offer submission allowed found filled =>
      refine of_added keyed (OrderWorkflowService.findOpenSubmission_mem found)
        (OrderWorkflowService.findOpenSubmission_isOpen found) ?_ rfl (List.append_nil _).symm
      simp
  | submissionOpened environment comment _ _ _ =>
      intro submission mem _
      exact ⟨List.mem_append_left _ mem, rfl⟩
  | submissionFilled submission comment rows _ mem isOpen owned =>
      refine of_added keyed mem isOpen ?_ rfl rfl
      intro other otherMem closed row rowMem sameRound
      have same := rounds.eq_of_round otherMem mem (sameRound ▸ (owned row rowMem).2)
      rw [same] at closed
      exact closed isOpen
  | clientFilesAdded rows owned =>
      intro submission mem _
      refine ⟨mem, ?_⟩
      have none : roundFiles submission.round rows = [] := by
        simp only [roundFiles, List.filter_eq_nil_iff, beq_iff_eq]
        intro row rowMem sameRound
        have positive := rounds.round_pos mem
        rw [← sameRound, (owned row rowMem).2] at positive
        omega
      rw [roundFiles, List.filter_append]
      simpa [roundFiles] using none
  | areaVerified _ _ _ => exact of_same rfl rfl
  | offersDropped demoIds => exact of_same rfl rfl

end OrderTables.RoundsFrozen

theorem closedRounds_eq (submissions : List OrderSubmission) :
    closedRounds submissions =
      ((submissions.map OrderSubmission.submittedAt).filter Option.isSome).length := by
  simp [closedRounds, List.filter_map, Function.comp_def]

/-- Only the work handed in closes a round. -/
theorem OrderChange.closedRounds {tables next : OrderTables} {kind : RequestKind}
    (change : OrderChange tables kind next) (notWork : kind ≠ .workSubmission) :
    closedRounds next.submissions = closedRounds tables.submissions := by
  cases change with
  | workSubmitted _ _ _ _ _ _ _ => exact absurd rfl notWork
  | transition _ _ _ _ _ => simp
  | submissionOpened _ _ _ _ _ =>
      simp [MyBuild.closedRounds, OrderSubmission.create]
  | submissionFilled submission comment _ _ _ _ _ =>
      have kept : (OrderWorkflowService.commentSubmission submission.id comment
          tables.submissions).map OrderSubmission.submittedAt =
            tables.submissions.map OrderSubmission.submittedAt :=
        Rows.map_updateWhere fun _ => rfl
      rw [closedRounds_eq, closedRounds_eq, kept]
  | _ => rfl

theorem closedRounds_closeSubmission {tables : OrderTables} (keyed : tables.WellKeyed)
    {submission : OrderSubmission} (mem : submission ∈ tables.submissions)
    (isOpen : submission.submittedAt = none) (now : Date) :
    closedRounds (OrderWorkflowService.closeSubmission now submission.id tables.submissions) =
      closedRounds tables.submissions + 1 := by
  rcases Rows.exists_split_updateWhere keyed.submissionIds mem
      (fun row => { row with submittedAt := some now }) with ⟨before, after, split, closed, _⟩
  rw [OrderWorkflowService.closeSubmission, closed, split]
  simp [closedRounds, isOpen]
  omega

namespace World

/-- The step commits a transition of the work handed in, which only `submitWork` carries out. -/
def handsIn (world : World) : Request → Bool
  | .submitWork environment orderId =>
      Transaction.succeeds (OrderWorkflowService.submitWork environment orderId) world.tables
  | _ => false

theorem handsIn_of_kind {world : World} {request : Request}
    (notWork : request.kind ≠ .workSubmission) : world.handsIn request = false := by
  cases request <;> first | rfl | exact absurd rfl notWork

/-- A step closes one round when it hands in the work, and none otherwise. -/
theorem closedRounds_step {world : World} (wellFormed : world.WellFormed) (request : Request) :
    closedRounds (world.step request).tables.submissions =
      closedRounds world.tables.submissions + if world.handsIn request then 1 else 0 := by
  by_cases isWork : request.kind = .workSubmission
  · cases request <;> cases isWork
    rename_i environment orderId
    cases outcome : (OrderWorkflowService.submitWork environment orderId).run world.tables with
    | error error =>
        have unchanged : (world.step (.submitWork environment orderId)).tables = world.tables :=
          Transaction.commit_of_error outcome
        simp [unchanged, handsIn, Transaction.succeeds, outcome]
    | ok result =>
        rcases result with ⟨applied, next⟩
        have committed : (world.step (.submitWork environment orderId)).tables = next :=
          Transaction.commit_of_ok outcome
        rcases OrderWorkflowService.submitWork_ok outcome with
          ⟨offer, submission, _, found, _, _, _, submissions, _⟩
        rw [committed, submissions, closedRounds_closeSubmission wellFormed.keyed
          (OrderWorkflowService.findOpenSubmission_mem found)
          (OrderWorkflowService.findOpenSubmission_isOpen found)]
        simp [handsIn, Transaction.succeeds, outcome]
  · rw [handsIn_of_kind isWork]
    rcases step_changes wellFormed request with same | ⟨middle, change, same⟩
    · rw [same.2.2.1]
      rfl
    · rw [same.2.2.1, change.closedRounds isWork]
      rfl

theorem closedRounds_run {world : World} (wellFormed : world.WellFormed)
    (requests : List Request) :
    closedRounds (Runs.run World.step world requests).tables.submissions =
      closedRounds world.tables.submissions +
        Runs.count World.step World.handsIn world requests :=
  @Runs.run_count World Request World.step World.WellFormed
    (fun world => closedRounds world.tables.submissions) World.handsIn
    (fun _ request wellFormed => wellFormed.step request)
    (fun _ request wellFormed => closedRounds_step wellFormed request) world wellFormed requests

end World

theorem reached_rounds (id : Uuid) (orderNumber : ℕ) (now : Date) (clientId : Uuid)
    (dto : CreateOrderDto) (requests : List Request) :
    (reached id orderNumber now clientId dto requests).tables.Rounds := by
  have fresh := OrdersService.createOrder_fresh id orderNumber now clientId dto
  exact (World.run_tables_invariant OrderTables.Rounds.blind
    (fun _ _ _ keyed change rounds => rounds.preserved keyed change)
    (World.wellFormed_ofTables fresh) (OrderTables.Rounds.of_fresh fresh) requests).2

theorem reached_filesOwned (id : Uuid) (orderNumber : ℕ) (now : Date) (clientId : Uuid)
    (dto : CreateOrderDto) (requests : List Request) :
    (reached id orderNumber now clientId dto requests).tables.FilesOwned := by
  have fresh := OrdersService.createOrder_fresh id orderNumber now clientId dto
  exact (World.run_tables_invariant (fun _ _ => Iff.rfl)
    (fun _ _ _ _ change owned => OrderTables.FilesOwned.preserved change owned)
    (World.wellFormed_ofTables fresh) (OrderTables.FilesOwned.of_fresh fresh) requests).2

/-- Whatever requests an order has been through: its rounds are numbered from 1 on, only the last
of them can be open and only while the order takes work, as many are closed as the work was
handed in, each of these has a file of the company, and none of these ever changes again. -/
theorem submission_rounds (id : Uuid) (orderNumber : ℕ) (now : Date) (clientId : Uuid)
    (dto : CreateOrderDto) (requests : List Request) :
    let start := World.ofTables (OrdersService.createOrder id orderNumber now clientId dto)
    let world := reached id orderNumber now clientId dto requests
    let tables := world.tables
    tables.submissions.map OrderSubmission.round =
        List.range' 1 tables.submissions.length ∧
      (tables.submissions.filter (·.submittedAt.isNone)).length ≤ 1 ∧
      (∀ submission ∈ tables.submissions, submission.submittedAt = none →
        submission.round = tables.submissions.length ∧
          (tables.order.status = .inProgress ∨ tables.order.status = .completionDisputed)) ∧
      closedRounds tables.submissions = Runs.count World.step World.handsIn start requests ∧
      (∀ submission ∈ tables.submissions, submission.submittedAt ≠ none →
        ∃ file ∈ tables.files, file.ownerType = .company ∧
          file.submissionRound = submission.round) ∧
      ∀ (later : List Request), ∀ submission ∈ tables.submissions,
        submission.submittedAt ≠ none →
          let final := (Runs.run World.step world later).tables
          submission ∈ final.submissions ∧
            roundFiles submission.round final.files =
              roundFiles submission.round tables.files := by
  intro start world tables
  have wellFormed := (reached_coupled id orderNumber now clientId dto requests).1
  have rounds : tables.Rounds := reached_rounds id orderNumber now clientId dto requests
  have fresh := OrdersService.createOrder_fresh id orderNumber now clientId dto
  refine ⟨rounds.numbered, ?_, ?_, ?_, ?_, ?_⟩
  · apply Rows.length_le_one (wellFormed.keyed.submissionIds.sublist (List.filter_sublist.map _))
    intro first firstMem second secondMem
    simp only [List.mem_filter, Option.isNone_iff_eq_none] at firstMem secondMem
    rw [rounds.open_unique firstMem.1 secondMem.1 firstMem.2 secondMem.2]
  · intro submission mem isOpen
    refine ⟨rounds.openLast submission mem isOpen, ?_⟩
    have uploads := rounds.openUploads submission mem isOpen
    cases status : tables.order.status <;> rw [status] at uploads <;>
      first | exact Or.inl rfl | exact Or.inr rfl | cases uploads
  · have counted := World.closedRounds_run (World.wellFormed_ofTables fresh) requests
    rw [show closedRounds start.tables.submissions = 0 from rfl, Nat.zero_add] at counted
    exact counted
  · intro submission mem closed
    have filled := List.length_pos_iff_exists_mem.mp
      (Nat.pos_of_ne_zero (rounds.filled submission mem closed))
    rcases filled with ⟨file, fileMem⟩
    rcases List.mem_filter.mp fileMem with ⟨mem, fits⟩
    simp only [Bool.and_eq_true, beq_iff_eq] at fits
    exact ⟨file, mem, fits.1, fits.2⟩
  · intro later submission mem closed
    have frozen := World.run_tables_relation OrderTables.Rounds.blind
      (fun _ _ _ keyed change rounds => rounds.preserved keyed change)
      OrderTables.RoundsFrozen.refl (fun _ _ _ => OrderTables.RoundsFrozen.trans)
      (fun _ _ _ => Iff.rfl) (fun _ _ _ keyed change rounds =>
        OrderTables.RoundsFrozen.of_change keyed change rounds) wellFormed rounds later
    exact frozen submission mem closed

end MyBuild
