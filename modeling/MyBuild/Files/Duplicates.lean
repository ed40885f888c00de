import MyBuild.Files.InFlight

/-!
# The same file in several calls

A call drops the files the submission already has before it uploads, and its insert skips
the rows that others have added since.  What the caller adds to the transaction goes by the
rows that were really created, so rows, results and additions agree however the calls
interleave.
-/

namespace MyBuild

/-- What the unique constraint of the table tells rows apart by. -/
abbrev FileContent := Uuid × ℕ × String

def OrderFile.content (row : OrderFile) : FileContent :=
  (row.orderId, row.submissionRound, row.fileHash)

namespace FilesService

variable {orderId : Uuid} {present rows : List OrderFile} {seen : List String}
  {submissionRound : ℕ} {files : List PreparedFile}

theorem any_isAt_iff (sameOrder : ∀ row ∈ present, row.orderId = orderId) {fileHash : String} :
    present.any (OrderFile.isAt submissionRound fileHash) = true ↔
      (orderId, submissionRound, fileHash) ∈ present.map OrderFile.content := by
  simp only [List.any_eq_true, OrderFile.isAt, Bool.and_eq_true, beq_iff_eq, List.mem_map,
    OrderFile.content, Prod.mk.injEq]
  constructor
  · rintro ⟨row, mem, round, hash⟩
    exact ⟨row, mem, sameOrder row mem, round, hash⟩
  · rintro ⟨row, mem, _, round, hash⟩
    exact ⟨row, mem, round, hash⟩

theorem sameOrder_append {row : OrderFile} (sameOrder : ∀ row ∈ present, row.orderId = orderId)
    (alsoSame : row.orderId = orderId) : ∀ other ∈ present ++ [row], other.orderId = orderId := by
  intro other mem
  rcases List.mem_append.mp mem with old | new
  · exact sameOrder other old
  · exact List.mem_singleton.mp new ▸ alsoSame

/-- The insert keeps the constraint, whatever it is given. -/
theorem nodup_skipDuplicates (sameOrder : ∀ row ∈ present, row.orderId = orderId)
    (alsoSame : ∀ row ∈ rows, row.orderId = orderId)
    (distinct : (present.map OrderFile.content).Nodup) :
    ((present ++ skipDuplicates present rows).map OrderFile.content).Nodup := by
  induction rows generalizing present with
  | nil => simpa [skipDuplicates] using distinct
  | cons row rows ih =>
      rw [List.forall_mem_cons] at alsoSame
      by_cases isPresent : present.any (OrderFile.isAt row.submissionRound row.fileHash) = true
      · simp only [skipDuplicates, if_pos isPresent]
        exact ih sameOrder alsoSame.2 distinct
      · simp only [skipDuplicates, if_neg isPresent]
        rw [any_isAt_iff sameOrder, ← alsoSame.1] at isPresent
        have grown : ((present ++ [row]).map OrderFile.content).Nodup := by
          rw [List.map_append, List.nodup_append]
          refine ⟨distinct, by simp, ?_⟩
          rintro content mem other isRow rfl
          rw [List.map_singleton, List.mem_singleton] at isRow
          rw [isRow] at mem
          exact isPresent mem
        simpa using ih (sameOrder_append sameOrder alsoSame.1) alsoSame.2 grown

/-- After the insert everything it was given is there. -/
theorem mem_skipDuplicates (sameOrder : ∀ row ∈ present, row.orderId = orderId)
    (alsoSame : ∀ row ∈ rows, row.orderId = orderId) {row : OrderFile} (mem : row ∈ rows) :
    row.content ∈ (present ++ skipDuplicates present rows).map OrderFile.content := by
  induction rows generalizing present with
  | nil => cases mem
  | cons first rows ih =>
      rw [List.forall_mem_cons] at alsoSame
      by_cases isPresent : present.any (OrderFile.isAt first.submissionRound first.fileHash) = true
      · simp only [skipDuplicates, if_pos isPresent]
        rcases List.mem_cons.mp mem with rfl | later
        · rw [any_isAt_iff sameOrder, ← alsoSame.1] at isPresent
          rw [List.map_append]
          exact List.mem_append_left _ isPresent
        · exact ih sameOrder alsoSame.2 later
      · simp only [skipDuplicates, if_neg isPresent]
        rcases List.mem_cons.mp mem with rfl | later
        · simp
        · simpa using ih (sameOrder_append sameOrder alsoSame.1) alsoSame.2 later

theorem uniqueInBatch_subset : uniqueInBatch seen files ⊆ files := by
  induction files generalizing seen with
  | nil => exact List.Subset.refl []
  | cons file files ih =>
      simp only [uniqueInBatch]
      split
      · exact List.subset_cons_of_subset file ih
      · exact List.cons_subset_cons file ih

theorem mem_uniqueInBatch {file : PreparedFile} (mem : file ∈ files) :
    file.fileHash ∈ seen ∨
      file.fileHash ∈ (uniqueInBatch seen files).map PreparedFile.fileHash := by
  induction files generalizing seen with
  | nil => cases mem
  | cons first files ih =>
      by_cases isSeen : first.fileHash ∈ seen
      · simp only [uniqueInBatch, if_pos isSeen]
        rcases List.mem_cons.mp mem with rfl | later
        · exact Or.inl isSeen
        · exact ih later
      · simp only [uniqueInBatch, if_neg isSeen, List.map_cons, List.mem_cons]
        rcases List.mem_cons.mp mem with rfl | later
        · exact Or.inr (Or.inl rfl)
        · rcases @ih (first.fileHash :: seen) later with earlier | fresh
          · rcases List.mem_cons.mp earlier with same | old
            · exact Or.inr (Or.inl same)
            · exact Or.inl old
          · exact Or.inr (Or.inr fresh)

theorem dropDuplicates_subset : dropDuplicates rows submissionRound files ⊆ files := by
  intro file mem
  exact uniqueInBatch_subset (List.mem_of_mem_filter mem)

/-- What is dropped is in the submission already, or once more in the batch. -/
theorem mem_dropDuplicates (sameOrder : ∀ row ∈ rows, row.orderId = orderId)
    {file : PreparedFile} (mem : file ∈ files) :
    file.fileHash ∈ (dropDuplicates rows submissionRound files).map PreparedFile.fileHash ∨
      (orderId, submissionRound, file.fileHash) ∈ rows.map OrderFile.content := by
  rcases @mem_uniqueInBatch [] files file mem with none | unique
  · cases none
  · rcases List.mem_map.mp unique with ⟨kept, keptMem, sameHash⟩
    by_cases isPresent : rows.any (OrderFile.isAt submissionRound file.fileHash) = true
    · exact Or.inr ((any_isAt_iff sameOrder).mp isPresent)
    · left
      rw [← sameHash] at isPresent ⊢
      apply List.mem_map_of_mem
      rw [dropDuplicates, List.mem_filter]
      exact ⟨keptMem, by simpa using isPresent⟩

end FilesService

/-- The caller's addition to a transaction that has committed: whose call, and the rows it was
told of. -/
structure Attached where
  call : ℕ
  created : List OrderFile
  deriving DecidableEq

/-- What the callers have added in one call. -/
def toldOf (attached : List Attached) (index : ℕ) : List (List OrderFile) :=
  (attached.filter (·.call == index)).map Attached.created

section

variable {attached new : List Attached} {index other : ℕ} {created : List OrderFile}

theorem toldOf_append :
    toldOf (attached ++ new) index = toldOf attached index ++ toldOf new index := by
  simp [toldOf]

theorem toldOf_addition_self :
    toldOf (if created.length > 0 then [{ call := index, created }] else []) index =
      if created = [] then [] else [created] := by
  cases created <;> simp [toldOf]

theorem toldOf_addition_other (differs : other ≠ index) :
    toldOf (if created.length > 0 then [{ call := index, created }] else []) other = [] := by
  split <;> simp [toldOf, differs.symm]

theorem flatMap_addition :
    (if created.length > 0 then [({ call := index, created } : Attached)] else []).flatMap
      Attached.created = created := by
  cases created <;> simp

theorem mem_addition {entry : Attached}
    (mem : entry ∈ if created.length > 0 then [({ call := index, created } : Attached)] else []) :
    entry.created ≠ [] ∧ entry = { call := index, created } := by
  cases created with
  | nil => simp at mem
  | cons row rows =>
      simp only [List.length_cons, Nat.zero_lt_succ, if_true, gt_iff_lt, List.mem_singleton] at mem
      simp [mem]

end

/-- What a call returns or is going to return, once its transaction is over. -/
def AttachPhase.result : AttachPhase → Option (List OrderFile)
  | .settled created | .orphaned created | .removing _ created | .releasing created
  | .finished created => created
  | _ => none

def AttachCall.contentsOf (call : AttachCall) (files : List PreparedFile) : List FileContent :=
  files.map fun file => (call.orderId, call.submissionRound, file.fileHash)

/-- What the files of a call have to do with the rows, and with what its caller was told. -/
structure AttachCall.Agrees (call : AttachCall) (rows : List OrderFile)
    (told : List (List OrderFile)) : Prop where
  fresh : call.fresh ⊆ call.prepared
  pending : call.phase.mayCommit = true → call.phase ≠ .deduplicating →
    ∀ content ∈ call.contentsOf call.prepared,
      content ∈ call.contentsOf call.fresh ∨ content ∈ rows.map OrderFile.content
  stored : call.phase.result.isSome = true ∨ call.committedAt.isSome = true →
    ∀ content ∈ call.contentsOf call.prepared, content ∈ rows.map OrderFile.content
  before : call.phase.mayCommit = true → told = []
  after : ∀ created, call.phase.result = some created →
    told = if created = [] then [] else [created]
  once : told.length ≤ 1

namespace AttachCall.Agrees

variable {call : AttachCall} {rows : List OrderFile} {told : List (List OrderFile)}

theorem grown (agrees : call.Agrees rows told) (created : List OrderFile) :
    call.Agrees (rows ++ created) told := by
  refine ⟨agrees.fresh, ?_, ?_, agrees.before, agrees.after, agrees.once⟩
  · intro runs started content mem
    rw [List.map_append, List.mem_append]
    exact (agrees.pending runs started content mem).imp_right Or.inl
  · intro isStored content mem
    rw [List.map_append]
    exact List.mem_append_left _ (agrees.stored isStored content mem)

/-- A call that goes on, or throws, or keeps what it is going to return. -/
theorem moved (agrees : call.Agrees rows told) {phase : AttachPhase}
    (runs : phase.mayCommit = true → call.phase.mayCommit = true ∧ call.phase ≠ .deduplicating)
    (returns : phase.result = none ∨ phase.result = call.phase.result) :
    ({ call with phase } : AttachCall).Agrees rows told := by
  refine ⟨agrees.fresh, ?_, ?_, ?_, ?_, agrees.once⟩
  · intro mayCommit _
    exact agrees.pending (runs mayCommit).1 (runs mayCommit).2
  · intro isStored
    apply agrees.stored
    rcases returns with none | same
    · exact isStored.imp_left (by simp [none])
    · exact isStored.imp_left (by simp [same])
  · intro mayCommit
    exact agrees.before (runs mayCommit).1
  · intro created isResult
    rcases returns with none | same
    · simp [none] at isResult
    · exact agrees.after created (same ▸ isResult)

end AttachCall.Agrees

namespace AttachState

/-- The call whose transaction the step commits, and the rows it creates. -/
def committing (state : AttachState) : AttachLabel → Option (ℕ × List OrderFile)
  | .advance index (.insert environment) =>
      match state.calls[index]? with
      | some call =>
          match call.phase with
          | .checking readings =>
              match usageOf readings with
              | some usage =>
                  match checkStorageQuota usage (sumSizes call.fresh) call.ownerType with
                  | some _ => none
                  | none => some (index, state.created call environment)
              | none => none
          | _ => none
      | none => none
  | _ => none

/-- The caller's addition runs in the transaction, and only if it has created rows. -/
def onAttached (state : AttachState) (label : AttachLabel) : List Attached :=
  match state.committing label with
  | some (call, created) => if created.length > 0 then [{ call, created }] else []
  | none => []

section

variable {clients : Uuid → Option Uuid} {state : AttachState} {index : ℕ} {call : AttachCall}
  {environment : Environment}

/-- A call that has yet to drop its duplicates does that next, or throws. -/
theorem advance_deduplicating (phase : call.phase = .deduplicating) (action : AttachAction) :
    state.advance clients index call action = state ∨
      state.advance clients index call action = state.dropDuplicates index call ∨
      state.advance clients index call action =
        state.put index { call with phase := .finished none } := by
  cases action with
  | dropDuplicates => exact Or.inr (Or.inl rfl)
  | fail => exact Or.inr (Or.inr (by simp only [advance, fail, phase]))
  | read => exact Or.inl (by simp only [advance, read, phase])
  | reserve => exact Or.inl (by simp only [advance, reserve, phase])
  | upload => exact Or.inl (by simp only [advance, upload, phase])
  | acquire => exact Or.inl (by simp only [advance, acquire, phase])
  | timeOut => exact Or.inl (by simp only [advance, timeOut, phase])
  | guard => exact Or.inl (by simp only [advance, guard, phase])
  | insert environment => exact Or.inl (by simp only [advance, insert, phase])
  | leave => exact Or.inl (by simp only [advance, leave, phase])
  | findOrphans => exact Or.inl (by simp only [advance, findOrphans, phase])
  | remove => exact Or.inl (by simp only [advance, remove, phase])
  | release => exact Or.inl (by simp only [advance, release, phase])

theorem onAttached_eq_nil {action : AttachAction}
    (noInsert : ∀ environment, action ≠ .insert environment) :
    state.onAttached (.advance index action) = [] := by
  have none : state.committing (.advance index action) = none := by
    cases action with
    | insert environment => exact absurd rfl (noInsert environment)
    | _ => rfl
  simp only [onAttached, none]

/-- An insert that is refused adds nothing; one that goes through adds its rows and tells of
them. -/
theorem insert_cases (found : state.calls[index]? = some call) :
    state.onAttached (.advance index (.insert environment)) = [] ∧
        (state.insert index call environment = state ∨
          state.insert index call environment =
            state.put index { call with phase := .settled none }) ∨
      ∃ readings, call.phase = .checking readings ∧
        (let created := state.created call environment
        state.onAttached (.advance index (.insert environment)) =
            (if created.length > 0 then [{ call := index, created }] else []) ∧
          state.insert index call environment =
            { state.put index
                { call with
                  phase := .settled (some created)
                  committedAt := some state.clock
                  inserted := !created.isEmpty } with
              rows := state.rows ++ created }) := by
  simp only [onAttached, committing, insert, found]
  cases phase : call.phase with
  | checking readings =>
      cases read : usageOf readings with
      | none => simp [read]
      | some usage =>
          cases quota : checkStorageQuota usage (sumSizes call.fresh) call.ownerType with
          | some exceeded => simp [read, quota]
          | none => simp [read, quota]
  | _ => exact Or.inl ⟨rfl, Or.inl rfl⟩

theorem content_toRow :
    (call.fresh.mapIdx (FilesService.toRow environment call.orderId call.ownerType
      call.submissionRound)).map OrderFile.content = call.contentsOf call.fresh := by
  apply List.ext_getElem
  · simp [AttachCall.contentsOf]
  · intro index first second
    simp [AttachCall.contentsOf, FilesService.toRow, OrderFile.content]

theorem orderId_of_mem_orderRows {orderId : Uuid} :
    ∀ row ∈ state.orderRows orderId, row.orderId = orderId := by
  intro row mem
  simpa using (List.mem_filter.mp mem).2

theorem orderId_of_mem_toRow :
    ∀ row ∈ call.fresh.mapIdx (FilesService.toRow environment call.orderId call.ownerType
      call.submissionRound), row.orderId = call.orderId := by
  intro row mem
  rcases List.mem_mapIdx.mp mem with ⟨position, bound, rfl⟩
  rfl

theorem content_of_mem_created {row : OrderFile} (mem : row ∈ state.created call environment) :
    row.content ∈ call.contentsOf call.fresh := by
  rw [← @content_toRow call environment]
  exact List.mem_map_of_mem ((FilesService.skipDuplicates_sublist _ _).mem mem)

theorem mem_content_after_insert :
    ∀ content ∈ call.contentsOf call.fresh,
      content ∈ (state.rows ++ state.created call environment).map OrderFile.content := by
  intro content mem
  rw [← @content_toRow call environment] at mem
  rcases List.mem_map.mp mem with ⟨row, rowMem, rfl⟩
  have present := FilesService.mem_skipDuplicates
    (@orderId_of_mem_orderRows state call.orderId) orderId_of_mem_toRow rowMem
  rw [List.map_append, List.mem_append] at present ⊢
  apply present.imp_left
  exact fun old => List.map_subset _ (List.filter_subset_self _) old

theorem nodup_after_insert (distinct : (state.rows.map OrderFile.content).Nodup) :
    ((state.rows ++ state.created call environment).map OrderFile.content).Nodup := by
  have ofOrder := FilesService.nodup_skipDuplicates
    (@orderId_of_mem_orderRows state call.orderId) (@orderId_of_mem_toRow call environment)
    (distinct.sublist (List.filter_sublist.map _))
  rw [List.map_append, List.nodup_append] at ofOrder ⊢
  refine ⟨distinct, ofOrder.2.1, ?_⟩
  intro content oldMem other newMem
  rcases List.mem_map.mp oldMem with ⟨row, rowMem, rfl⟩
  by_cases sameOrder : row.orderId = call.orderId
  · apply ofOrder.2.2 _ (List.mem_map_of_mem _) other newMem
    simp [orderRows, rowMem, sameOrder]
  · rcases List.mem_map.mp newMem with ⟨created, createdMem, rfl⟩
    intro same
    exact sameOrder ((congrArg Prod.fst same).trans (mem_created createdMem).1)

end

/-- Rows, calls and additions agree with one another and with the rows at the start. -/
structure Agrees (state : AttachState) (initialRows : List OrderFile) (attached : List Attached) :
    Prop where
  rows : state.rows = initialRows ++ attached.flatMap Attached.created
  distinct : (state.rows.map OrderFile.content).Nodup
  calls : ∀ (index : ℕ) (call : AttachCall), state.calls[index]? = some call →
    call.Agrees state.rows (toldOf attached index)
  origin : ∀ entry ∈ attached, entry.created ≠ [] ∧
    ∃ call, state.calls[entry.call]? = some call ∧ call.committedAt.isSome = true ∧
      ∀ row ∈ entry.created, row.content ∈ call.contentsOf call.prepared

namespace Agrees

variable {clients : Uuid → Option Uuid} {state next : AttachState} {initialRows : List OrderFile}
  {attached : List Attached} {index : ℕ} {call after : AttachCall}

theorem moved (agrees : state.Agrees initialRows attached)
    (found : state.calls[index]? = some call) (rows : next.rows = state.rows)
    (calls : next.calls = state.calls.set index after)
    (contents : after.contentsOf after.prepared = call.contentsOf call.prepared)
    (committed : after.committedAt = call.committedAt)
    (afterAgrees : after.Agrees state.rows (toldOf attached index)) :
    next.Agrees initialRows attached := by
  constructor
  · rw [rows]
    exact agrees.rows
  · rw [rows]
    exact agrees.distinct
  · intro other otherCall otherFound
    rw [calls] at otherFound
    rw [rows]
    rcases Rows.getElem?_set_cases otherFound with ⟨rfl, rfl⟩ | ⟨_, old⟩
    · exact afterAgrees
    · exact agrees.calls other otherCall old
  · intro entry mem
    rcases agrees.origin entry mem with ⟨some, origin, originFound, originCommitted, created⟩
    refine ⟨some, ?_⟩
    rw [calls]
    by_cases same : entry.call = index
    · rw [same, found] at originFound
      cases originFound
      refine ⟨after, ?_, committed ▸ originCommitted, contents ▸ created⟩
      have bound := (List.getElem?_eq_some_iff.mp found).1
      simp [same, bound]
    · refine ⟨origin, ?_, originCommitted, created⟩
      rw [List.getElem?_set_ne (Ne.symm same)]
      exact originFound

/-- A call that goes on, or throws, or keeps what it is going to return. -/
theorem phase (agrees : state.Agrees initialRows attached)
    (found : state.calls[index]? = some call) {phase : AttachPhase}
    (rows : next.rows = state.rows)
    (calls : next.calls = state.calls.set index { call with phase })
    (runs : phase.mayCommit = true → call.phase.mayCommit = true ∧ call.phase ≠ .deduplicating)
    (returns : phase.result = none ∨ phase.result = call.phase.result) :
    next.Agrees initialRows attached :=
  agrees.moved found rows calls rfl rfl ((agrees.calls index call found).moved runs returns)

/-- A call that cannot commit any more. -/
theorem pastCommit (agrees : state.Agrees initialRows attached)
    (found : state.calls[index]? = some call) {phase : AttachPhase}
    (rows : next.rows = state.rows)
    (calls : next.calls = state.calls.set index { call with phase })
    (past : phase.mayCommit = false)
    (returns : phase.result = none ∨ phase.result = call.phase.result) :
    next.Agrees initialRows attached :=
  agrees.phase found rows calls (by simp [past]) returns

theorem started (agrees : state.Agrees initialRows attached) (fresh : AttachCall)
    (phase : fresh.phase = .deduplicating) (noFresh : fresh.fresh = [])
    (uncommitted : fresh.committedAt = none) :
    ({ state with calls := state.calls ++ [fresh] } : AttachState).Agrees initialRows
      attached := by
  have bounded : ∀ entry ∈ attached, entry.call < state.calls.length := by
    intro entry mem
    rcases (agrees.origin entry mem).2 with ⟨origin, originFound, _⟩
    exact (List.getElem?_eq_some_iff.mp originFound).1
  refine ⟨agrees.rows, agrees.distinct, ?_, ?_⟩
  · intro index call found
    by_cases old : index < state.calls.length
    · rw [List.getElem?_append_left old] at found
      exact agrees.calls index call found
    · rcases getElem?_append_singleton found with present | rfl
      · exact absurd (List.getElem?_eq_some_iff.mp present).1 old
      · have untold : toldOf attached index = [] := by
          rw [toldOf, List.map_eq_nil_iff, List.filter_eq_nil_iff]
          intro entry mem same
          rw [beq_iff_eq] at same
          exact old (same ▸ bounded entry mem)
        rw [untold]
        refine ⟨by simp [noFresh], ?_, ?_, fun _ => rfl, ?_, by simp⟩
        · intro _ isStarted
          exact absurd phase isStarted
        · intro isStored
          simp [phase, AttachPhase.result, uncommitted] at isStored
        · intro created isResult
          simp [phase, AttachPhase.result] at isResult
  · intro entry mem
    rcases agrees.origin entry mem with ⟨some, origin, originFound, committed, created⟩
    refine ⟨some, origin, ?_, committed, created⟩
    rw [List.getElem?_append_left (bounded entry mem)]
    exact originFound

theorem inserted (agrees : state.Agrees initialRows attached)
    (found : state.calls[index]? = some call) {readings : List Reading}
    (phase : call.phase = .checking readings) (environment : Environment) :
    let created := state.created call environment
    ({ state.put index
        { call with
          phase := .settled (some created)
          committedAt := some state.clock
          inserted := !created.isEmpty } with
      rows := state.rows ++ created } : AttachState).Agrees initialRows
        (attached ++ if created.length > 0 then [{ call := index, created }] else []) := by
  intro created
  have callAgrees := agrees.calls index call found
  have untold : toldOf attached index = [] :=
    callAgrees.before (by simp [phase, AttachPhase.mayCommit, AttachPhase.inFlight])
  have all : ∀ content ∈ call.contentsOf call.prepared,
      content ∈ (state.rows ++ created).map OrderFile.content := by
    intro content mem
    rcases callAgrees.pending (by simp [phase, AttachPhase.mayCommit, AttachPhase.inFlight])
      (by simp [phase]) content mem with isFresh | isPresent
    · exact mem_content_after_insert content isFresh
    · rw [List.map_append]
      exact List.mem_append_left _ isPresent
  constructor
  · simp only
    rw [agrees.rows, List.flatMap_append, List.append_assoc, flatMap_addition]
  · exact nodup_after_insert agrees.distinct
  · intro other otherCall otherFound
    rcases Rows.getElem?_set_cases otherFound with ⟨rfl, rfl⟩ | ⟨differs, old⟩
    · rw [toldOf_append, untold, List.nil_append, toldOf_addition_self]
      refine ⟨callAgrees.fresh, ?_, fun _ => all, ?_, ?_, ?_⟩
      · simp [AttachPhase.mayCommit, AttachPhase.inFlight]
      · simp [AttachPhase.mayCommit, AttachPhase.inFlight]
      · rintro _ ⟨⟩
        rfl
      · split <;> simp
    · rw [toldOf_append, toldOf_addition_other differs, List.append_nil]
      exact (agrees.calls other otherCall old).grown created
  · intro entry mem
    rcases List.mem_append.mp mem with old | new
    · rcases agrees.origin entry old with ⟨some, origin, originFound, committed, contents⟩
      refine ⟨some, ?_⟩
      by_cases same : entry.call = index
      · rw [same, found] at originFound
        cases originFound
        rw [same]
        exact ⟨_, put_getElem?_self found, rfl, contents⟩
      · refine ⟨origin, ?_, committed, contents⟩
        rw [← originFound]
        exact put_getElem?_other (Ne.symm same)
    · rcases mem_addition new with ⟨some, rfl⟩
      refine ⟨some, _, put_getElem?_self found, rfl, ?_⟩
      intro row rowMem
      rcases List.mem_map.mp (content_of_mem_created rowMem) with ⟨file, fileMem, isContent⟩
      rw [← isContent]
      exact List.mem_map_of_mem (callAgrees.fresh fileMem)

theorem deduplicated (agrees : state.Agrees initialRows attached)
    (found : state.calls[index]? = some call) (phase : call.phase = .deduplicating) :
    (state.dropDuplicates index call).Agrees initialRows attached := by
  have callAgrees := agrees.calls index call found
  have untold := callAgrees.before (by simp [phase, AttachPhase.mayCommit])
  have kept : ∀ content ∈ call.contentsOf call.prepared,
      content ∈ call.contentsOf (FilesService.dropDuplicates (state.orderRows call.orderId)
        call.submissionRound call.prepared) ∨ content ∈ state.rows.map OrderFile.content := by
    intro content mem
    rcases List.mem_map.mp mem with ⟨file, fileMem, rfl⟩
    apply (FilesService.mem_dropDuplicates
      (@orderId_of_mem_orderRows state call.orderId) fileMem).imp
    · intro isFresh
      rcases List.mem_map.mp isFresh with ⟨fresh, freshMem, sameHash⟩
      exact List.mem_map.mpr ⟨fresh, freshMem, by rw [sameHash]⟩
    · exact fun old => List.map_subset _ (List.filter_subset_self _) old
  simp only [dropDuplicates, phase]
  refine agrees.moved found rfl rfl rfl rfl ⟨FilesService.dropDuplicates_subset, ?_, ?_, ?_, ?_, ?_⟩
  · exact fun _ _ => kept
  · intro isStored content mem
    rcases isStored with returns | committed
    · by_cases none : FilesService.dropDuplicates (state.orderRows call.orderId)
          call.submissionRound call.prepared = []
      · simpa [none, AttachCall.contentsOf] using kept content mem
      · simp [none, AttachPhase.result] at returns
    · exact callAgrees.stored (Or.inr committed) content mem
  · exact fun _ => untold
  · intro created isResult
    split at isResult
    · cases isResult
      exact untold
    · cases isResult
  · exact callAgrees.once

theorem left (agrees : state.Agrees initialRows attached) (turns : state.TakesTurns)
    (found : state.calls[index]? = some call) {created : Option (List OrderFile)}
    (phase : call.phase = .settled created) :
    (state.leave index call).Agrees initialRows attached := by
  refine @TakesTurns.leave_rule state turns index call found created phase
    (fun reached => reached.Agrees initialRows attached) ?_ ?_ ?_
  · rintro next (rfl | rfl)
    · exact agrees.pastCommit found rfl rfl rfl (Or.inr (by rw [phase]; rfl))
    · exact agrees.pastCommit found rfl rfl rfl (Or.inr (by rw [phase]; rfl))
  · intro reached ticket waiter waiterFound waits agrees
    refine agrees.phase waiterFound rfl rfl ?_ (Or.inl rfl)
    simp [waits, AttachPhase.mayCommit, AttachPhase.inFlight]
  · intro reached queue agrees
    exact ⟨agrees.rows, agrees.distinct, agrees.calls, agrees.origin⟩

/-- The steps of a call that has dropped its duplicates, the insert apart. -/
theorem changed (agrees : state.Agrees initialRows attached) (turns : state.TakesTurns)
    (started : ∀ call, state.calls[index]? = some call → call.phase ≠ .deduplicating)
    {action : AttachAction} (noInsert : ∀ environment, action ≠ .insert environment)
    (change : AttachStep clients state (.advance index action) next) :
    next.Agrees initialRows attached := by
  cases change with
  | quiet index action call after found move =>
      cases move with
      | deduplicated fresh phase => exact absurd phase (started call found)
      | nothingFresh phase => exact absurd phase (started call found)
      | guarded phase =>
          refine agrees.phase found rfl rfl ?_ (Or.inl rfl)
          simp [phase, AttachPhase.mayCommit, AttachPhase.inFlight]
      | refused phase
      | uploadFailed uploaded phase
      | rolledBack phase
      | cleanupFailed created phase => exact agrees.pastCommit found rfl rfl rfl (Or.inl rfl)
  | inserted index call environment => exact absurd rfl (noInsert environment)
  | left index call created found phase => exact agrees.left turns found phase
  | readBefore index call clientId readings scope found phase
  | readInside index call clientId readings scope found phase
  | reserved index call clientId readings usage found phase
  | uploaded index call uploaded key found phase
  | acquired index call queue found phase
  | queued index call queue found phase =>
      refine agrees.phase found rfl rfl ?_ (Or.inl rfl)
      simp [phase, AttachPhase.mayCommit, AttachPhase.inFlight]
  | timedOut index call found phase => exact agrees.pastCommit found rfl rfl rfl (Or.inl rfl)
  | foundOrphans index call created found phase
  | removed index call orphans created found phase
  | released index call clientId created found phase =>
      exact agrees.pastCommit found rfl rfl rfl (Or.inr (by rw [phase]; rfl))

theorem advanced (agrees : state.Agrees initialRows attached) (turns : state.TakesTurns)
    (found : state.calls[index]? = some call) (action : AttachAction) :
    (state.advance clients index call action).Agrees initialRows
      (attached ++ state.onAttached (.advance index action)) := by
  by_cases isInsert : ∃ environment, action = .insert environment
  · rcases isInsert with ⟨environment, rfl⟩
    simp only [advance]
    rcases @insert_cases state index call environment found with
      ⟨untold, same | refused⟩ | ⟨readings, phase, told, inserted⟩
    · rw [untold, List.append_nil, same]
      exact agrees
    · rw [untold, List.append_nil, refused]
      exact agrees.pastCommit found rfl rfl rfl (Or.inl rfl)
    · rw [told, inserted]
      exact agrees.inserted found phase environment
  · have noInsert := not_exists.mp isInsert
    rw [onAttached_eq_nil noInsert, List.append_nil]
    by_cases phase : call.phase = .deduplicating
    · rcases @advance_deduplicating clients state index call phase action with
        same | deduplicated | failed
      · rw [same]
        exact agrees
      · rw [deduplicated]
        exact agrees.deduplicated found phase
      · rw [failed]
        exact agrees.pastCommit found rfl rfl rfl (Or.inl rfl)
    · rcases @advance_cases clients state index call found action with same | change
      · rw [same]
        exact agrees
      · refine agrees.changed turns ?_ noInsert change
        intro other otherFound
        rw [found] at otherFound
        cases otherFound
        exact phase

theorem act (agrees : state.Agrees initialRows attached) (turns : state.TakesTurns)
    (label : AttachLabel) :
    (state.act clients label).Agrees initialRows (attached ++ state.onAttached label) := by
  cases label with
  | start orderId ownerType submissionRound prepared =>
      have untold : state.onAttached (.start orderId ownerType submissionRound prepared) = [] := rfl
      rw [untold, List.append_nil]
      simp only [AttachState.act, start]
      split
      · exact agrees
      · exact agrees.started _ rfl rfl rfl
  | advance index action =>
      simp only [AttachState.act]
      cases found : state.calls[index]? with
      | none =>
          have untold : state.onAttached (.advance index action) = [] := by
            cases action <;> simp [onAttached, committing, found]
          rw [untold, List.append_nil]
          exact agrees
      | some call => exact agrees.advanced turns found action

theorem initial (rows : List OrderFile) (bucket : List String)
    (distinct : (rows.map OrderFile.content).Nodup) :
    (AttachState.initial rows bucket).Agrees rows [] := by
  refine ⟨by simp [AttachState.initial], distinct, ?_, ?_⟩
  · intro index call found
    simp [AttachState.initial] at found
  · intro entry mem
    cases mem

end Agrees

end AttachState

/-- The calls with what their callers have added. -/
structure AttachRun where
  state : AttachState
  attached : List Attached

namespace AttachRun

def initial (rows : List OrderFile) (bucket : List String) : AttachRun :=
  { state := .initial rows bucket, attached := [] }

def step (clients : Uuid → Option Uuid) (run : AttachRun) (label : AttachLabel) : AttachRun :=
  { state := run.state.step clients label
    attached := run.attached ++ run.state.onAttached label }

variable {clients : Uuid → Option Uuid} {run : AttachRun} {initialRows : List OrderFile}

theorem step_agrees (turns : run.state.TakesTurns)
    (agrees : run.state.Agrees initialRows run.attached) (label : AttachLabel) :
    (run.step clients label).state.Agrees initialRows (run.step clients label).attached := by
  have acted :=
    @AttachState.Agrees.act clients run.state initialRows run.attached agrees turns label
  exact ⟨acted.rows, acted.distinct, acted.calls, acted.origin⟩

theorem run_agrees (rows : List OrderFile) (bucket : List String)
    (distinct : (rows.map OrderFile.content).Nodup) (labels : List AttachLabel) :
    let reached := Runs.run (step clients) (initial rows bucket) labels
    reached.state.Agrees rows reached.attached := by
  have preserved : ∀ run label, run.state.TakesTurns ∧ run.state.Agrees rows run.attached →
      (step clients run label).state.TakesTurns ∧
        (step clients run label).state.Agrees rows (step clients run label).attached := by
    rintro run label ⟨turns, agrees⟩
    exact ⟨turns.step label, step_agrees turns agrees label⟩
  have start : (initial rows bucket).state.TakesTurns ∧
      (initial rows bucket).state.Agrees rows (initial rows bucket).attached :=
    ⟨⟨_, AttachState.InTurn.initial rows bucket⟩,
      AttachState.Agrees.initial rows bucket distinct⟩
  exact (Runs.run_invariant preserved start labels).2

/-- The additions of a step are of the call whose insert it commits. -/
theorem onAttached_cases (state : AttachState) (label : AttachLabel) :
    state.onAttached label = [] ∨ ∃ index environment created,
      label = .advance index (.insert environment) ∧ created ≠ [] ∧
        state.onAttached label = [{ call := index, created }] := by
  cases label with
  | start => exact Or.inl rfl
  | advance index action =>
      by_cases isInsert : ∃ environment, action = .insert environment
      · rcases isInsert with ⟨environment, rfl⟩
        cases found : state.calls[index]? with
        | none => exact Or.inl (by simp [AttachState.onAttached, AttachState.committing, found])
        | some call =>
            rcases @AttachState.insert_cases state index call environment found with
              ⟨untold, _⟩ | ⟨_, _, told, _⟩
            · exact Or.inl untold
            · by_cases none : state.created call environment = []
              · exact Or.inl (by simp [told, none])
              · refine Or.inr ⟨index, environment, _, rfl, none, ?_⟩
                rw [told, if_pos (List.length_pos_of_ne_nil none)]
      · exact Or.inl (AttachState.onAttached_eq_nil (not_exists.mp isInsert))

/-- A content is there once, from the start or with a call that has stored it; and the caller of
exactly the calls that create rows is told of these rows, as they are created. -/
structure DuplicateFree (clients : Uuid → Option Uuid) (initialRows : List OrderFile)
    (run : AttachRun) : Prop where
  unique : (run.state.rows.map OrderFile.content).Nodup
  contents : (∀ call ∈ run.state.calls, call.phase.isFinished = true) → ∀ content,
    content ∈ run.state.rows.map OrderFile.content ↔
      content ∈ initialRows.map OrderFile.content ∨ ∃ call ∈ run.state.calls,
        (call.phase.result.isSome = true ∨ call.committedAt.isSome = true) ∧
          content ∈ call.contentsOf call.prepared
  told : ∀ label, ∃ created,
    (run.step clients label).state.rows = run.state.rows ++ created ∧
      (created = [] ∧ (run.step clients label).attached = run.attached ∨
        created ≠ [] ∧ ∃ index environment, label = .advance index (.insert environment) ∧
          (run.step clients label).attached = run.attached ++ [{ call := index, created }])
  once : ∀ index, (toldOf run.attached index).length ≤ 1
  returned : ∀ (index : ℕ) (call : AttachCall) (created : List OrderFile),
    run.state.calls[index]? = some call → call.phase = .finished (some created) →
      toldOf run.attached index = if created = [] then [] else [created]

theorem contents_iff (agrees : run.state.Agrees initialRows run.attached)
    (content : FileContent) :
    content ∈ run.state.rows.map OrderFile.content ↔
      content ∈ initialRows.map OrderFile.content ∨ ∃ call ∈ run.state.calls,
        (call.phase.result.isSome = true ∨ call.committedAt.isSome = true) ∧
          content ∈ call.contentsOf call.prepared := by
  constructor
  · rw [agrees.rows, List.map_append, List.mem_append]
    rintro (initial | added)
    · exact Or.inl initial
    · rcases List.mem_map.mp added with ⟨row, rowMem, rfl⟩
      rcases List.mem_flatMap.mp rowMem with ⟨entry, entryMem, rowCreated⟩
      rcases agrees.origin entry entryMem with ⟨_, call, found, committed, contents⟩
      exact Or.inr ⟨call, List.mem_of_getElem? found, Or.inr committed, contents row rowCreated⟩
  · rintro (initial | ⟨call, mem, isStored, carried⟩)
    · rw [agrees.rows, List.map_append]
      exact List.mem_append_left _ initial
    · rcases List.getElem?_of_mem mem with ⟨index, found⟩
      exact (agrees.calls index call found).stored isStored content carried

theorem told_length_le (agrees : run.state.Agrees initialRows run.attached) (index : ℕ) :
    (toldOf run.attached index).length ≤ 1 := by
  cases found : run.state.calls[index]? with
  | some call => exact (agrees.calls index call found).once
  | none =>
      have untold : toldOf run.attached index = [] := by
        rw [toldOf, List.map_eq_nil_iff, List.filter_eq_nil_iff]
        intro entry mem same
        rw [beq_iff_eq] at same
        rcases agrees.origin entry mem with ⟨_, call, callFound, _⟩
        rw [same, found] at callFound
        cases callFound
      simp [untold]

/-- Whatever order the calls take their steps in and whichever of them fail. -/
theorem duplicates_dropped (clients : Uuid → Option Uuid) (rows : List OrderFile)
    (bucket : List String) (distinct : (rows.map OrderFile.content).Nodup)
    (labels : List AttachLabel) :
    (Runs.run (step clients) (initial rows bucket) labels).DuplicateFree clients rows := by
  have agrees := @run_agrees clients rows bucket distinct labels
  refine ⟨agrees.distinct, fun _ => contents_iff agrees, ?_, told_length_le agrees, ?_⟩
  · intro label
    have next := @run_agrees clients rows bucket distinct (labels ++ [label])
    rw [Runs.run_append] at next
    have grown := next.rows
    simp only [Runs.run_cons, Runs.run_nil, step] at grown ⊢
    rw [List.flatMap_append, ← List.append_assoc, ← agrees.rows] at grown
    refine ⟨_, grown, ?_⟩
    rcases onAttached_cases (Runs.run (step clients) (initial rows bucket) labels).state label with
      untold | ⟨index, environment, created, isInsert, some, told⟩
    · rw [untold]
      exact Or.inl ⟨rfl, List.append_nil _⟩
    · right
      rw [told]
      exact ⟨by simpa using some, index, environment, isInsert, by simp⟩
  · intro index call created found finished
    exact (agrees.calls index call found).after created (by rw [finished]; rfl)

/-- Two calls with one plan, the first with one more file.  The second commits before the first,
which then skips the plan, and fails when it looks for the object it has uploaded in vain. -/
def failedCleanup : List AttachLabel :=
  let plan := exampleFile "plan.pdf"
    "5e884898da28047151d0e56f8dc6292773603d0d6aabbdd62a11ef721d1542d8" 2
  let roof := exampleFile "roof.pdf"
    "6b86b273ff34fce19d6b804eff5a3f5747ada4eaa22f1d49c01e52ddb7875b4b" 2
  [.start ⟨1⟩ .company 1 [plan, roof], .start ⟨1⟩ .company 1 [plan]] ++
    AttachLabel.each 0 [.dropDuplicates, .read, .read, .read, .reserve, .upload, .upload] ++
    AttachLabel.each 1 (AttachAction.uploads 1 ++ AttachAction.transaction ++ [.release]) ++
    AttachLabel.each 0 ([.acquire] ++ AttachAction.transaction ++ [.fail, .release])

theorem duplicates_dropped_failedCleanup :
    (Runs.run (step fun _ => some ⟨2⟩) (initial [] []) failedCleanup).DuplicateFree
      (fun _ => some ⟨2⟩) [] :=
  duplicates_dropped _ [] [] (by decide) failedCleanup

/-- The first call throws, and its file stays. -/
theorem failedCleanup_keeps_row :
    let reached := Runs.run (step fun _ => some ⟨2⟩) (initial [] []) failedCleanup
    let roof : FileContent :=
      (⟨1⟩, 1, "6b86b273ff34fce19d6b804eff5a3f5747ada4eaa22f1d49c01e52ddb7875b4b")
    (∀ call ∈ reached.state.calls, call.phase.isFinished = true) ∧
      roof ∈ reached.state.rows.map OrderFile.content ∧
      ∀ call ∈ reached.state.calls, call.phase.result.isSome = true →
        roof ∉ call.contentsOf call.prepared := by
  decide +kernel

end AttachRun

end MyBuild
