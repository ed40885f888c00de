import MyBuild.Files.Turns
import MyBuild.Library.Runs

/-!
# Rows and the bucket

A call that fails looks for the objects no row names, and removes them later.  A call with
the same file writes the same object, so its row may come between the look and the removal,
or its removed object may get a row after it.  Then the row names an object that is gone.

Where no removal meets an object that another call counts on, every row keeps its object.
-/

namespace MyBuild

/-- The objects that the call has uploaded and may still insert rows for. -/
def AttachCall.uploadedKeys (call : AttachCall) : List String :=
  match call.phase with
  | .uploading uploaded => call.keys.take uploaded
  | .waiting | .guarding | .checking _ => call.keys
  | _ => []

/-- The objects that the call is about to remove. -/
def AttachCall.condemnedKeys (call : AttachCall) : List String :=
  match call.phase with
  | .removing orphans _ => orphans
  | _ => []

@[simp]
theorem AttachCall.keys_moved (call : AttachCall) (phase : AttachPhase) :
    ({ call with phase } : AttachCall).keys = call.keys := rfl

theorem AttachCall.keys_take (call : AttachCall) :
    call.keys.take call.fresh.length = call.keys := by
  apply List.take_of_length_le
  simp [keys]

def AttachCall.Spares (remover inserter : AttachCall) : Prop :=
  ∀ key ∈ inserter.uploadedKeys, key ∉ remover.condemnedKeys

instance (remover inserter : AttachCall) : Decidable (remover.Spares inserter) :=
  inferInstanceAs (Decidable (∀ key ∈ inserter.uploadedKeys, key ∉ remover.condemnedKeys))

namespace AttachState

def SeesNamed (state : AttachState) (call : AttachCall) : Prop :=
  ∀ row ∈ state.rows, row.storageKey ∈ call.keys → ∃ seen ∈ state.rows,
    seen.storageKey = row.storageKey ∧ seen.orderId = call.orderId ∧
    seen.submissionRound = call.submissionRound ∧
    seen.fileHash ∈ call.fresh.map PreparedFile.fileHash

instance (state : AttachState) (call : AttachCall) : Decidable (state.SeesNamed call) :=
  inferInstanceAs (Decidable (∀ row ∈ state.rows, row.storageKey ∈ call.keys →
    ∃ seen ∈ state.rows, seen.storageKey = row.storageKey ∧ seen.orderId = call.orderId ∧
      seen.submissionRound = call.submissionRound ∧
      seen.fileHash ∈ call.fresh.map PreparedFile.fileHash))

/-- A look for orphans sees what rows name, a removal spares the calls that may still insert,
and no row is inserted for an object that a call is about to remove. -/
def RemovalSpares (state : AttachState) : AttachLabel → Prop
  | .advance index .findOrphans => ∀ call ∈ state.calls[index]?, state.SeesNamed call
  | .advance index .remove => ∀ remover ∈ state.calls[index]?, ∀ call ∈ state.calls,
      remover.Spares call
  | .advance index (.insert environment) => ∀ inserter ∈ state.calls[index]?,
      ∀ row ∈ state.created inserter environment, ∀ call ∈ state.calls,
        row.storageKey ∉ call.condemnedKeys
  | _ => True

instance (state : AttachState) : DecidablePred state.RemovalSpares := fun label =>
  match label with
  | .advance index .findOrphans =>
      inferInstanceAs (Decidable (∀ call ∈ state.calls[index]?, state.SeesNamed call))
  | .advance index .remove =>
      inferInstanceAs (Decidable (∀ remover ∈ state.calls[index]?, ∀ call ∈ state.calls,
        remover.Spares call))
  | .advance index (.insert environment) =>
      inferInstanceAs (Decidable (∀ inserter ∈ state.calls[index]?,
        ∀ row ∈ state.created inserter environment, ∀ call ∈ state.calls,
          row.storageKey ∉ call.condemnedKeys))
  | .start .. => .isTrue trivial
  | .advance _ .dropDuplicates | .advance _ .read | .advance _ .reserve | .advance _ .upload
  | .advance _ .acquire | .advance _ .timeOut | .advance _ .guard | .advance _ .leave
  | .advance _ .release | .advance _ .fail => .isTrue trivial

def RowsStored (state : AttachState) : Prop :=
  ∀ row ∈ state.rows, row.storageKey ∈ state.bucket

instance (state : AttachState) : Decidable state.RowsStored :=
  inferInstanceAs (Decidable (∀ row ∈ state.rows, row.storageKey ∈ state.bucket))

/-- Rows name objects that exist, and calls that may still insert have theirs; what is about to
be removed no row names. -/
structure Stored (state : AttachState) : Prop where
  rows : state.RowsStored
  uploads : ∀ call ∈ state.calls, ∀ key ∈ call.uploadedKeys, key ∈ state.bucket
  condemned : ∀ call ∈ state.calls, ∀ row ∈ state.rows, row.storageKey ∉ call.condemnedKeys

variable {clients : Uuid → Option Uuid} {state next : AttachState} {index : ℕ}
  {call after : AttachCall}

namespace Stored

theorem moved (stored : state.Stored) (found : state.calls[index]? = some call)
    (rows : next.rows = state.rows) (bucket : next.bucket = state.bucket)
    (calls : next.calls = state.calls.set index after)
    (uploads : after.uploadedKeys ⊆ call.uploadedKeys)
    (condemned : after.condemnedKeys ⊆ call.condemnedKeys) : next.Stored := by
  have mem := List.mem_of_getElem? found
  constructor
  · simp only [RowsStored]
    rw [rows, bucket]
    exact stored.rows
  · rw [calls, bucket]
    intro other otherMem key uploaded
    rcases List.mem_or_eq_of_mem_set otherMem with old | rfl
    · exact stored.uploads other old key uploaded
    · exact stored.uploads call mem key (uploads uploaded)
  · rw [calls, rows]
    intro other otherMem row rowMem isCondemned
    rcases List.mem_or_eq_of_mem_set otherMem with old | rfl
    · exact stored.condemned other old row rowMem isCondemned
    · exact stored.condemned call mem row rowMem (condemned isCondemned)

theorem quiet (stored : state.Stored) (found : state.calls[index]? = some call)
    (move : QuietMove call after) : (state.put index after).Stored := by
  refine stored.moved found rfl rfl rfl ?_ ?_
  · cases move with
    | guarded phase => simp [AttachCall.uploadedKeys, phase]
    | _ => simp [AttachCall.uploadedKeys]
  · cases move <;> simp [AttachCall.condemnedKeys]

theorem uploaded (stored : state.Stored) (found : state.calls[index]? = some call) {uploaded : ℕ}
    {key : String} (phase : call.phase = .uploading uploaded)
    (isKey : call.keys[uploaded]? = some key) :
    ({ state.put index { call with phase := .uploading (uploaded + 1) } with
      bucket := state.bucket.insert key } : AttachState).Stored := by
  have mem := List.mem_of_getElem? found
  constructor
  · intro row rowMem
    exact List.mem_insert_of_mem (stored.rows row rowMem)
  · intro other otherMem name isUploaded
    rcases List.mem_or_eq_of_mem_set otherMem with old | rfl
    · exact List.mem_insert_of_mem (stored.uploads other old name isUploaded)
    · have split : name ∈ call.keys.take uploaded ∨ name = key := by
        have taken : name ∈ call.keys.take (uploaded + 1) := isUploaded
        rw [List.take_add_one, isKey] at taken
        simpa using taken
      rcases split with earlier | rfl
      · have known : name ∈ call.uploadedKeys := by
          rw [AttachCall.uploadedKeys, phase]
          exact earlier
        exact List.mem_insert_of_mem (stored.uploads call mem name known)
      · exact List.mem_insert_self
  · intro other otherMem row rowMem isCondemned
    rcases List.mem_or_eq_of_mem_set otherMem with old | rfl
    · exact stored.condemned other old row rowMem isCondemned
    · cases isCondemned

/-- The insert step: the new rows name objects of the call, and none of those is condemned. -/
theorem inserted (stored : state.Stored) (found : state.calls[index]? = some call)
    {readings : List Reading} (phase : call.phase = .checking readings)
    (environment : Environment)
    (spares : state.RemovalSpares (.advance index (.insert environment))) :
    ({ state.put index
        { call with
          phase := .settled (some (state.created call environment))
          committedAt := some state.clock
          inserted := !(state.created call environment).isEmpty } with
      rows := state.rows ++ state.created call environment } : AttachState).Stored := by
  have mem := List.mem_of_getElem? found
  have isUploaded : ∀ row ∈ state.created call environment,
      row.storageKey ∈ call.uploadedKeys := by
    intro row rowMem
    rw [AttachCall.uploadedKeys, phase]
    exact (mem_created rowMem).2
  constructor
  · intro row rowMem
    rcases List.mem_append.mp rowMem with old | new
    · exact stored.rows row old
    · exact stored.uploads call mem row.storageKey (isUploaded row new)
  · intro other otherMem key uploaded
    rcases List.mem_or_eq_of_mem_set otherMem with old | rfl
    · exact stored.uploads other old key uploaded
    · cases uploaded
  · intro other otherMem row rowMem isCondemned
    rcases List.mem_or_eq_of_mem_set otherMem with old | rfl
    · rcases List.mem_append.mp rowMem with oldRow | new
      · exact stored.condemned other old row oldRow isCondemned
      · exact spares call found row new other old isCondemned
    · cases isCondemned

theorem foundOrphans (stored : state.Stored) (found : state.calls[index]? = some call)
    (created : Option (List OrderFile))
    (spares : state.RemovalSpares (.advance index .findOrphans)) :
    (state.put index { call with phase := .removing (state.orphans call) created }).Stored := by
  constructor
  · exact stored.rows
  · intro other otherMem key uploaded
    rcases List.mem_or_eq_of_mem_set otherMem with old | rfl
    · exact stored.uploads other old key uploaded
    · cases uploaded
  · intro other otherMem row rowMem isCondemned
    rcases List.mem_or_eq_of_mem_set otherMem with old | rfl
    · exact stored.condemned other old row rowMem isCondemned
    · rcases mem_orphans_iff.mp isCondemned with ⟨isKey, unseen⟩
      rcases spares call found row rowMem isKey with
        ⟨seen, seenMem, sameKey, order, submission, content⟩
      exact unseen seen seenMem order submission content sameKey

theorem removed (stored : state.Stored) (found : state.calls[index]? = some call)
    {orphans : List String} {created : Option (List OrderFile)}
    (phase : call.phase = .removing orphans created)
    (spares : state.RemovalSpares (.advance index .remove)) :
    ({ state.put index { call with phase := .releasing created } with
      bucket := state.bucket.filter fun key => !orphans.contains key } : AttachState).Stored := by
  have mem := List.mem_of_getElem? found
  have isCondemned : call.condemnedKeys = orphans := by rw [AttachCall.condemnedKeys, phase]
  constructor
  · intro row rowMem
    have spared := stored.condemned call mem row rowMem
    rw [isCondemned] at spared
    simpa [spared] using stored.rows row rowMem
  · intro other otherMem key uploaded
    rcases List.mem_or_eq_of_mem_set otherMem with old | rfl
    · have spared := spares call found other old key uploaded
      rw [isCondemned] at spared
      simpa [spared] using stored.uploads other old key uploaded
    · cases uploaded
  · intro other otherMem row rowMem isCondemned
    rcases List.mem_or_eq_of_mem_set otherMem with old | rfl
    · exact stored.condemned other old row rowMem isCondemned
    · cases isCondemned

theorem left (stored : state.Stored) (turns : state.TakesTurns)
    (found : state.calls[index]? = some call) {created : Option (List OrderFile)}
    (phase : call.phase = .settled created) : (state.leave index call).Stored := by
  apply turns.leave_rule found phase
  · rintro next (rfl | rfl) <;>
      exact stored.moved found rfl rfl rfl (by simp [AttachCall.uploadedKeys])
        (by simp [AttachCall.condemnedKeys])
  · intro reached ticket waiter waiterFound waits stored
    refine stored.moved waiterFound rfl rfl rfl ?_ ?_
    · simp [AttachCall.uploadedKeys, waits]
    · simp [AttachCall.condemnedKeys]
  · intro reached queue stored
    exact ⟨stored.rows, stored.uploads, stored.condemned⟩

theorem changed (stored : state.Stored) (turns : state.TakesTurns) {label : AttachLabel}
    (spares : state.RemovalSpares label) (change : AttachStep clients state label next) :
    next.Stored := by
  cases change with
  | started =>
      refine ⟨stored.rows, ?_, ?_⟩
      · intro call mem key uploaded
        rcases List.mem_append.mp mem with old | new
        · exact stored.uploads call old key uploaded
        · rw [List.mem_singleton.mp new] at uploaded
          cases uploaded
      · intro call mem row rowMem isCondemned
        rcases List.mem_append.mp mem with old | new
        · exact stored.condemned call old row rowMem isCondemned
        · rw [List.mem_singleton.mp new] at isCondemned
          cases isCondemned
  | quiet index action call after found move => exact stored.quiet found move
  | uploaded index call uploaded key found phase isKey =>
      exact stored.uploaded found phase isKey
  | inserted index call environment readings usage found phase =>
      exact stored.inserted found phase environment spares
  | left index call created found phase => exact stored.left turns found phase
  | foundOrphans index call created found => exact stored.foundOrphans found created spares
  | removed index call orphans created found phase => exact stored.removed found phase spares
  | acquired index call queue found phase | queued index call queue found phase =>
      exact stored.moved found rfl rfl rfl
        (by simp [AttachCall.uploadedKeys, AttachCall.keys_take, phase])
        (by simp [AttachCall.condemnedKeys])
  | readInside index call clientId readings scope found phase =>
      exact stored.moved found rfl rfl rfl
        (by simp [AttachCall.uploadedKeys, phase])
        (by simp [AttachCall.condemnedKeys])
  | readBefore index call clientId readings scope found phase
  | reserved index call clientId readings usage found phase
  | timedOut index call found phase
  | released index call clientId created found phase =>
      exact stored.moved found rfl rfl rfl (by simp [AttachCall.uploadedKeys])
        (by simp [AttachCall.condemnedKeys])

theorem step (stored : state.Stored) (turns : state.TakesTurns) {label : AttachLabel}
    (spares : state.RemovalSpares label) : (state.step clients label).Stored := by
  apply step_rule stored
  · intro next change
    exact stored.changed turns spares change
  · intro reached stored
    exact ⟨stored.rows, stored.uploads, stored.condemned⟩

end Stored

/-- In a run whose removals spare the objects of other calls every row names an object that
exists. -/
theorem rows_stored (clients : Uuid → Option Uuid) (rows : List OrderFile)
    (bucket : List String) (stored : (initial rows bucket).RowsStored)
    (labels : List AttachLabel)
    (spares : Runs.Along (step clients) RemovalSpares (initial rows bucket) labels) :
    (Runs.run (step clients) (initial rows bucket) labels).RowsStored := by
  have preserved : ∀ state label, RemovalSpares state label →
      state.TakesTurns ∧ state.Stored →
      (step clients state label).TakesTurns ∧ (step clients state label).Stored := by
    rintro state label spares ⟨turns, stored⟩
    exact ⟨turns.step label, stored.step turns spares⟩
  have start : (initial rows bucket).TakesTurns ∧ (initial rows bucket).Stored := by
    refine ⟨⟨_, InTurn.initial rows bucket⟩, stored, ?_, ?_⟩
    · intro call mem
      cases mem
    · intro call mem
      cases mem
  exact (Runs.Along.invariant preserved spares start).2.rows

/-- Two calls with one file.  The first commits its row, the second skips it and finds nothing to
remove. -/
def sharedFile : List AttachLabel :=
  let file := exampleFile "plan.pdf"
    "5e884898da28047151d0e56f8dc6292773603d0d6aabbdd62a11ef721d1542d8" 2
  [.start ⟨1⟩ .company 1 [file], .start ⟨1⟩ .company 1 [file]] ++
    AttachLabel.each 0 (AttachAction.uploads 1) ++ AttachLabel.each 1 (AttachAction.uploads 1) ++
    AttachLabel.each 0 AttachAction.transaction ++
    AttachLabel.each 1 (AttachAction.transaction ++ [.findOrphans, .remove, .release]) ++
    AttachLabel.each 0 [.release]

theorem rows_stored_sharedFile :
    (Runs.run (step fun _ => some ⟨2⟩) (initial [] []) sharedFile).RowsStored :=
  rows_stored _ [] [] (by decide) sharedFile (by decide +kernel)

/-- Two calls with one file.  The first fails and looks for orphans, the second commits its row,
and then the first removes what it has found. -/
def cleanupRace : List AttachLabel :=
  let file := exampleFile "plan.pdf"
    "5e884898da28047151d0e56f8dc6292773603d0d6aabbdd62a11ef721d1542d8" 2
  [.start ⟨1⟩ .company 1 [file], .start ⟨1⟩ .company 1 [file]] ++
    AttachLabel.each 0 (AttachAction.uploads 1 ++ [.fail, .leave, .findOrphans]) ++
    AttachLabel.each 1 (AttachAction.uploads 1 ++ AttachAction.transaction ++ [.release]) ++
    AttachLabel.each 0 [.remove, .release]

theorem cleanupRace_loses_object :
    (∀ call ∈ (Runs.run (step fun _ => some ⟨2⟩) (initial [] []) cleanupRace).calls,
      call.phase.isFinished = true) ∧ (initial [] []).RowsStored ∧
    ¬(Runs.run (step fun _ => some ⟨2⟩) (initial [] []) cleanupRace).RowsStored := by
  decide +kernel

end AttachState

end MyBuild
