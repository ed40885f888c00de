import MyBuild.Files.Turns
import MyBuild.Library.Runs

/-!
# Room for the calls on their way

Room is promised to a call before it uploads, so that the files that have rows and the files
on their way fit the bounds together.  The promise is made against two figures: the sums of
rows, read one after another, and the promises that other calls hold when the sums are
there.  A call that inserts rows after a sum is read and gives its promise back before the check
is in neither figure, and then the bounds may be exceeded.

Where no call does that, they never are.
-/

namespace MyBuild

/-- Admitted, and neither committed nor failed. -/
def AttachPhase.inFlight : AttachPhase → Bool
  | .uploading _ | .waiting | .guarding | .checking _ => true
  | _ => false

def AttachPhase.holdsRoom : AttachPhase → Bool
  | .deduplicating | .reading _ | .finished _ => false
  | _ => true

def AttachPhase.mayCommit : AttachPhase → Bool
  | .deduplicating | .reading _ => true
  | phase => phase.inFlight

def AttachPhase.readings : AttachPhase → List Reading
  | .reading readings => readings
  | _ => []

theorem AttachPhase.mayCommit_of_inFlight {phase : AttachPhase} (inFlight : phase.inFlight = true) :
    phase.mayCommit = true := by
  cases phase <;> trivial

theorem AttachPhase.holdsRoom_of_inFlight {phase : AttachPhase} (inFlight : phase.inFlight = true) :
    phase.holdsRoom = true := by
  cases phase <;> trivial

namespace AttachCall

def inFlight (call : AttachCall) : Bool := call.phase.inFlight

def holdsRoom (call : AttachCall) : Bool := call.phase.holdsRoom

def insertedSince (time : ℕ) (call : AttachCall) : Bool :=
  call.inserted && call.committedAt.any (time ≤ ·)

variable (clients : Uuid → Option Uuid) (chosen : AttachCall → Bool) (scope : StorageScope)

def room (call : AttachCall) : ℕ :=
  if chosen call && scope.covers clients call.orderId then sumSizes call.fresh else 0

end AttachCall

namespace AttachState

variable (clients : Uuid → Option Uuid)

def roomOf (chosen : AttachCall → Bool) (scope : StorageScope) (state : AttachState) : ℕ :=
  (state.calls.map (AttachCall.room clients chosen scope)).sum

/-- When a call is admitted, the calls that have inserted rows since it read a sum they count in
still hold their promises. -/
def ReadingsCount (state : AttachState) : AttachLabel → Prop
  | .advance index .reserve => ∀ call ∈ state.calls[index]?, ∀ clientId ∈ clients call.orderId,
      ∀ pair ∈ (call.scopes clientId).zip call.phase.readings, ∀ other ∈ state.calls,
        pair.1.covers clients other.orderId = true →
        other.insertedSince pair.2.readAt = true → other.holdsRoom = true
  | _ => True

instance (state : AttachState) : DecidablePred (state.ReadingsCount clients) := fun label =>
  match label with
  | .advance index .reserve =>
      inferInstanceAs (Decidable (∀ call ∈ state.calls[index]?,
        ∀ clientId ∈ clients call.orderId,
        ∀ pair ∈ (call.scopes clientId).zip call.phase.readings, ∀ other ∈ state.calls,
          pair.1.covers clients other.orderId = true →
          other.insertedSince pair.2.readAt = true → other.holdsRoom = true))
  | .start .. => .isTrue trivial
  | .advance _ .dropDuplicates | .advance _ .read | .advance _ .upload | .advance _ .acquire
  | .advance _ .timeOut | .advance _ .guard | .advance _ (.insert _) | .advance _ .leave
  | .advance _ .findOrphans | .advance _ .remove | .advance _ .release
  | .advance _ .fail => .isTrue trivial

/-- What is promised is held by calls, a call that may still commit has not, and a sum that was
read falls short of the rows by no more than the files of the calls that inserted rows since. -/
structure Accounted (state : AttachState) : Prop where
  promised : ∀ scope : StorageScope, scope.pending state.reservations =
    state.roomOf clients AttachCall.holdsRoom scope
  uncommitted : ∀ call ∈ state.calls, call.phase.mayCommit = true → call.committedAt = none
  reads : ∀ call ∈ state.calls, ∀ clientId, clients call.orderId = some clientId →
    ∀ pair ∈ (call.scopes clientId).zip call.phase.readings, pair.2.readAt ≤ state.clock ∧
      pair.1.storedBytes clients state.rows ≤
        pair.2.bytes + state.roomOf clients (AttachCall.insertedSince pair.2.readAt) pair.1

variable {clients} {state next : AttachState} {index : ℕ} {call after : AttachCall}

theorem roomOf_set (chosen : AttachCall → Bool) (scope : StorageScope)
    (found : state.calls[index]? = some call)
    (calls : next.calls = state.calls.set index after) :
    next.roomOf clients chosen scope + call.room clients chosen scope =
      state.roomOf clients chosen scope + after.room clients chosen scope := by
  simp only [roomOf]
  rw [calls]
  exact Rows.sum_map_set after found

theorem room_le_roomOf (chosen : AttachCall → Bool) (scope : StorageScope)
    (found : state.calls[index]? = some call) :
    call.room clients chosen scope ≤ state.roomOf clients chosen scope :=
  List.single_le_sum (by simp) _ (List.mem_map_of_mem (List.mem_of_getElem? found))

namespace Accounted

/-- One call moves: what is promised changes by its room, and what its rows add to the sums its
commit adds to the room of the calls that have inserted rows. -/
theorem moved (accounted : state.Accounted clients) (found : state.calls[index]? = some call)
    (calls : next.calls = state.calls.set index after) (clock : next.clock = state.clock)
    (promised : ∀ scope : StorageScope,
      scope.pending next.reservations + call.room clients AttachCall.holdsRoom scope =
        scope.pending state.reservations + after.room clients AttachCall.holdsRoom scope)
    (uncommitted : after.phase.mayCommit = true → after.committedAt = none)
    (grown : ∀ (scope : StorageScope) (time : ℕ), time ≤ state.clock →
      scope.storedBytes clients next.rows +
          call.room clients (AttachCall.insertedSince time) scope ≤
        scope.storedBytes clients state.rows +
          after.room clients (AttachCall.insertedSince time) scope)
    (reads : ∀ clientId, clients after.orderId = some clientId →
      ∀ pair ∈ (after.scopes clientId).zip after.phase.readings, pair.2.readAt ≤ state.clock ∧
        pair.1.storedBytes clients state.rows ≤
          pair.2.bytes + state.roomOf clients (AttachCall.insertedSince pair.2.readAt) pair.1) :
    next.Accounted clients := by
  constructor
  · intro scope
    have held := @roomOf_set clients state next index call after AttachCall.holdsRoom scope found
      calls
    have before := accounted.promised scope
    have change := promised scope
    omega
  · rw [calls]
    intro other mem mayCommit
    rcases List.mem_or_eq_of_mem_set mem with old | rfl
    · exact accounted.uncommitted other old mayCommit
    · exact uncommitted mayCommit
  · rw [calls, clock]
    intro other mem clientId owner pair pairMem
    have before : pair.2.readAt ≤ state.clock ∧
        pair.1.storedBytes clients state.rows ≤ pair.2.bytes +
          state.roomOf clients (AttachCall.insertedSince pair.2.readAt) pair.1 := by
      rcases List.mem_or_eq_of_mem_set mem with old | rfl
      · exact accounted.reads other old clientId owner pair pairMem
      · exact reads clientId owner pair pairMem
    rcases before with ⟨past, enough⟩
    have committed := @roomOf_set clients state next index call after
      (AttachCall.insertedSince pair.2.readAt) pair.1 found calls
    have growth := grown pair.1 pair.2.readAt past
    exact ⟨past, by omega⟩

theorem phase (accounted : state.Accounted clients) (found : state.calls[index]? = some call)
    {phase : AttachPhase} (calls : next.calls = state.calls.set index { call with phase })
    (rows : next.rows = state.rows) (reservations : next.reservations = state.reservations)
    (clock : next.clock = state.clock) (room : phase.holdsRoom = call.phase.holdsRoom)
    (mayCommit : phase.mayCommit = true → call.phase.mayCommit = true)
    (readings : phase.readings = []) : next.Accounted clients := by
  have mem := List.mem_of_getElem? found
  apply accounted.moved found calls clock
  · intro scope
    simp [reservations, AttachCall.room, AttachCall.holdsRoom, room]
  · intro may
    exact accounted.uncommitted call mem (mayCommit may)
  · intro scope time past
    rw [rows]
    exact Nat.le_refl _
  · intro clientId owner pair pairMem
    simp [readings] at pairMem

theorem fresh (accounted : state.Accounted clients) (found : state.calls[index]? = some call)
    (deduplicating : call.phase = .deduplicating) {fresh : List PreparedFile}
    {phase : AttachPhase}
    (calls : next.calls = state.calls.set index { call with fresh, phase })
    (rows : next.rows = state.rows) (reservations : next.reservations = state.reservations)
    (clock : next.clock = state.clock) (room : phase.holdsRoom = false)
    (readings : phase.readings = []) : next.Accounted clients := by
  have mem := List.mem_of_getElem? found
  have uncommitted : call.committedAt = none :=
    accounted.uncommitted call mem (by simp [deduplicating, AttachPhase.mayCommit])
  have holds : call.phase.holdsRoom = false := by simp [deduplicating, AttachPhase.holdsRoom]
  apply accounted.moved found calls clock
  · intro scope
    simp [reservations, AttachCall.room, AttachCall.holdsRoom, room, holds]
  · intro _
    exact uncommitted
  · intro scope time past
    simp [rows, AttachCall.room, AttachCall.insertedSince, uncommitted]
  · intro clientId owner pair pairMem
    simp [readings] at pairMem

theorem quiet (accounted : state.Accounted clients) (found : state.calls[index]? = some call)
    (move : QuietMove call after) : (state.put index after).Accounted clients := by
  cases move with
  | deduplicated fresh phase => exact accounted.fresh found phase rfl rfl rfl rfl rfl rfl
  | nothingFresh phase => exact accounted.fresh found phase rfl rfl rfl rfl rfl rfl
  | refused phase =>
      refine accounted.phase found rfl rfl rfl rfl ?_ ?_ rfl
      · rcases phase with phase | ⟨readings, phase⟩ <;> simp [phase, AttachPhase.holdsRoom]
      · rcases phase with phase | ⟨readings, phase⟩ <;> simp [phase, AttachPhase.mayCommit]
  | uploadFailed uploaded phase =>
      refine accounted.phase found rfl rfl rfl rfl ?_ ?_ rfl
      · simp [phase, AttachPhase.holdsRoom]
      · simp [AttachPhase.mayCommit, AttachPhase.inFlight]
  | guarded phase =>
      refine accounted.phase found rfl rfl rfl rfl ?_ ?_ rfl
      · simp [phase, AttachPhase.holdsRoom]
      · simp [phase, AttachPhase.mayCommit, AttachPhase.inFlight]
  | rolledBack phase =>
      refine accounted.phase found rfl rfl rfl rfl ?_ ?_ rfl
      · rcases phase with phase | ⟨readings, phase⟩ <;> simp [phase, AttachPhase.holdsRoom]
      · simp [AttachPhase.mayCommit, AttachPhase.inFlight]
  | cleanupFailed created phase =>
      refine accounted.phase found rfl rfl rfl rfl ?_ ?_ rfl
      · simp [phase, AttachPhase.holdsRoom]
      · simp [AttachPhase.mayCommit, AttachPhase.inFlight]

theorem started (accounted : state.Accounted clients) (fresh : AttachCall)
    (phase : fresh.phase = .deduplicating) (committedAt : fresh.committedAt = none) :
    ({ state with calls := state.calls ++ [fresh] } : AttachState).Accounted clients := by
  have holds : fresh.holdsRoom = false := by
    simp [AttachCall.holdsRoom, phase, AttachPhase.holdsRoom]
  have same : ∀ chosen scope, chosen fresh = false →
      ({ state with calls := state.calls ++ [fresh] } : AttachState).roomOf clients chosen scope =
        state.roomOf clients chosen scope := by
    intro chosen scope notChosen
    simp [roomOf, AttachCall.room, notChosen]
  constructor
  · intro scope
    rw [same _ scope holds]
    exact accounted.promised scope
  · intro call mem mayCommit
    rcases List.mem_append.mp mem with old | new
    · exact accounted.uncommitted call old mayCommit
    · rw [List.mem_singleton.mp new]
      exact committedAt
  · intro call mem clientId owner pair pairMem
    rcases List.mem_append.mp mem with old | new
    · rw [same _ pair.1 (by simp [AttachCall.insertedSince, committedAt])]
      exact accounted.reads call old clientId owner pair pairMem
    · rw [List.mem_singleton.mp new, phase] at pairMem
      simp [AttachPhase.readings] at pairMem

theorem readBefore (accounted : state.Accounted clients) (found : state.calls[index]? = some call)
    {clientId : Uuid} {readings : List Reading} {scope : StorageScope}
    (phase : call.phase = .reading readings) (owner : clients call.orderId = some clientId)
    (query : (call.scopes clientId)[readings.length]? = some scope) :
    (state.put index
      { call with
        phase := .reading (readings ++
          [{ bytes := scope.storedBytes clients state.rows, readAt := state.clock }]) }).Accounted
      clients := by
  have mem := List.mem_of_getElem? found
  refine accounted.moved found rfl rfl ?_ ?_ ?_ ?_
  · intro scope
    simp [put, AttachCall.room, AttachCall.holdsRoom, phase, AttachPhase.holdsRoom]
  · intro _
    exact accounted.uncommitted call mem (by simp [phase, AttachPhase.mayCommit])
  · intro scope time past
    exact Nat.le_refl _
  · intro otherId otherOwner pair pairMem
    cases owner.symm.trans otherOwner
    rcases Rows.mem_zip_append_singleton pairMem with known | ⟨isScope, isReading⟩
    · have before := accounted.reads call mem clientId owner pair
      rw [phase] at before
      exact before known
    · cases query.symm.trans isScope
      rw [isReading]
      exact ⟨Nat.le_refl _, Nat.le_add_right _ _⟩

theorem reserved (accounted : state.Accounted clients) (found : state.calls[index]? = some call)
    {clientId : Uuid} {readings : List Reading} (phase : call.phase = .reading readings)
    (owner : clients call.orderId = some clientId) :
    ({ state.put index { call with phase := .uploading 0 } with
      reservations :=
        state.reservations.reserve call.orderId clientId (sumSizes call.fresh) } :
      AttachState).Accounted clients := by
  have mem := List.mem_of_getElem? found
  refine accounted.moved found rfl rfl ?_ ?_ ?_ ?_
  · intro scope
    simp [StorageScope.pending_reserve owner, AttachCall.room, AttachCall.holdsRoom, phase,
      AttachPhase.holdsRoom]
  · intro _
    exact accounted.uncommitted call mem (by simp [phase, AttachPhase.mayCommit])
  · intro scope time past
    exact Nat.le_refl _
  · intro otherId otherOwner pair pairMem
    simp [AttachPhase.readings] at pairMem

theorem released (accounted : state.Accounted clients) (found : state.calls[index]? = some call)
    {clientId : Uuid} {created : Option (List OrderFile)} (phase : call.phase = .releasing created)
    (owner : clients call.orderId = some clientId) :
    ({ state.put index { call with phase := .finished created } with
      reservations :=
        state.reservations.release call.orderId clientId (sumSizes call.fresh) } :
      AttachState).Accounted clients := by
  refine accounted.moved found rfl rfl ?_ ?_ ?_ ?_
  · intro scope
    have held := @room_le_roomOf clients state index call AttachCall.holdsRoom scope found
    rw [← accounted.promised scope] at held
    simp only [StorageScope.pending_release owner, AttachCall.room, AttachCall.holdsRoom, phase,
      AttachPhase.holdsRoom, Bool.true_and, Bool.false_and] at held ⊢
    simp
    omega
  · simp [AttachPhase.mayCommit, AttachPhase.inFlight]
  · intro scope time past
    exact Nat.le_refl _
  · intro otherId otherOwner pair pairMem
    simp [AttachPhase.readings] at pairMem

/-- The insert step: the call has committed from now on, and its rows, if there are any, take no
more than its files. -/
theorem inserted (accounted : state.Accounted clients) (found : state.calls[index]? = some call)
    {readings : List Reading} (phase : call.phase = .checking readings)
    (environment : Environment) :
    ({ state.put index
        { call with
          phase := .settled (some (state.created call environment))
          committedAt := some state.clock
          inserted := !(state.created call environment).isEmpty } with
      rows := state.rows ++ state.created call environment } : AttachState).Accounted clients := by
  have mem := List.mem_of_getElem? found
  have uncommitted : call.committedAt = none :=
    accounted.uncommitted call mem
      (by simp [phase, AttachPhase.mayCommit, AttachPhase.inFlight])
  have bytes := @orderBytes_created_le state call environment
  refine accounted.moved found rfl rfl ?_ ?_ ?_ ?_
  · intro scope
    simp [put, AttachCall.room, AttachCall.holdsRoom, phase, AttachPhase.holdsRoom]
  · simp [AttachPhase.mayCommit, AttachPhase.inFlight]
  · intro scope time past
    rw [storedBytes_created]
    cases covers : scope.covers clients call.orderId with
    | false => simp [AttachCall.room, AttachCall.insertedSince, uncommitted, covers]
    | true =>
        by_cases none : state.created call environment = []
        · simp [AttachCall.room, AttachCall.insertedSince, uncommitted, covers, none,
            FilesService.orderBytes]
        · simp [AttachCall.room, AttachCall.insertedSince, uncommitted, covers, past, none, bytes]
  · intro otherId otherOwner pair pairMem
    simp [AttachPhase.readings] at pairMem

theorem left (accounted : state.Accounted clients) (turns : state.TakesTurns)
    (found : state.calls[index]? = some call) {created : Option (List OrderFile)}
    (phase : call.phase = .settled created) : (state.leave index call).Accounted clients := by
  apply turns.leave_rule found phase
  · rintro next (rfl | rfl) <;>
      exact accounted.phase found rfl rfl rfl rfl (by simp [phase, AttachPhase.holdsRoom])
        (by simp [AttachPhase.mayCommit, AttachPhase.inFlight]) rfl
  · intro reached ticket waiter waiterFound waits accounted
    refine accounted.phase waiterFound rfl rfl rfl rfl ?_ ?_ rfl
    · simp [waits, AttachPhase.holdsRoom]
    · simp [waits, AttachPhase.mayCommit, AttachPhase.inFlight]
  · intro reached queue accounted
    exact ⟨accounted.promised, accounted.uncommitted, accounted.reads⟩

theorem changed (accounted : state.Accounted clients) (turns : state.TakesTurns)
    {label : AttachLabel} (change : AttachStep clients state label next) :
    next.Accounted clients := by
  cases change with
  | started => exact accounted.started _ rfl rfl
  | quiet index action call after found move => exact accounted.quiet found move
  | readBefore index call clientId readings scope found phase owner query =>
      exact accounted.readBefore found phase owner query
  | reserved index call clientId readings usage found phase owner =>
      exact accounted.reserved found phase owner
  | inserted index call environment readings usage found phase =>
      exact accounted.inserted found phase environment
  | left index call created found phase => exact accounted.left turns found phase
  | released index call clientId created found phase owner =>
      exact accounted.released found phase owner
  | readInside index call clientId readings scope found phase
  | uploaded index call uploaded key found phase
  | acquired index call queue found phase
  | queued index call queue found phase
  | timedOut index call found phase
  | foundOrphans index call created found phase
  | removed index call orphans created found phase =>
      refine accounted.phase found rfl rfl rfl rfl ?_ ?_ rfl
      · simp [phase, AttachPhase.holdsRoom]
      · simp [phase, AttachPhase.mayCommit, AttachPhase.inFlight]

theorem step (accounted : state.Accounted clients) (turns : state.TakesTurns)
    (label : AttachLabel) : (state.step clients label).Accounted clients := by
  apply step_rule accounted
  · intro next change
    exact accounted.changed turns change
  · intro reached accounted
    refine ⟨accounted.promised, accounted.uncommitted, ?_⟩
    intro call mem clientId owner pair pairMem
    rcases accounted.reads call mem clientId owner pair pairMem with ⟨past, enough⟩
    exact ⟨Nat.le_succ_of_le past, enough⟩

/-- The calls on their way, and those that inserted rows since a sum was read and still hold their
promises, are all among the calls that hold promises. -/
theorem room_le_pending (accounted : state.Accounted clients) {scope : StorageScope} {time : ℕ}
    (counted : ∀ other ∈ state.calls, scope.covers clients other.orderId = true →
      other.insertedSince time = true → other.holdsRoom = true) :
    state.roomOf clients (AttachCall.insertedSince time) scope +
      state.roomOf clients AttachCall.inFlight scope ≤ scope.pending state.reservations := by
  rw [accounted.promised scope]
  simp only [roomOf]
  rw [← List.sum_map_add]
  apply List.sum_le_sum
  intro other mem
  cases covers : scope.covers clients other.orderId with
  | false => simp [AttachCall.room, covers]
  | true =>
      cases inFlight : other.inFlight with
      | true =>
          have uncommitted := accounted.uncommitted other mem
            (AttachPhase.mayCommit_of_inFlight inFlight)
          have held : other.holdsRoom = true := AttachPhase.holdsRoom_of_inFlight inFlight
          simp [AttachCall.room, AttachCall.insertedSince, uncommitted, inFlight, held]
      | false =>
          cases committed : other.insertedSince time with
          | true =>
              have held := counted other mem covers committed
              simp [AttachCall.room, committed, inFlight, held]
          | false => simp [AttachCall.room, committed, inFlight]

end Accounted

/-- The files that have rows and the files on their way fit every bound together. -/
def Fits (clients : Uuid → Option Uuid) (state : AttachState) : Prop :=
  ∀ scope : StorageScope, scope.storedBytes clients state.rows +
    state.roomOf clients AttachCall.inFlight scope ≤ scope.limit

theorem admitted {clientId : Uuid} {readings : List Reading} {usage : StorageUsage}
    (owner : clients call.orderId = some clientId) (read : usageOf readings = some usage)
    (checked : checkStorageQuota
      (addUsage usage (state.reservations.pending call.orderId clientId))
      (sumSizes call.fresh) call.ownerType = none) {scope : StorageScope}
    (covers : scope.covers clients call.orderId = true) :
    ∃ reading, (scope, reading) ∈ (call.scopes clientId).zip readings ∧
      reading.bytes + scope.pending state.reservations + sumSizes call.fresh ≤ scope.limit := by
  rcases usageOf_eq_some_iff.mp read with ⟨first, second, third, rfl, rfl⟩
  rcases checkStorageQuota_eq_none_iff.mp checked with ⟨order, client, total⟩
  cases scope with
  | order scopeId =>
      have same : call.orderId = scopeId := by simpa [StorageScope.covers] using covers
      subst same
      exact ⟨first, by simp [AttachCall.scopes], order⟩
  | client scopeId =>
      have same : clientId = scopeId := by simpa [StorageScope.covers, owner] using covers
      subst same
      exact ⟨second, by simp [AttachCall.scopes], client⟩
  | total => exact ⟨third, by simp [AttachCall.scopes], total⟩

namespace Fits

theorem moved (fits : state.Fits clients) (found : state.calls[index]? = some call)
    (calls : next.calls = state.calls.set index after)
    (less : ∀ scope : StorageScope,
      scope.storedBytes clients next.rows + after.room clients AttachCall.inFlight scope ≤
        scope.storedBytes clients state.rows + call.room clients AttachCall.inFlight scope) :
    next.Fits clients := by
  intro scope
  have before := fits scope
  have change := less scope
  have room := @roomOf_set clients state next index call after AttachCall.inFlight scope found calls
  omega

theorem phase (fits : state.Fits clients) (found : state.calls[index]? = some call)
    {phase : AttachPhase} (calls : next.calls = state.calls.set index { call with phase })
    (rows : next.rows = state.rows)
    (inFlight : phase.inFlight = true → call.phase.inFlight = true) : next.Fits clients := by
  apply fits.moved found calls
  intro scope
  rw [rows]
  apply Nat.add_le_add_left
  cases isInFlight : phase.inFlight with
  | false => simp [AttachCall.room, AttachCall.inFlight, isInFlight]
  | true => simp [AttachCall.room, AttachCall.inFlight, isInFlight, inFlight isInFlight]

theorem inserted (fits : state.Fits clients) (found : state.calls[index]? = some call)
    {readings : List Reading} (phase : call.phase = .checking readings)
    (environment : Environment) :
    ({ state.put index
        { call with
          phase := .settled (some (state.created call environment))
          committedAt := some state.clock
          inserted := !(state.created call environment).isEmpty } with
      rows := state.rows ++ state.created call environment } : AttachState).Fits clients := by
  have bytes := @orderBytes_created_le state call environment
  apply fits.moved found rfl
  intro scope
  rw [storedBytes_created]
  cases covers : scope.covers clients call.orderId <;>
    simp [AttachCall.room, AttachCall.inFlight, phase, AttachPhase.inFlight, covers, bytes]

/-- The reservation: each sum with what is promised covers the rows and the calls on their way,
so the check bounds them together with the call it admits. -/
theorem reserved (fits : state.Fits clients) (accounted : state.Accounted clients)
    (found : state.calls[index]? = some call) {clientId : Uuid} {readings : List Reading}
    {usage : StorageUsage} (phase : call.phase = .reading readings)
    (owner : clients call.orderId = some clientId) (read : usageOf readings = some usage)
    (checked : checkStorageQuota
      (addUsage usage (state.reservations.pending call.orderId clientId))
      (sumSizes call.fresh) call.ownerType = none)
    (count : state.ReadingsCount clients (.advance index .reserve)) :
    ({ state.put index { call with phase := .uploading 0 } with
      reservations :=
        state.reservations.reserve call.orderId clientId (sumSizes call.fresh) } :
      AttachState).Fits clients := by
  have mem := List.mem_of_getElem? found
  intro scope
  have before := fits scope
  have room := @roomOf_set clients state (state.put index { call with phase := .uploading 0 })
    index call { call with phase := .uploading 0 } AttachCall.inFlight scope found rfl
  have grown : (state.put index { call with phase := .uploading 0 }).roomOf clients
      AttachCall.inFlight scope = state.roomOf clients AttachCall.inFlight scope +
        if scope.covers clients call.orderId then sumSizes call.fresh else 0 := by
    simpa [AttachCall.room, AttachCall.inFlight, AttachPhase.inFlight, phase] using room
  change scope.storedBytes clients state.rows + (state.put index
    { call with phase := .uploading 0 }).roomOf clients AttachCall.inFlight scope ≤ scope.limit
  rw [grown]
  cases covers : scope.covers clients call.orderId with
  | false => simpa using before
  | true =>
      rcases admitted owner read checked covers with ⟨reading, isRead, fitsReading⟩
      have pairMem : (scope, reading) ∈ (call.scopes clientId).zip call.phase.readings := by
        rw [phase]
        exact isRead
      have stored : scope.storedBytes clients state.rows ≤ reading.bytes +
          state.roomOf clients (AttachCall.insertedSince reading.readAt) scope :=
        (accounted.reads call mem clientId owner (scope, reading) pairMem).2
      have promised : state.roomOf clients (AttachCall.insertedSince reading.readAt) scope +
          state.roomOf clients AttachCall.inFlight scope ≤ scope.pending state.reservations :=
        accounted.room_le_pending (count call found clientId owner (scope, reading) pairMem)
      simp only [if_true]
      omega

theorem left (fits : state.Fits clients) (turns : state.TakesTurns)
    (found : state.calls[index]? = some call) {created : Option (List OrderFile)}
    (phase : call.phase = .settled created) : (state.leave index call).Fits clients := by
  apply turns.leave_rule found phase
  · rintro next (rfl | rfl) <;>
      exact fits.phase found rfl rfl (by simp [AttachPhase.inFlight])
  · intro reached ticket waiter waiterFound waits fits
    refine fits.phase waiterFound rfl rfl ?_
    simp [waits, AttachPhase.inFlight]
  · intro reached queue fits
    exact fits

theorem quiet (fits : state.Fits clients) (found : state.calls[index]? = some call)
    (move : QuietMove call after) : (state.put index after).Fits clients := by
  apply fits.moved found rfl
  intro scope
  cases move <;> simp_all [put, AttachCall.room, AttachCall.inFlight, AttachPhase.inFlight]

theorem changed (fits : state.Fits clients) (accounted : state.Accounted clients)
    (turns : state.TakesTurns) {label : AttachLabel} (count : state.ReadingsCount clients label)
    (change : AttachStep clients state label next) : next.Fits clients := by
  cases change with
  | started =>
      intro scope
      simpa [roomOf, AttachCall.room, AttachCall.inFlight, AttachPhase.inFlight] using fits scope
  | quiet index action call after found move => exact fits.quiet found move
  | reserved index call clientId readings usage found phase owner read checked =>
      exact fits.reserved accounted found phase owner read checked count
  | inserted index call environment readings usage found phase =>
      exact fits.inserted found phase environment
  | left index call created found phase => exact fits.left turns found phase
  | readBefore index call clientId readings scope found phase
  | readInside index call clientId readings scope found phase
  | uploaded index call uploaded key found phase
  | acquired index call queue found phase
  | queued index call queue found phase
  | timedOut index call found phase
  | foundOrphans index call created found phase
  | removed index call orphans created found phase
  | released index call clientId created found phase =>
      refine fits.phase found rfl rfl ?_
      simp [phase, AttachPhase.inFlight]

theorem step (fits : state.Fits clients) (accounted : state.Accounted clients)
    (turns : state.TakesTurns) {label : AttachLabel}
    (count : state.ReadingsCount clients label) : (state.step clients label).Fits clients := by
  apply step_rule fits
  · intro next change
    exact fits.changed accounted turns count change
  · intro reached fits
    exact fits

end Fits

end AttachState

end MyBuild
