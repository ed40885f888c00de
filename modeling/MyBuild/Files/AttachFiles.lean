import MyBuild.Common.KeyedQueue
import MyBuild.Files.Service

/-!
# Calls of `attachFiles` side by side

A call waits many times: for the rows that may be duplicates, for each sum of the usage, for
every upload, for its turn in the queue of the order, for the parts of its transaction, for
the orphan query and the removal.  Here each stretch between two waits is one step, the
calls take their steps in any order, and a wait ends with an exception when it is told to.

The slots that bound the uploads, and the other requests in the queue of an order, only delay
steps; the check before the body of a request is read only keeps calls from starting.  None
of them has a part of its own.  The clock, the times of readings and commits, and whether a
commit inserted rows, are there for the statements: nothing decides by them.
-/

namespace MyBuild

/-- What room is counted in: one order, the orders of a client, the whole service. -/
inductive StorageScope where
  | order (orderId : Uuid)
  | client (clientId : Uuid)
  | total
  deriving DecidableEq

namespace StorageScope

variable (clients : Uuid → Option Uuid)

/-- Files of the order count in the scope; `clients` says whose order it is. -/
def covers (orderId : Uuid) : StorageScope → Bool
  | order scopeId => orderId == scopeId
  | client clientId => clients orderId == some clientId
  | total => true

def storedBytes (scope : StorageScope) (rows : List OrderFile) : ℕ :=
  FilesService.orderBytes (rows.filter fun row => scope.covers clients row.orderId)

def limit : StorageScope → ℕ
  | order _ => maxOrderFilesBytes
  | client _ => maxClientFilesBytes
  | total => maxTotalFilesBytes

def pending (reservations : StorageReservations) : StorageScope → ℕ
  | order orderId => reservations.byOrder orderId
  | client clientId => reservations.byClient clientId
  | total => reservations.total

variable {clients} {scope : StorageScope} {reservations : StorageReservations}
  {orderId clientId : Uuid}

theorem pending_reserve (owner : clients orderId = some clientId) (bytes : ℕ) :
    scope.pending (reservations.reserve orderId clientId bytes) =
      scope.pending reservations + if scope.covers clients orderId then bytes else 0 := by
  cases scope with
  | order scopeId =>
      simp only [pending, StorageReservations.reserve, adjust_add, covers, beq_iff_eq]
  | client scopeId =>
      simp only [pending, StorageReservations.reserve, adjust_add, covers, owner, beq_iff_eq,
        Option.some.injEq]
  | total => rfl

theorem pending_release (owner : clients orderId = some clientId) (bytes : ℕ) :
    scope.pending (reservations.release orderId clientId bytes) =
      scope.pending reservations - if scope.covers clients orderId then bytes else 0 := by
  cases scope with
  | order scopeId =>
      simp only [pending, StorageReservations.release, adjust_sub, covers, beq_iff_eq]
  | client scopeId =>
      simp only [pending, StorageReservations.release, adjust_sub, covers, owner, beq_iff_eq,
        Option.some.injEq]
  | total => rfl

end StorageScope

structure Reading where
  bytes : ℕ
  readAt : ℕ
  deriving DecidableEq

def usageOf : List Reading → Option StorageUsage
  | [order, client, total] =>
      some { order := order.bytes, client := client.bytes, total := total.bytes }
  | _ => none

theorem usageOf_eq_some_iff {readings : List Reading} {usage : StorageUsage} :
    usageOf readings = some usage ↔
      ∃ order client total, readings = [order, client, total] ∧
        usage = { order := order.bytes, client := client.bytes, total := total.bytes } := by
  constructor
  · intro read
    simp only [usageOf] at read
    split at read
    case h_1 order client total =>
      cases read
      exact ⟨order, client, total, rfl, rfl⟩
    case h_2 => cases read
  · rintro ⟨order, client, total, rfl, rfl⟩
    rfl

/-- Where a call stands.  `created` is what it will return, nothing when it will throw. -/
inductive AttachPhase where
  | deduplicating
  | reading (readings : List Reading)
  | uploading (uploaded : ℕ)
  | waiting
  | guarding
  | checking (readings : List Reading)
  | settled (created : Option (List OrderFile))
  | orphaned (created : Option (List OrderFile))
  | removing (orphans : List String) (created : Option (List OrderFile))
  | releasing (created : Option (List OrderFile))
  | finished (created : Option (List OrderFile))
  deriving DecidableEq

def AttachPhase.isFinished : AttachPhase → Bool
  | .finished _ => true
  | _ => false

structure AttachCall where
  orderId : Uuid
  ownerType : FileOwnerType
  submissionRound : ℕ
  prepared : List PreparedFile
  fresh : List PreparedFile
  committedAt : Option ℕ
  inserted : Bool := false
  phase : AttachPhase
  deriving DecidableEq

def AttachCall.keys (call : AttachCall) : List String :=
  call.fresh.map (buildStorageKey call.orderId.toText call.ownerType call.submissionRound)

def AttachCall.scopes (call : AttachCall) (clientId : Uuid) : List StorageScope :=
  [.order call.orderId, .client clientId, .total]

/-- The whole service: its rows, its bucket, and the calls with what they share in memory. -/
structure AttachState where
  rows : List OrderFile
  bucket : List String
  reservations : StorageReservations
  queue : KeyedQueue Uuid ℕ
  calls : List AttachCall
  clock : ℕ

inductive AttachAction where
  | dropDuplicates
  | read
  | reserve
  | upload
  | acquire
  | timeOut
  | guard
  | insert (environment : Environment)
  | leave
  | findOrphans
  | remove
  | release
  | fail

inductive AttachLabel where
  | start (orderId : Uuid) (ownerType : FileOwnerType) (submissionRound : ℕ)
      (prepared : List PreparedFile)
  | advance (index : ℕ) (action : AttachAction)

namespace AttachState

def orderQueueMaxWaiting : ℕ := 50

def initial (rows : List OrderFile) (bucket : List String) : AttachState :=
  { rows
    bucket
    reservations := .empty
    queue := { maxWaiting := orderQueueMaxWaiting, lanes := fun _ => none }
    calls := []
    clock := 0 }

def put (state : AttachState) (index : ℕ) (call : AttachCall) : AttachState :=
  { state with calls := state.calls.set index call }

def orderRows (state : AttachState) (orderId : Uuid) : List OrderFile :=
  state.rows.filter (·.orderId == orderId)

variable (clients : Uuid → Option Uuid) (state : AttachState) (index : ℕ) (call : AttachCall)

/-- A call without files is refused at once. -/
def start (orderId : Uuid) (ownerType : FileOwnerType) (submissionRound : ℕ)
    (prepared : List PreparedFile) : AttachState :=
  if prepared = [] then state
  else
    { state with
      calls := state.calls ++
        [{ orderId, ownerType, submissionRound, prepared, fresh := [], committedAt := none
           phase := .deduplicating }] }

def dropDuplicates : AttachState :=
  match call.phase with
  | .deduplicating =>
      let fresh := FilesService.dropDuplicates (state.orderRows call.orderId)
        call.submissionRound call.prepared
      state.put index
        { call with fresh, phase := if fresh = [] then .finished (some []) else .reading [] }
  | _ => state

/-- The next sum of `readStorageUsage`; an order that is not there has no client. -/
def readNext (readings : List Reading) : Option (List Reading) :=
  (clients call.orderId).map fun clientId =>
    match (call.scopes clientId)[readings.length]? with
    | some scope =>
        readings ++ [{ bytes := scope.storedBytes clients state.rows, readAt := state.clock }]
    | none => readings

def read : AttachState :=
  match call.phase with
  | .reading readings =>
      match readNext clients state call readings with
      | some readings => state.put index { call with phase := .reading readings }
      | none => state.put index { call with phase := .finished none }
  | .checking readings =>
      match readNext clients state call readings with
      | some readings => state.put index { call with phase := .checking readings }
      | none => state.put index { call with phase := .settled none }
  | _ => state

/-- The check and the reservation, with no wait between them. -/
def reserve : AttachState :=
  match call.phase with
  | .reading readings =>
      match usageOf readings, clients call.orderId with
      | some usage, some clientId =>
          let pending := state.reservations.pending call.orderId clientId
          match checkStorageQuota (addUsage usage pending) (sumSizes call.fresh)
              call.ownerType with
          | some _ => state.put index { call with phase := .finished none }
          | none =>
              { state.put index { call with phase := .uploading 0 } with
                reservations :=
                  state.reservations.reserve call.orderId clientId (sumSizes call.fresh) }
      | _, _ => state
  | _ => state

def upload : AttachState :=
  match call.phase with
  | .uploading uploaded =>
      match call.keys[uploaded]? with
      | some key =>
          { state.put index { call with phase := .uploading (uploaded + 1) } with
            bucket := state.bucket.insert key }
      | none => state
  | _ => state

def acquire : AttachState :=
  match call.phase with
  | .uploading uploaded =>
      if uploaded = call.fresh.length then
        match state.queue.acquire call.orderId index with
        | .ok (queue, .now) => { state.put index { call with phase := .guarding } with queue }
        | .ok (queue, .later) => { state.put index { call with phase := .waiting } with queue }
        | .error _ => state.put index { call with phase := .orphaned none }
      else state
  | _ => state

def timeOut : AttachState :=
  match call.phase with
  | .waiting =>
      { state.put index { call with phase := .orphaned none } with
        queue := state.queue.timeOut call.orderId index }
  | _ => state

def guard : AttachState :=
  match call.phase with
  | .guarding => state.put index { call with phase := .checking [] }
  | _ => state

/-- The rows that are inserted: those of this content in this submission that are not there. -/
def created (environment : Environment) : List OrderFile :=
  FilesService.skipDuplicates (state.orderRows call.orderId)
    (call.fresh.mapIdx (FilesService.toRow environment call.orderId call.ownerType
      call.submissionRound))

/-- The final check of the quota, the rows, the caller's addition, and the commit. -/
def insert (environment : Environment) : AttachState :=
  match call.phase with
  | .checking readings =>
      match usageOf readings with
      | some usage =>
          match checkStorageQuota usage (sumSizes call.fresh) call.ownerType with
          | some _ => state.put index { call with phase := .settled none }
          | none =>
              { state.put index
                  { call with
                    phase := .settled (some (state.created call environment))
                    committedAt := some state.clock
                    inserted := !(state.created call environment).isEmpty } with
                rows := state.rows ++ state.created call environment }
      | none => state
  | _ => state

/-- Where a call goes once its transaction is over: objects without a row have to be looked for
after an exception and after rows were skipped. -/
def afterTransaction : Option (List OrderFile) → AttachPhase
  | some created =>
      if created.length < call.fresh.length then .orphaned (some created)
      else .releasing (some created)
  | none => .orphaned none

def leave : AttachState :=
  match call.phase with
  | .settled created =>
      let released := state.queue.release call.orderId
      let calls := state.calls.set index { call with phase := afterTransaction call created }
      { state with
        queue := released.1
        calls := match released.2 with
          | some next => calls.modify next fun waiter => { waiter with phase := .guarding }
          | none => calls }
  | _ => state

/-- The keys of the call that no row of its content names. -/
def orphans : List String :=
  let inUse := state.rows.filter fun row =>
    row.orderId == call.orderId && row.submissionRound == call.submissionRound &&
      (call.fresh.map PreparedFile.fileHash).contains row.fileHash
  call.keys.filter fun key => !(inUse.map OrderFile.storageKey).contains key

def findOrphans : AttachState :=
  match call.phase with
  | .orphaned created =>
      state.put index { call with phase := .removing (state.orphans call) created }
  | _ => state

def remove : AttachState :=
  match call.phase with
  | .removing orphans created =>
      { state.put index { call with phase := .releasing created } with
        bucket := state.bucket.filter fun key => !orphans.contains key }
  | _ => state

def release : AttachState :=
  match call.phase, clients call.orderId with
  | .releasing created, some clientId =>
      { state.put index { call with phase := .finished created } with
        reservations :=
          state.reservations.release call.orderId clientId (sumSizes call.fresh) }
  | _, _ => state

/-- The wait the call is in ends with an exception. -/
def fail : AttachState :=
  match call.phase with
  | .deduplicating | .reading _ => state.put index { call with phase := .finished none }
  | .uploading _ => state.put index { call with phase := .orphaned none }
  | .guarding | .checking _ => state.put index { call with phase := .settled none }
  | .orphaned _ => state.put index { call with phase := .releasing none }
  | _ => state

def advance : AttachAction → AttachState
  | .dropDuplicates => state.dropDuplicates index call
  | .read => state.read clients index call
  | .reserve => state.reserve clients index call
  | .upload => state.upload index call
  | .acquire => state.acquire index call
  | .timeOut => state.timeOut index call
  | .guard => state.guard index call
  | .insert environment => state.insert index call environment
  | .leave => state.leave index call
  | .findOrphans => state.findOrphans index call
  | .remove => state.remove index call
  | .release => state.release clients index call
  | .fail => state.fail index call

/-- One step.  An action that the call is not ready for changes nothing. -/
def act : AttachLabel → AttachState
  | .start orderId ownerType submissionRound prepared =>
      state.start orderId ownerType submissionRound prepared
  | .advance index action =>
      match state.calls[index]? with
      | some call => state.advance clients index call action
      | none => state

def step (label : AttachLabel) : AttachState :=
  { act clients state label with clock := state.clock + 1 }

end AttachState

/-- The moves of a call that touch nothing but the call. -/
inductive QuietMove (call : AttachCall) : AttachCall → Prop where
  | deduplicated (fresh : List PreparedFile) (phase : call.phase = .deduplicating) :
      QuietMove call { call with fresh, phase := .reading [] }
  | nothingFresh (phase : call.phase = .deduplicating) :
      QuietMove call { call with fresh := [], phase := .finished (some []) }
  | refused (phase : call.phase = .deduplicating ∨ ∃ readings, call.phase = .reading readings) :
      QuietMove call { call with phase := .finished none }
  | uploadFailed (uploaded : ℕ) (phase : call.phase = .uploading uploaded) :
      QuietMove call { call with phase := .orphaned none }
  | guarded (phase : call.phase = .guarding) :
      QuietMove call { call with phase := .checking [] }
  | rolledBack (phase : call.phase = .guarding ∨ ∃ readings, call.phase = .checking readings) :
      QuietMove call { call with phase := .settled none }
  | cleanupFailed (created : Option (List OrderFile)) (phase : call.phase = .orphaned created) :
      QuietMove call { call with phase := .releasing none }

/-- Every way a step changes the service. -/
inductive AttachStep (clients : Uuid → Option Uuid) (state : AttachState) :
    AttachLabel → AttachState → Prop where
  | started (orderId : Uuid) (ownerType : FileOwnerType) (submissionRound : ℕ)
      (prepared : List PreparedFile) :
      AttachStep clients state (.start orderId ownerType submissionRound prepared)
        { state with
          calls := state.calls ++
            [{ orderId, ownerType, submissionRound, prepared, fresh := [], committedAt := none
               phase := .deduplicating }] }
  | quiet (index : ℕ) (action : AttachAction) (call next : AttachCall)
      (found : state.calls[index]? = some call) (move : QuietMove call next) :
      AttachStep clients state (.advance index action) (state.put index next)
  | readBefore (index : ℕ) (call : AttachCall) (clientId : Uuid) (readings : List Reading)
      (scope : StorageScope) (found : state.calls[index]? = some call)
      (phase : call.phase = .reading readings) (owner : clients call.orderId = some clientId)
      (query : (call.scopes clientId)[readings.length]? = some scope) :
      AttachStep clients state (.advance index .read) (state.put index
        { call with
          phase := .reading (readings ++
            [{ bytes := scope.storedBytes clients state.rows, readAt := state.clock }]) })
  | readInside (index : ℕ) (call : AttachCall) (clientId : Uuid) (readings : List Reading)
      (scope : StorageScope) (found : state.calls[index]? = some call)
      (phase : call.phase = .checking readings) (owner : clients call.orderId = some clientId)
      (query : (call.scopes clientId)[readings.length]? = some scope) :
      AttachStep clients state (.advance index .read) (state.put index
        { call with
          phase := .checking (readings ++
            [{ bytes := scope.storedBytes clients state.rows, readAt := state.clock }]) })
  | reserved (index : ℕ) (call : AttachCall) (clientId : Uuid) (readings : List Reading)
      (usage : StorageUsage) (found : state.calls[index]? = some call)
      (phase : call.phase = .reading readings) (owner : clients call.orderId = some clientId)
      (read : usageOf readings = some usage)
      (fits : checkStorageQuota
        (addUsage usage (state.reservations.pending call.orderId clientId))
        (sumSizes call.fresh) call.ownerType = none) :
      AttachStep clients state (.advance index .reserve)
        { state.put index { call with phase := .uploading 0 } with
          reservations :=
            state.reservations.reserve call.orderId clientId (sumSizes call.fresh) }
  | uploaded (index : ℕ) (call : AttachCall) (uploaded : ℕ) (key : String)
      (found : state.calls[index]? = some call) (phase : call.phase = .uploading uploaded)
      (isKey : call.keys[uploaded]? = some key) :
      AttachStep clients state (.advance index .upload)
        { state.put index { call with phase := .uploading (uploaded + 1) } with
          bucket := state.bucket.insert key }
  | acquired (index : ℕ) (call : AttachCall) (queue : KeyedQueue Uuid ℕ)
      (found : state.calls[index]? = some call)
      (phase : call.phase = .uploading call.fresh.length)
      (acquired : state.queue.acquire call.orderId index = .ok (queue, .now)) :
      AttachStep clients state (.advance index .acquire)
        { state.put index { call with phase := .guarding } with queue }
  | queued (index : ℕ) (call : AttachCall) (queue : KeyedQueue Uuid ℕ)
      (found : state.calls[index]? = some call)
      (phase : call.phase = .uploading call.fresh.length)
      (acquired : state.queue.acquire call.orderId index = .ok (queue, .later)) :
      AttachStep clients state (.advance index .acquire)
        { state.put index { call with phase := .waiting } with queue }
  | timedOut (index : ℕ) (call : AttachCall) (found : state.calls[index]? = some call)
      (phase : call.phase = .waiting) :
      AttachStep clients state (.advance index .timeOut)
        { state.put index { call with phase := .orphaned none } with
          queue := state.queue.timeOut call.orderId index }
  | inserted (index : ℕ) (call : AttachCall) (environment : Environment)
      (readings : List Reading) (usage : StorageUsage)
      (found : state.calls[index]? = some call) (phase : call.phase = .checking readings)
      (read : usageOf readings = some usage)
      (fits : checkStorageQuota usage (sumSizes call.fresh) call.ownerType = none) :
      AttachStep clients state (.advance index (.insert environment))
        { state.put index
            { call with
              phase := .settled (some (state.created call environment))
              committedAt := some state.clock
              inserted := !(state.created call environment).isEmpty } with
          rows := state.rows ++ state.created call environment }
  | left (index : ℕ) (call : AttachCall) (created : Option (List OrderFile))
      (found : state.calls[index]? = some call) (phase : call.phase = .settled created) :
      AttachStep clients state (.advance index .leave) (state.leave index call)
  | foundOrphans (index : ℕ) (call : AttachCall) (created : Option (List OrderFile))
      (found : state.calls[index]? = some call) (phase : call.phase = .orphaned created) :
      AttachStep clients state (.advance index .findOrphans)
        (state.put index { call with phase := .removing (state.orphans call) created })
  | removed (index : ℕ) (call : AttachCall) (orphans : List String)
      (created : Option (List OrderFile)) (found : state.calls[index]? = some call)
      (phase : call.phase = .removing orphans created) :
      AttachStep clients state (.advance index .remove)
        { state.put index { call with phase := .releasing created } with
          bucket := state.bucket.filter fun key => !orphans.contains key }
  | released (index : ℕ) (call : AttachCall) (clientId : Uuid)
      (created : Option (List OrderFile)) (found : state.calls[index]? = some call)
      (phase : call.phase = .releasing created) (owner : clients call.orderId = some clientId) :
      AttachStep clients state (.advance index .release)
        { state.put index { call with phase := .finished created } with
          reservations :=
            state.reservations.release call.orderId clientId (sumSizes call.fresh) }

namespace AttachState

variable {clients : Uuid → Option Uuid} {state : AttachState} {index : ℕ} {call : AttachCall}

theorem mem_created {environment : Environment} {row : OrderFile}
    (mem : row ∈ state.created call environment) :
    row.orderId = call.orderId ∧ row.storageKey ∈ call.keys := by
  have isRow := (FilesService.skipDuplicates_sublist _ _).mem mem
  rcases List.mem_mapIdx.mp isRow with ⟨position, bound, rfl⟩
  refine ⟨rfl, ?_⟩
  simp only [FilesService.toRow, AttachCall.keys]
  exact List.mem_map_of_mem (List.getElem_mem bound)

theorem orderBytes_created_le (environment : Environment) :
    FilesService.orderBytes (state.created call environment) ≤ sumSizes call.fresh := by
  have room := FilesService.orderBytes_skipDuplicates_le (state.orderRows call.orderId)
    (call.fresh.mapIdx (FilesService.toRow environment call.orderId call.ownerType
      call.submissionRound))
  rw [FilesService.orderBytes_toRow] at room
  exact room

/-- The inserted rows add their room to the scopes that cover the order, and to no other. -/
theorem storedBytes_created (scope : StorageScope) (environment : Environment) :
    scope.storedBytes clients (state.rows ++ state.created call environment) =
      scope.storedBytes clients state.rows +
        if scope.covers clients call.orderId then
          FilesService.orderBytes (state.created call environment)
        else 0 := by
  have sameOrder : (state.created call environment).filter
      (fun row => scope.covers clients row.orderId) =
        (state.created call environment).filter fun _ => scope.covers clients call.orderId := by
    apply List.filter_congr
    intro row mem
    rw [(mem_created mem).1]
  simp only [StorageScope.storedBytes]
  rw [List.filter_append, sameOrder]
  cases scope.covers clients call.orderId <;> simp [FilesService.orderBytes]

theorem mem_orphans_iff {key : String} :
    key ∈ state.orphans call ↔
      key ∈ call.keys ∧ ∀ row ∈ state.rows, row.orderId = call.orderId →
        row.submissionRound = call.submissionRound →
        row.fileHash ∈ call.fresh.map PreparedFile.fileHash → row.storageKey ≠ key := by
  simp [orphans, and_assoc]

theorem afterTransaction_cases (call : AttachCall) (created : Option (List OrderFile)) :
    afterTransaction call created = .orphaned created ∨
      afterTransaction call created = .releasing created := by
  cases created with
  | none => exact Or.inl rfl
  | some created =>
      simp only [afterTransaction]
      split
      · exact Or.inl rfl
      · exact Or.inr rfl

theorem put_self (found : state.calls[index]? = some call) : state.put index call = state := by
  rcases List.getElem?_eq_some_iff.mp found with ⟨bound, rfl⟩
  simp [put]

/-- One query of the usage: the order may be gone, or all the sums may be there already. -/
theorem readNext_cases {readings : List Reading} :
    readNext clients state call readings = none ∨
      readNext clients state call readings = some readings ∨
      ∃ clientId scope, clients call.orderId = some clientId ∧
        (call.scopes clientId)[readings.length]? = some scope ∧
        readNext clients state call readings = some (readings ++
          [{ bytes := scope.storedBytes clients state.rows, readAt := state.clock }]) := by
  simp only [readNext]
  cases clients call.orderId with
  | none => exact Or.inl rfl
  | some clientId =>
      cases query : (call.scopes clientId)[readings.length]? with
      | none => simp [query]
      | some scope => exact Or.inr (Or.inr ⟨clientId, scope, rfl, query, by simp [query]⟩)

theorem advance_cases (found : state.calls[index]? = some call) (action : AttachAction) :
    state.advance clients index call action = state ∨
      AttachStep clients state (.advance index action)
        (state.advance clients index call action) := by
  cases action with
  | dropDuplicates =>
      simp only [advance, dropDuplicates]
      split
      case h_1 phase =>
        right
        split
        case isTrue none =>
          rw [none]
          exact .quiet index _ call _ found (.nothingFresh phase)
        case isFalse => exact .quiet index _ call _ found (.deduplicated _ phase)
      case h_2 => exact Or.inl rfl
  | read =>
      simp only [advance, read]
      split
      case h_1 readings phase =>
        rcases @readNext_cases clients state call readings with
          none | same | ⟨clientId, scope, owner, query, next⟩
        · rw [none]
          exact Or.inr (.quiet index _ call _ found (.refused (Or.inr ⟨readings, phase⟩)))
        · left
          simp only [same]
          rw [← phase]
          exact put_self found
        · rw [next]
          exact Or.inr (.readBefore index call clientId readings scope found phase owner query)
      case h_2 readings phase =>
        rcases @readNext_cases clients state call readings with
          none | same | ⟨clientId, scope, owner, query, next⟩
        · rw [none]
          exact Or.inr (.quiet index _ call _ found (.rolledBack (Or.inr ⟨readings, phase⟩)))
        · left
          simp only [same]
          rw [← phase]
          exact put_self found
        · rw [next]
          exact Or.inr (.readInside index call clientId readings scope found phase owner query)
      case h_3 => exact Or.inl rfl
  | reserve =>
      simp only [advance, reserve]
      split
      case h_1 readings phase =>
        split
        case h_1 usage clientId read owner =>
          right
          split
          case h_1 => exact .quiet index _ call _ found (.refused (Or.inr ⟨readings, phase⟩))
          case h_2 fits =>
            exact .reserved index call clientId readings usage found phase owner read fits
        case h_2 => exact Or.inl rfl
      case h_2 => exact Or.inl rfl
  | upload =>
      simp only [advance, upload]
      split
      case h_1 uploaded phase =>
        split
        case h_1 key isKey => exact Or.inr (.uploaded index call uploaded key found phase isKey)
        case h_2 => exact Or.inl rfl
      case h_2 => exact Or.inl rfl
  | acquire =>
      simp only [advance, acquire]
      split
      case h_1 uploaded phase =>
        split
        case isTrue all =>
          subst all
          right
          split
          case h_1 queue acquired => exact .acquired index call queue found phase acquired
          case h_2 queue acquired => exact .queued index call queue found phase acquired
          case h_3 => exact .quiet index _ call _ found (.uploadFailed _ phase)
        case isFalse => exact Or.inl rfl
      case h_2 => exact Or.inl rfl
  | timeOut =>
      simp only [advance, timeOut]
      split
      case h_1 phase => exact Or.inr (.timedOut index call found phase)
      case h_2 => exact Or.inl rfl
  | guard =>
      simp only [advance, guard]
      split
      case h_1 phase => exact Or.inr (.quiet index _ call _ found (.guarded phase))
      case h_2 => exact Or.inl rfl
  | insert environment =>
      simp only [advance, insert]
      split
      case h_1 readings phase =>
        split
        case h_1 usage read =>
          right
          split
          case h_1 => exact .quiet index _ call _ found (.rolledBack (Or.inr ⟨readings, phase⟩))
          case h_2 fits =>
            exact .inserted index call environment readings usage found phase read fits
        case h_2 => exact Or.inl rfl
      case h_2 => exact Or.inl rfl
  | leave =>
      simp only [advance]
      cases phase : call.phase with
      | settled created => exact Or.inr (.left index call created found phase)
      | _ => exact Or.inl (by simp only [leave, phase])
  | findOrphans =>
      simp only [advance, findOrphans]
      split
      case h_1 created phase => exact Or.inr (.foundOrphans index call created found phase)
      case h_2 => exact Or.inl rfl
  | remove =>
      simp only [advance, remove]
      split
      case h_1 orphans created phase =>
        exact Or.inr (.removed index call orphans created found phase)
      case h_2 => exact Or.inl rfl
  | release =>
      simp only [advance, release]
      split
      case h_1 created clientId phase owner =>
        exact Or.inr (.released index call clientId created found phase owner)
      case h_2 => exact Or.inl rfl
  | fail =>
      simp only [advance, fail]
      split
      case h_1 phase => exact Or.inr (.quiet index _ call _ found (.refused (Or.inl phase)))
      case h_2 readings phase =>
        exact Or.inr (.quiet index _ call _ found (.refused (Or.inr ⟨readings, phase⟩)))
      case h_3 uploaded phase =>
        exact Or.inr (.quiet index _ call _ found (.uploadFailed uploaded phase))
      case h_4 phase => exact Or.inr (.quiet index _ call _ found (.rolledBack (Or.inl phase)))
      case h_5 readings phase =>
        exact Or.inr (.quiet index _ call _ found (.rolledBack (Or.inr ⟨readings, phase⟩)))
      case h_6 created phase =>
        exact Or.inr (.quiet index _ call _ found (.cleanupFailed created phase))
      case h_7 => exact Or.inl rfl

theorem leave_clock : (state.leave index call).clock = state.clock := by
  simp only [leave]
  split <;> rfl

theorem act_cases (label : AttachLabel) :
    state.act clients label = state ∨ AttachStep clients state label (state.act clients label) := by
  cases label with
  | start orderId ownerType submissionRound prepared =>
      simp only [act, start]
      split
      · exact Or.inl rfl
      · exact Or.inr (.started orderId ownerType submissionRound prepared)
  | advance index action =>
      simp only [act]
      cases found : state.calls[index]? with
      | none => exact Or.inl rfl
      | some call => exact advance_cases found action

end AttachState

theorem AttachStep.clock {clients : Uuid → Option Uuid} {state next : AttachState}
    {label : AttachLabel} (change : AttachStep clients state label next) :
    next.clock = state.clock := by
  cases change with
  | left => exact AttachState.leave_clock
  | _ => rfl

/-- What every change of the service keeps, and the clock has no say in, a step keeps. -/
theorem AttachState.step_rule {clients : Uuid → Option Uuid} {state : AttachState}
    {label : AttachLabel} {Holds : AttachState → Prop} (holds : Holds state)
    (changed : ∀ next, AttachStep clients state label next → Holds next)
    (tick : ∀ reached : AttachState, Holds reached →
      Holds { reached with clock := reached.clock + 1 }) :
    Holds (state.step clients label) := by
  have acted : Holds (state.act clients label) ∧
      (state.act clients label).clock = state.clock := by
    rcases @act_cases clients state label with same | change
    · rw [same]
      exact ⟨holds, rfl⟩
    · exact ⟨changed _ change, change.clock⟩
  have ticked := tick _ acted.1
  rw [acted.2] at ticked
  exact ticked

def exampleFile (name fileHash : String) (megabytes : ℕ) : PreparedFile :=
  { originalName := name, safeName := name, mimeType := "application/pdf"
    sizeBytes := megabytes * megabyte, fileHash }

def AttachLabel.each (index : ℕ) (actions : List AttachAction) : List AttachLabel :=
  actions.map (.advance index)

/-- A call comes to its turn in the queue, when it need not wait. -/
def AttachAction.uploads (files : ℕ) : List AttachAction :=
  [.dropDuplicates, .read, .read, .read, .reserve] ++ List.replicate files .upload ++ [.acquire]

def AttachAction.transaction : List AttachAction :=
  [.guard, .read, .read, .read, .insert (exampleEnvironment ⟨40⟩), .leave]

/-- Two calls on one order, of 30 MB each. -/
def twoStarts : List AttachLabel :=
  [.start ⟨1⟩ .company 1 [exampleFile "plan.pdf"
      "5e884898da28047151d0e56f8dc6292773603d0d6aabbdd62a11ef721d1542d8" 15,
    exampleFile "roof.pdf"
      "6b86b273ff34fce19d6b804eff5a3f5747ada4eaa22f1d49c01e52ddb7875b4b" 15],
    .start ⟨1⟩ .company 1 [exampleFile "walls.pdf"
      "d4735e3a265e16eee03f59718b9b5d03019c07d8b6c51f90da3a666eec13ab35" 15,
    exampleFile "doors.pdf"
      "4e07408562bedb8b60ce05c1decfe3ad16b72230967de01f640b7e4729b49fce" 15]]

/-- The second call commits and gives its room back between the sums and the check of the
first. -/
def staleRun : List AttachLabel :=
  twoStarts ++ AttachLabel.each 0 [.dropDuplicates, .read, .read, .read] ++
    AttachLabel.each 1 (AttachAction.uploads 2 ++ AttachAction.transaction ++ [.release]) ++
    AttachLabel.each 0 [.reserve]

end MyBuild
