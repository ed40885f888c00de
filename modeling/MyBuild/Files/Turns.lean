import MyBuild.Files.AttachFiles
import MyBuild.Library.Rows

/-!
# Insert transactions take turns

The calls on one order run their transactions one after another: a call runs one only while
the queue has handed it the key of its order.
-/

namespace MyBuild

def AttachPhase.inTurn : AttachPhase → Bool
  | .guarding | .checking _ | .settled _ => true
  | _ => false

namespace AttachState

/-- A call in its turn holds the key of its order, and the tickets that wait for a key are calls
that wait for it. -/
structure InTurn (state : AttachState) (holder : Uuid → Option ℕ) : Prop where
  serves : state.queue.Serves holder
  running : ∀ index call, state.calls[index]? = some call → call.phase.inTurn = true →
    holder call.orderId = some index
  waiting : ∀ orderId tickets, state.queue.lanes orderId = some tickets → ∀ ticket ∈ tickets,
    ∃ call, state.calls[ticket]? = some call ∧ call.orderId = orderId ∧ call.phase = .waiting

@[simp]
theorem put_getElem?_self {state : AttachState} {index : ℕ} {call next : AttachCall}
    (found : state.calls[index]? = some call) :
    (state.put index next).calls[index]? = some next := by
  have bound := (List.getElem?_eq_some_iff.mp found).1
  simp [put, bound]

@[simp]
theorem put_getElem?_other {state : AttachState} {index other : ℕ} {next : AttachCall}
    (differs : index ≠ other) :
    (state.put index next).calls[other]? = state.calls[other]? := by
  simp [put, differs]

theorem getElem?_append_singleton {calls : List AttachCall} {fresh call : AttachCall} {index : ℕ}
    (found : (calls ++ [fresh])[index]? = some call) :
    calls[index]? = some call ∨ call = fresh := by
  rw [List.getElem?_append] at found
  split at found
  · exact Or.inl found
  · right
    have mem := List.mem_of_getElem? found
    exact List.mem_singleton.mp mem

theorem afterTransaction_inTurn (call : AttachCall) (created : Option (List OrderFile)) :
    (afterTransaction call created).inTurn = false := by
  rcases afterTransaction_cases call created with phase | phase <;>
    simp [phase, AttachPhase.inTurn]

namespace InTurn

variable {clients : Uuid → Option Uuid} {state next : AttachState} {holder : Uuid → Option ℕ}
  {index : ℕ} {call after : AttachCall}

theorem not_mem_lane (turns : state.InTurn holder) (found : state.calls[index]? = some call)
    (awake : call.phase ≠ .waiting) {orderId : Uuid} {tickets : List ℕ}
    (lane : state.queue.lanes orderId = some tickets) {ticket : ℕ} (mem : ticket ∈ tickets) :
    ticket ≠ index := by
  rintro rfl
  rcases turns.waiting orderId tickets lane ticket mem with ⟨waiter, waiterFound, _, waits⟩
  rw [found] at waiterFound
  cases waiterFound
  exact awake waits

/-- A call that waits still waits after another one has moved. -/
theorem waits_put (turns : state.InTurn holder) {orderId : Uuid} {tickets : List ℕ}
    (lane : state.queue.lanes orderId = some tickets) {ticket : ℕ} (mem : ticket ∈ tickets)
    (differs : ticket ≠ index) :
    ∃ waiter, (state.put index after).calls[ticket]? = some waiter ∧
      waiter.orderId = orderId ∧ waiter.phase = .waiting := by
  rw [put_getElem?_other differs.symm]
  exact turns.waiting orderId tickets lane ticket mem

/-- A call that neither takes a turn nor stops waiting may move as it likes, and what is not of
the queue may change with it. -/
theorem moved (turns : state.InTurn holder) (found : state.calls[index]? = some call)
    (queue : next.queue = state.queue) (calls : next.calls = state.calls.set index after)
    (sameOrder : after.orderId = call.orderId)
    (runs : after.phase.inTurn = true → call.phase.inTurn = true)
    (awake : call.phase ≠ .waiting) : next.InTurn holder := by
  have isMoved : next.calls = (state.put index after).calls := calls
  constructor
  · rw [queue]
    exact turns.serves
  · intro other otherCall otherFound inTurn
    rw [calls] at otherFound
    rcases Rows.getElem?_set_cases otherFound with ⟨rfl, rfl⟩ | ⟨_, old⟩
    · rw [sameOrder]
      exact turns.running other call found (runs inTurn)
    · exact turns.running other otherCall old inTurn
  · intro orderId tickets lane ticket mem
    rw [queue] at lane
    rw [isMoved]
    exact turns.waits_put lane mem (turns.not_mem_lane found awake lane mem)

theorem quiet (turns : state.InTurn holder) (found : state.calls[index]? = some call)
    (move : QuietMove call after) : (state.put index after).InTurn holder := by
  refine turns.moved found rfl rfl ?_ ?_ ?_
  · cases move <;> rfl
  · cases move with
    | guarded phase => simp [phase, AttachPhase.inTurn]
    | rolledBack phase => rcases phase with phase | ⟨_, phase⟩ <;> simp [phase, AttachPhase.inTurn]
    | _ => simp [AttachPhase.inTurn]
  · cases move with
    | refused phase => rcases phase with phase | ⟨_, phase⟩ <;> simp [phase]
    | rolledBack phase => rcases phase with phase | ⟨_, phase⟩ <;> simp [phase]
    | deduplicated _ phase => simp [phase]
    | nothingFresh phase => simp [phase]
    | uploadFailed _ phase => simp [phase]
    | guarded phase => simp [phase]
    | cleanupFailed _ phase => simp [phase]

theorem started (turns : state.InTurn holder) (fresh : AttachCall)
    (phase : fresh.phase = .deduplicating) :
    ({ state with calls := state.calls ++ [fresh] } : AttachState).InTurn holder := by
  constructor
  · exact turns.serves
  · intro index call found inTurn
    rcases getElem?_append_singleton found with old | new
    · exact turns.running index call old inTurn
    · simp [new, phase, AttachPhase.inTurn] at inTurn
  · intro orderId tickets lane ticket mem
    rcases turns.waiting orderId tickets lane ticket mem with ⟨waiter, waiterFound, order, waits⟩
    have bound := (List.getElem?_eq_some_iff.mp waiterFound).1
    exact ⟨waiter, by simpa [List.getElem?_append_left bound] using waiterFound, order, waits⟩

theorem acquired (turns : state.InTurn holder) {queue : KeyedQueue Uuid ℕ}
    (found : state.calls[index]? = some call) (awake : call.phase ≠ .waiting)
    (acquired : state.queue.acquire call.orderId index = .ok (queue, .now)) :
    ({ state.put index { call with phase := .guarding } with queue } : AttachState).InTurn
      (Function.update holder call.orderId (some index)) := by
  rcases turns.serves.acquire_now acquired with ⟨free, rfl, serves⟩
  have idle := turns.serves.idle free
  constructor
  · exact serves
  · intro other otherCall otherFound inTurn
    rcases Rows.getElem?_set_cases otherFound with ⟨rfl, rfl⟩ | ⟨_, old⟩
    · simp
    · have held := turns.running other otherCall old inTurn
      have differs : otherCall.orderId ≠ call.orderId := by
        intro sameOrder
        rw [sameOrder, idle] at held
        cases held
      simpa [differs] using held
  · intro orderId tickets lane ticket mem
    by_cases same : orderId = call.orderId
    · subst same
      simp only [KeyedQueue.setLane_self, Option.some.injEq] at lane
      subst lane
      cases mem
    · simp only [KeyedQueue.setLane_other same] at lane
      exact turns.waits_put lane mem (turns.not_mem_lane found awake lane mem)

theorem queued (turns : state.InTurn holder) {queue : KeyedQueue Uuid ℕ}
    (found : state.calls[index]? = some call) (awake : call.phase ≠ .waiting)
    (acquired : state.queue.acquire call.orderId index = .ok (queue, .later)) :
    ({ state.put index { call with phase := .waiting } with queue } : AttachState).InTurn
      holder := by
  have absent : ∀ tickets, state.queue.lanes call.orderId = some tickets → index ∉ tickets := by
    intro tickets lane mem
    exact turns.not_mem_lane found awake lane mem rfl
  rcases turns.serves.acquire_later acquired absent with ⟨before, held, rfl, serves⟩
  constructor
  · exact serves
  · intro other otherCall otherFound inTurn
    rcases Rows.getElem?_set_cases otherFound with ⟨_, rfl⟩ | ⟨_, old⟩
    · cases inTurn
    · exact turns.running other otherCall old inTurn
  · intro orderId tickets lane ticket mem
    by_cases same : orderId = call.orderId
    · subst same
      simp only [KeyedQueue.setLane_self, Option.some.injEq] at lane
      subst lane
      rcases List.mem_append.mp mem with waits | last
      · exact turns.waits_put held waits (turns.not_mem_lane found awake held waits)
      · rw [List.mem_singleton.mp last]
        exact ⟨_, put_getElem?_self found, rfl, rfl⟩
    · simp only [KeyedQueue.setLane_other same] at lane
      exact turns.waits_put lane mem (turns.not_mem_lane found awake lane mem)

theorem timedOut (turns : state.InTurn holder) (found : state.calls[index]? = some call) :
    ({ state.put index { call with phase := .orphaned none } with
      queue := state.queue.timeOut call.orderId index } : AttachState).InTurn holder := by
  have distinct := turns.serves.distinct
  constructor
  · exact turns.serves.timeOut
  · intro other otherCall otherFound inTurn
    rcases Rows.getElem?_set_cases otherFound with ⟨_, rfl⟩ | ⟨_, old⟩
    · cases inTurn
    · exact turns.running other otherCall old inTurn
  · intro orderId tickets lane ticket mem
    by_cases same : orderId = call.orderId
    · subst same
      simp only [KeyedQueue.timeOut, KeyedQueue.setLane_self, Option.map_eq_some_iff] at lane
      rcases lane with ⟨before, held, rfl⟩
      rw [(distinct call.orderId before held).mem_erase_iff] at mem
      exact turns.waits_put held mem.2 mem.1
    · simp only [KeyedQueue.timeOut, KeyedQueue.setLane_other same] at lane
      apply turns.waits_put lane mem
      rintro rfl
      rcases turns.waiting orderId tickets lane ticket mem with ⟨waiter, waiterFound, order, _⟩
      rw [found] at waiterFound
      cases waiterFound
      exact same order.symm

/-- A call that passes its turn on moves, and so does the call that gets the turn, if one waits. -/
theorem leave_cases (turns : state.InTurn holder) (found : state.calls[index]? = some call)
    {created : Option (List OrderFile)} (phase : call.phase = .settled created) :
    (state.queue.release call.orderId).2 = none ∧
        state.leave index call =
          { state.put index { call with phase := afterTransaction call created } with
            queue := (state.queue.release call.orderId).1 } ∨
      ∃ ticket waiter, (state.queue.release call.orderId).2 = some ticket ∧ index ≠ ticket ∧
        state.calls[ticket]? = some waiter ∧ waiter.orderId = call.orderId ∧
        waiter.phase = .waiting ∧
        state.leave index call =
          { (state.put index { call with phase := afterTransaction call created }).put ticket
              { waiter with phase := .guarding } with
            queue := (state.queue.release call.orderId).1 } := by
  cases released : (state.queue.release call.orderId).2 with
  | none =>
      left
      simp only [leave, phase, released]
      exact ⟨trivial, rfl⟩
  | some ticket =>
      right
      rcases KeyedQueue.release_handed released with ⟨tickets, lane, mem⟩
      rcases turns.waiting call.orderId tickets lane ticket mem with
        ⟨waiter, waiterFound, order, isWaiting⟩
      have differs := (turns.not_mem_lane found (by simp [phase]) lane mem).symm
      refine ⟨ticket, waiter, rfl, differs, waiterFound, order, isWaiting, ?_⟩
      have here : (state.calls.set index { call with
          phase := afterTransaction call created })[ticket]? = some waiter := by
        simpa [differs] using waiterFound
      simp only [leave, phase, released, AttachState.put, Rows.modify_eq_set _ here]

theorem left (turns : state.InTurn holder) (found : state.calls[index]? = some call)
    {created : Option (List OrderFile)} (phase : call.phase = .settled created) :
    (state.leave index call).InTurn
      (Function.update holder call.orderId (state.queue.release call.orderId).2) := by
  have serves : (state.queue.release call.orderId).1.Serves
      (Function.update holder call.orderId (state.queue.release call.orderId).2) :=
    turns.serves.release
  have held := turns.running index call found (by rw [phase]; rfl)
  have others : ∀ other otherCall, other ≠ index → state.calls[other]? = some otherCall →
      otherCall.phase.inTurn = true →
      Function.update holder call.orderId (state.queue.release call.orderId).2
        otherCall.orderId = some other := by
    intro other otherCall differs otherFound inTurn
    have otherHeld := turns.running other otherCall otherFound inTurn
    have otherOrder : otherCall.orderId ≠ call.orderId := by
      intro sameOrder
      rw [sameOrder, held] at otherHeld
      exact differs (Option.some.inj otherHeld).symm
    simpa [otherOrder] using otherHeld
  rcases turns.leave_cases found phase with
    ⟨free, left⟩ | ⟨handed, waiter, isHanded, differs, waiterFound, order, waits, left⟩
  · rw [left]
    constructor
    · exact serves
    · intro other otherCall otherFound inTurn
      rcases Rows.getElem?_set_cases otherFound with ⟨_, rfl⟩ | ⟨away, old⟩
      · simp [afterTransaction_inTurn] at inTurn
      · exact others other otherCall away old inTurn
    · intro orderId tickets lane ticket mem
      rcases turns.serves.release_lanes lane with ⟨before, held, waited, _⟩
      exact turns.waits_put held (waited ticket mem)
        (turns.not_mem_lane found (by simp [phase]) held (waited ticket mem))
  · rw [left]
    constructor
    · exact serves
    · intro other otherCall otherFound inTurn
      rcases Rows.getElem?_set_cases otherFound with ⟨rfl, rfl⟩ | ⟨_, otherFound⟩
      · simp [order, isHanded]
      · rcases Rows.getElem?_set_cases otherFound with ⟨_, rfl⟩ | ⟨away, old⟩
        · simp [afterTransaction_inTurn] at inTurn
        · exact others other otherCall away old inTurn
    · intro orderId tickets lane ticket mem
      rcases turns.serves.release_lanes lane with ⟨before, held, waited, absent⟩
      have notHanded : handed ≠ ticket := by
        rintro rfl
        rcases turns.waiting orderId before held handed (waited handed mem) with
          ⟨other, otherFound, otherOrder, _⟩
        rw [waiterFound] at otherFound
        cases otherFound
        exact absent (otherOrder.symm.trans order) handed mem isHanded
      simp only [put_getElem?_other notHanded]
      exact turns.waits_put held (waited ticket mem)
        (turns.not_mem_lane found (by simp [phase]) held (waited ticket mem))

theorem changed (turns : state.InTurn holder) {label : AttachLabel}
    (change : AttachStep clients state label next) : ∃ holder, next.InTurn holder := by
  cases change with
  | started => exact ⟨holder, turns.started _ rfl⟩
  | quiet index action call moved found move => exact ⟨holder, turns.quiet found move⟩
  | acquired index call queue found phase acquired =>
      exact ⟨_, turns.acquired found (by simp [phase]) acquired⟩
  | queued index call queue found phase acquired =>
      exact ⟨_, turns.queued found (by simp [phase]) acquired⟩
  | timedOut index call found => exact ⟨_, turns.timedOut found⟩
  | left index call created found phase => exact ⟨_, turns.left found phase⟩
  | readBefore index call clientId readings scope found phase
  | readInside index call clientId readings scope found phase
  | reserved index call clientId readings usage found phase
  | uploaded index call uploaded key found phase
  | inserted index call environment readings usage found phase
  | foundOrphans index call created found phase
  | removed index call orphans created found phase
  | released index call clientId created found phase =>
      refine ⟨holder, turns.moved found rfl rfl rfl ?_ ?_⟩
      · simp [phase, AttachPhase.inTurn]
      · simp [phase]

theorem initial (rows : List OrderFile) (bucket : List String) :
    (AttachState.initial rows bucket).InTurn fun _ => none := by
  constructor
  · constructor
    · intro key
      rfl
    · intro key waiting lane
      cases lane
  · intro index call found
    cases found
  · intro orderId tickets lane
    cases lane

end InTurn

def TakesTurns (state : AttachState) : Prop := ∃ holder, state.InTurn holder

theorem TakesTurns.step {clients : Uuid → Option Uuid} {state : AttachState}
    (turns : state.TakesTurns) (label : AttachLabel) :
    (state.step clients label).TakesTurns := by
  apply step_rule turns
  · rcases turns with ⟨holder, turns⟩
    intro next change
    exact turns.changed change
  · rintro reached ⟨holder, turns⟩
    exact ⟨holder, turns.serves, turns.running, turns.waiting⟩

/-- Two calls on one order are never in their turn together. -/
theorem TakesTurns.sole {state : AttachState} (turns : state.TakesTurns) {first second : ℕ}
    {firstCall secondCall : AttachCall} (firstFound : state.calls[first]? = some firstCall)
    (secondFound : state.calls[second]? = some secondCall)
    (sameOrder : firstCall.orderId = secondCall.orderId)
    (firstRuns : firstCall.phase.inTurn = true) (secondRuns : secondCall.phase.inTurn = true) :
    first = second := by
  rcases turns with ⟨holder, turns⟩
  have firstHolds := turns.running first firstCall firstFound firstRuns
  have secondHolds := turns.running second secondCall secondFound secondRuns
  rw [sameOrder, secondHolds] at firstHolds
  exact (Option.some.inj firstHolds).symm

/-- What does not depend on the queue, and is kept when a call is done with its transaction and
when a waiting call gets its turn, is kept when the turn passes on. -/
theorem TakesTurns.leave_rule {state : AttachState} (turns : state.TakesTurns) {index : ℕ}
    {call : AttachCall} (found : state.calls[index]? = some call)
    {created : Option (List OrderFile)} (phase : call.phase = .settled created)
    {Holds : AttachState → Prop}
    (done : ∀ next, next = .orphaned created ∨ next = .releasing created →
      Holds (state.put index { call with phase := next }))
    (handed : ∀ (reached : AttachState) (ticket : ℕ) (waiter : AttachCall),
      reached.calls[ticket]? = some waiter → waiter.phase = .waiting → Holds reached →
      Holds (reached.put ticket { waiter with phase := .guarding }))
    (blind : ∀ (reached : AttachState) (queue : KeyedQueue Uuid ℕ), Holds reached →
      Holds { reached with queue }) : Holds (state.leave index call) := by
  rcases turns with ⟨holder, turns⟩
  have isDone := done _ (afterTransaction_cases call created)
  rcases turns.leave_cases found phase with
    ⟨_, left⟩ | ⟨ticket, waiter, _, differs, waiterFound, _, waits, left⟩
  · rw [left]
    exact blind _ _ isDone
  · rw [left]
    apply blind
    apply handed _ _ _ _ waits isDone
    rw [put_getElem?_other differs]
    exact waiterFound

end AttachState

end MyBuild
