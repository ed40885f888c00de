import MyBuild.Library.Runs
import MyBuild.Realtime.Gateway

/-!
# A tab bound to a room

The tab asks for its room on every connection and asks again some time after a refusal that
may pass.  The answers come whenever they come: several requests may be on their way, and
they outlive the binding.  The binding remembers one timer, the last one it has started.
-/

namespace MyBuild

structure RoomBinding where
  subscribe : String
  unsubscribe : String
  payload : List (String × String)
  retryDelays : List ℕ

inductive RoomMessage where
  | subscribe (event : String) (payload : List (String × String))
  | unsubscribe (event : String) (payload : List (String × String))
  deriving DecidableEq

def RoomMessage.isSubscribe : RoomMessage → Bool
  | .subscribe .. => true
  | .unsubscribe .. => false

structure RetryTimer where
  id : ℕ
  delay : ℕ
  deriving DecidableEq

/-- The variables of one `bindRoom`, the timers it has scheduled and the requests that wait for
an answer; `bound` as long as it listens to the socket. -/
structure BoundRoom where
  connected : Bool
  bound : Bool
  attempt : ℕ
  timer : Option ℕ
  scheduled : List RetryTimer
  startedTimers : ℕ
  waiting : List ℕ
  sentRequests : ℕ
  sent : List RoomMessage
  warnings : List String

/-- What happens to the binding; `none` is an answer without content. -/
inductive RoomLabel where
  | connect
  | disconnect
  | acknowledge (request : ℕ) (ack : Option SubscribeAck)
  | fire (timer : ℕ)
  | unbind

namespace BoundRoom

variable (binding : RoomBinding) (room : BoundRoom)

def clearRetry : BoundRoom :=
  match room.timer with
  | none => room
  | some timer =>
      { room with scheduled := room.scheduled.filter (·.id != timer), timer := none }

def join : BoundRoom :=
  let cleared := room.clearRetry
  { cleared with
    waiting := cleared.waiting ++ [cleared.sentRequests]
    sentRequests := cleared.sentRequests + 1
    sent := cleared.sent ++ [.subscribe binding.subscribe binding.payload] }

/-- The answer leaves room for another attempt: there was none, or it says so. -/
def mayRetry : Option SubscribeAck → Bool
  | none => true
  | some ack => !ack.ok && ack.retryable

def scheduleRetry : BoundRoom :=
  match binding.retryDelays[room.attempt]? with
  | none => room
  | some delay =>
      { room with
        attempt := room.attempt + 1
        timer := some room.startedTimers
        scheduled := room.scheduled ++ [{ id := room.startedTimers, delay }]
        startedTimers := room.startedTimers + 1 }

def acknowledged (ack : Option SubscribeAck) : BoundRoom :=
  if ack.any (·.ok) then { room with attempt := 0 }
  else
    let warned := { room with
      warnings := room.warnings ++ [(ack.bind (·.error)).getD "в комнату не пустили"] }
    if mayRetry ack then warned.scheduleRetry binding else warned

/-- The request has its answer and waits for no other. -/
def received (request : ℕ) : BoundRoom :=
  { room with waiting := room.waiting.filter (· != request) }

def onConnect : BoundRoom :=
  { room with attempt := 0 }.join binding

def unbind : BoundRoom :=
  let cleared := { room.clearRetry with bound := false }
  if cleared.connected then
    { cleared with sent := cleared.sent ++ [.unsubscribe binding.unsubscribe binding.payload] }
  else cleared

def step (room : BoundRoom) : RoomLabel → BoundRoom
  | .connect =>
      if room.connected then room
      else
        let connected := { room with connected := true }
        if room.bound then connected.onConnect binding else connected
  | .disconnect => { room with connected := false }
  | .acknowledge request ack =>
      if request ∈ room.waiting then (room.received request).acknowledged binding ack else room
  | .fire timer =>
      if room.scheduled.any (·.id == timer) then
        { room with scheduled := room.scheduled.filter (·.id != timer) }.join binding
      else room
  | .unbind => room.unbind binding

/-- The state `bindRoom` leaves behind. -/
def bindRoom (connected : Bool) : BoundRoom :=
  let listening : BoundRoom :=
    { connected, bound := true, attempt := 0, timer := none, scheduled := [], startedTimers := 0
      waiting := [], sentRequests := 0, sent := [], warnings := [] }
  if connected then listening.join binding else listening

def subscribes : ℕ :=
  room.sent.countP RoomMessage.isSubscribe

/-- After the call that unbinds nothing is subscribed, and no timer is left. -/
def QuietAfterUnbind (start : BoundRoom) (labels : List RoomLabel) : Prop :=
  ∀ before between after, labels = before ++ .unbind :: between ++ after →
    let reached := Runs.run (step binding) start (before ++ .unbind :: between)
    reached.subscribes = (Runs.run (step binding) start before).subscribes ∧
      reached.scheduled = []

/-- The binding is undone when the timer it remembers is the only one, and what is answered
afterwards starts no other. -/
def Settled (room : BoundRoom) : RoomLabel → Prop
  | .unbind => ∀ timer ∈ room.scheduled, room.timer = some timer.id
  | .acknowledge request ack => room.bound = false → request ∈ room.waiting →
      mayRetry ack = true → binding.retryDelays.length ≤ room.attempt
  | _ => True

variable {binding room}

@[simp]
theorem bound_clearRetry : room.clearRetry.bound = room.bound := by
  cases remembered : room.timer <;> simp [clearRetry, remembered]

@[simp]
theorem sent_clearRetry : room.clearRetry.sent = room.sent := by
  cases remembered : room.timer <;> simp [clearRetry, remembered]

theorem scheduled_clearRetry : room.clearRetry.scheduled =
    room.scheduled.filter (fun timer => room.timer ≠ some timer.id) := by
  cases remembered : room.timer with
  | none => simp [clearRetry, remembered]
  | some timer =>
      simp only [clearRetry, remembered]
      apply List.filter_congr
      intro other _
      simp [bne, beq_eq_decide, eq_comm]

theorem clearRetry_eq_nil_iff : room.clearRetry.scheduled = [] ↔
    ∀ timer ∈ room.scheduled, room.timer = some timer.id := by
  simp [scheduled_clearRetry]

theorem scheduled_unbind : (room.unbind binding).scheduled = room.clearRetry.scheduled := by
  simp only [unbind]
  split <;> rfl

theorem bound_unbind : (room.unbind binding).bound = false := by
  simp only [unbind]
  split <;> rfl

theorem subscribes_unbind : (room.unbind binding).subscribes = room.subscribes := by
  simp only [unbind]
  split <;> simp [subscribes, RoomMessage.isSubscribe]

theorem bound_acknowledged (ack : Option SubscribeAck) :
    (room.acknowledged binding ack).bound = room.bound ∧
      (room.acknowledged binding ack).sent = room.sent := by
  simp only [acknowledged, scheduleRetry]
  split
  · exact ⟨rfl, rfl⟩
  · split
    · split <;> exact ⟨rfl, rfl⟩
    · exact ⟨rfl, rfl⟩

/-- An answer starts a timer when it leaves room for another attempt and a delay is left. -/
theorem scheduled_acknowledged (ack : Option SubscribeAck) :
    (room.acknowledged binding ack).scheduled = room.scheduled ↔
      (mayRetry ack = true → binding.retryDelays.length ≤ room.attempt) := by
  simp only [acknowledged, scheduleRetry]
  by_cases accepted : ack.any (·.ok) = true
  · have final : mayRetry ack = false := by
      cases ack with
      | none => simp at accepted
      | some ack => simp_all [mayRetry]
    simp [accepted, final]
  · rw [if_neg accepted]
    by_cases retried : mayRetry ack = true
    · rw [if_pos retried]
      cases delay : binding.retryDelays[room.attempt]? with
      | none => simpa [retried] using List.getElem?_eq_none_iff.mp delay
      | some delay =>
          have bound := (List.getElem?_eq_some_iff.mp delay).1
          simp [retried, bound]
    · simp [retried]

/-- Undone, and nothing scheduled: the states in which a closed page should be. -/
def Closed (room : BoundRoom) : Prop :=
  room.bound = false ∧ room.scheduled = []

theorem Closed.step (closed : room.Closed) {label : RoomLabel}
    (settled : Settled binding room label) :
    (room.step binding label).Closed ∧
      (room.step binding label).subscribes = room.subscribes := by
  rcases closed with ⟨unbound, none⟩
  cases label with
  | connect =>
      simp only [BoundRoom.step, unbound, Bool.false_eq_true, if_false]
      split
      · exact ⟨⟨unbound, none⟩, rfl⟩
      · exact ⟨⟨rfl, none⟩, rfl⟩
  | disconnect => exact ⟨⟨unbound, none⟩, rfl⟩
  | acknowledge request ack =>
      simp only [BoundRoom.step]
      by_cases waits : request ∈ room.waiting
      · rw [if_pos waits]
        have kept := @bound_acknowledged binding (room.received request) ack
        have quiet := (@scheduled_acknowledged binding (room.received request) ack).mpr
          (settled unbound waits)
        exact ⟨⟨kept.1.trans unbound, quiet.trans none⟩,
          congrArg (List.countP RoomMessage.isSubscribe) kept.2⟩
      · rw [if_neg waits]
        exact ⟨⟨unbound, none⟩, rfl⟩
  | fire timer =>
      have absent : ¬room.scheduled.any (·.id == timer) = true := by simp [none]
      simp only [BoundRoom.step]
      rw [if_neg absent]
      exact ⟨⟨unbound, none⟩, rfl⟩
  | unbind =>
      simp only [BoundRoom.step]
      refine ⟨⟨bound_unbind, ?_⟩, subscribes_unbind⟩
      rw [scheduled_unbind, clearRetry_eq_nil_iff]
      exact settled

theorem Closed.run {labels : List RoomLabel} (closed : room.Closed)
    (settled : Runs.Along (BoundRoom.step binding) (Settled binding) room labels) :
    (Runs.run (BoundRoom.step binding) room labels).Closed ∧
      (Runs.run (BoundRoom.step binding) room labels).subscribes = room.subscribes := by
  induction labels generalizing room with
  | nil => exact ⟨closed, rfl⟩
  | cons label labels ih =>
      rcases closed.step settled.1 with ⟨stillClosed, same⟩
      rcases ih stillClosed settled.2 with ⟨reached, sameAfter⟩
      exact ⟨reached, sameAfter.trans same⟩

theorem closed_unbind (settled : Settled binding room .unbind) : (room.unbind binding).Closed := by
  refine ⟨bound_unbind, ?_⟩
  rw [scheduled_unbind, clearRetry_eq_nil_iff]
  exact settled

theorem bound_join : (room.join binding).bound = room.bound := by
  simp [join]

/-- Only the call that unbinds ends the binding. -/
theorem bound_step {label : RoomLabel} (notUnbind : label ≠ .unbind) :
    (room.step binding label).bound = room.bound := by
  cases label with
  | connect =>
      simp only [step, onConnect]
      split
      · rfl
      · split
        · exact bound_join
        · rfl
  | disconnect => rfl
  | acknowledge request ack =>
      simp only [step]
      split
      · exact (bound_acknowledged ack).1
      · rfl
  | fire timer =>
      simp only [step]
      split
      · exact bound_join
      · rfl
  | unbind => exact absurd rfl notUnbind

theorem unbind_mem_of_unbound {labels : List RoomLabel} (bound : room.bound = true)
    (unbound : (Runs.run (step binding) room labels).bound = false) : .unbind ∈ labels := by
  induction labels generalizing room with
  | nil => simp [bound] at unbound
  | cons label labels ih =>
      by_cases isUnbind : label = .unbind
      · exact List.mem_cons.mpr (Or.inl isUnbind.symm)
      · exact List.mem_cons_of_mem _ (ih ((bound_step isUnbind).trans bound) unbound)

theorem bound_bindRoom (connected : Bool) : (bindRoom binding connected).bound = true := by
  cases connected <;> simp [bindRoom, join]

/-- A closed page stays out of its room exactly when, at the call that unbinds, no timer is
scheduled but the remembered one, and no later answer starts a timer. -/
theorem quietAfterUnbind_iff (binding : RoomBinding) (connected : Bool)
    (labels : List RoomLabel) :
    QuietAfterUnbind binding (bindRoom binding connected) labels ↔
      Runs.Along (step binding) (Settled binding) (bindRoom binding connected) labels := by
  constructor
  · intro quiet
    rw [Runs.along_iff_forall_cut]
    rintro before label after rfl
    cases label with
    | connect => trivial
    | disconnect => trivial
    | acknowledge request ack =>
        intro unbound waits
        rcases List.append_of_mem (unbind_mem_of_unbound (bound_bindRoom connected) unbound) with
          ⟨first, between, rfl⟩
        have none := (quiet first between (.acknowledge request ack :: after) (by simp)).2
        have noneAfter := (quiet first (between ++ [.acknowledge request ack]) after (by simp)).2
        rw [← List.cons_append, ← List.append_assoc, Runs.run_append, Runs.run_cons, Runs.run_nil,
          step, if_pos waits] at noneAfter
        exact (@scheduled_acknowledged binding (received _ request) ack).mp
          (noneAfter.trans none.symm)
    | fire timer => trivial
    | unbind =>
        have cleared := (quiet before [] after (by simp)).2
        rw [Runs.run_append, Runs.run_cons, Runs.run_nil, step, scheduled_unbind,
          clearRetry_eq_nil_iff] at cleared
        exact cleared
  · intro settled
    rintro before between after rfl
    rw [List.append_assoc, Runs.Along.append] at settled
    have later := (Runs.Along.append.mp settled.2.2).1
    rcases (closed_unbind settled.2.1).run later with ⟨closed, same⟩
    simp only [Runs.run_append, Runs.run_cons, step]
    exact ⟨same.trans subscribes_unbind, closed.2⟩

/-- The room of an order, with the pauses of the source. -/
def exampleBinding : RoomBinding :=
  { subscribe := "subscribe:order", unsubscribe := "unsubscribe:order"
    payload := [("orderId", "42")], retryDelays := [1000, 3000, 10000] }

/-- The refusal comes after the page was closed; the retry asks for the room again. -/
theorem not_quietAfterUnbind_late_refusal :
    ¬∀ (binding : RoomBinding) (connected : Bool) (labels : List RoomLabel),
      QuietAfterUnbind binding (bindRoom binding connected) labels := by
  intro quiet
  have late := (quiet exampleBinding true
    [.unbind, .acknowledge 0 (some { ok := false, error := none, retryable := true }), .fire 0]
    [] [.acknowledge 0 (some { ok := false, error := none, retryable := true }), .fire 0] []
    rfl).1
  exact absurd late (by decide)

end BoundRoom

end MyBuild
