import MyBuild.Library.Runs
import MyBuild.Realtime.Gateway

/-!
# A tab that follows an order

The tab refreshes its data on events, and after a connection that it has seen break; it joins
the room of the order on every connection.  The two go by their own timers and round trips,
and on the first connection there is no refresh at all.  Events and timers come in any order,
and so do the steps of the subscriptions on the server.

Two fields are no state of the code but record what has happened.  `broken` says that the
connection broke while the tab was bound, and is down since.  `unseen` lists the events by others
since the last refresh started, each with whether the tab was certain to learn of it.  At rest only
the others are left.
-/

namespace MyBuild

def roomRetryDelaysMs : List ℕ := [1000, 3000, 10000]

/-- The tab, the room of the server, and what is on its way between them.  A retry timer that
was overwritten runs on as one of `strayTimers`; `buffered` are the subscriptions emitted while
the socket was down. -/
structure OrderTab where
  connected : Bool
  bound : Bool
  missed : Bool
  refreshTimer : Bool
  attempt : ℕ
  retryTimer : Bool
  strayTimers : ℕ
  buffered : ℕ
  subscribing : List SubscribePhase
  acknowledged : Bool
  inRoom : Bool
  removed : Bool
  broken : Bool
  unseen : List Bool

/-- What happens to the tab.  `event` is an order event on behalf of somebody else; `addressed`
says whether it goes to the personal room of the user as well. -/
inductive TabLabel where
  | bind
  | connect
  | disconnect
  | event (addressed : Bool)
  | refreshFires
  | retryFires
  | strayFires
  | refuse (request : ℕ) (ack : SubscribeAck)
  | check (request : ℕ) (outcome : CheckOutcome)
  | join (request : ℕ)
  | leave (request : ℕ)
  | evict
  | acknowledge (request : ℕ)

namespace OrderTab

/-- A page just rendered, over a socket that is connected already or not yet. -/
def rendered (connected : Bool) : OrderTab :=
  { connected, bound := false, missed := false, refreshTimer := false, attempt := 0
    retryTimer := false, strayTimers := 0, buffered := 0, subscribing := []
    acknowledged := false, inRoom := false, removed := false, broken := false, unseen := [] }

variable (tab : OrderTab)

/-- `join` of `bindRoom`; what is emitted on a socket that is down waits for the connection. -/
def emitJoin : OrderTab :=
  if tab.connected then
    { tab with retryTimer := false, subscribing := tab.subscribing ++ [.checking] }
  else { tab with retryTimer := false, buffered := tab.buffered + 1 }

def bind : OrderTab :=
  if tab.bound then tab
  else if tab.connected then { tab with bound := true }.emitJoin
  else { tab with bound := true }

/-- `onConnect` of `bindRefresh`. -/
def refreshMissed : OrderTab :=
  if tab.bound && tab.missed then { tab with missed := false, refreshTimer := true } else tab

/-- The server knows nothing of the new connection; what was buffered is sent first. -/
def connect : OrderTab :=
  if tab.connected then tab
  else
    let fresh : OrderTab :=
      { tab with
        connected := true
        buffered := 0
        subscribing := List.replicate tab.buffered .checking
        acknowledged := false
        inRoom := false
        removed := false
        broken := false }
    if fresh.bound then { fresh.refreshMissed with attempt := 0 }.emitJoin else fresh

/-- With the connection go the room and the answers that were on their way. -/
def disconnect : OrderTab :=
  if tab.connected then
    { tab with
      connected := false
      missed := tab.bound || tab.missed
      subscribing := []
      acknowledged := false
      inRoom := false
      broken := tab.bound }
  else tab

def hears (addressed : Bool) : Bool :=
  tab.connected && tab.bound && (tab.inRoom || addressed)

/-- The tab is certain to learn of an event: it hears it, or has a refresh scheduled, or has seen
the connection break that is still down. -/
def learns (addressed : Bool) : Bool :=
  tab.hears addressed || tab.refreshTimer || tab.broken

def event (addressed : Bool) : OrderTab :=
  { tab with
    refreshTimer := tab.refreshTimer || tab.hears addressed
    unseen := tab.unseen ++ [tab.learns addressed] }

def setRequest (request : ℕ) (phase : SubscribePhase) : OrderTab :=
  { tab with subscribing := tab.subscribing.set request phase }

def refused (error : String) (retryable : Bool) : SubscribePhase :=
  .answered { ok := false, error := some error, retryable }

/-- A subscription is answered without a check: the rate, the token or its body is no good. -/
def refuse (request : ℕ) (ack : SubscribeAck) : OrderTab :=
  match tab.subscribing[request]? with
  | some .checking => if ack.ok then tab else tab.setRequest request (.answered ack)
  | _ => tab

def check (request : ℕ) (outcome : CheckOutcome) : OrderTab :=
  match tab.subscribing[request]?, outcome with
  | some .checking, .participant => tab.setRequest request .joining
  | some .checking, .stranger =>
      tab.setRequest request (refused OrderGateway.orderForbidden false)
  | some .rechecking, .participant =>
      tab.setRequest request (.answered { ok := true, error := none, retryable := false })
  | some .rechecking, .stranger => tab.setRequest request .leaving
  | some .checking, .throws =>
      tab.setRequest request (refused OrderGateway.subscribeFailed true)
  | some .rechecking, .throws =>
      tab.setRequest request (refused OrderGateway.subscribeFailed true)
  | _, _ => tab

def join (request : ℕ) : OrderTab :=
  match tab.subscribing[request]? with
  | some .joining => { tab.setRequest request .rechecking with inRoom := true }
  | _ => tab

def leave (request : ℕ) : OrderTab :=
  match tab.subscribing[request]? with
  | some .leaving =>
      { tab.setRequest request (refused OrderGateway.orderForbidden false) with
        inRoom := false, removed := true }
  | _ => tab

/-- A retry is scheduled as long as there are delays left; it takes the place of the one that
may be scheduled already. -/
def scheduleRetry : OrderTab :=
  if tab.attempt < roomRetryDelaysMs.length then
    { tab with
      attempt := tab.attempt + 1
      retryTimer := true
      strayTimers := tab.strayTimers + if tab.retryTimer then 1 else 0 }
  else tab

def acknowledge (request : ℕ) : OrderTab :=
  match tab.subscribing[request]? with
  | some (.answered ack) =>
      let answered := { tab with subscribing := tab.subscribing.eraseIdx request }
      if ack.ok then { answered with attempt := 0, acknowledged := true }
      else if ack.retryable then answered.scheduleRetry
      else answered
  | _ => tab

def step (tab : OrderTab) : TabLabel → OrderTab
  | .bind => tab.bind
  | .connect => tab.connect
  | .disconnect => tab.disconnect
  | .event addressed => tab.event addressed
  | .refreshFires =>
      if tab.refreshTimer then { tab with refreshTimer := false, unseen := [] } else tab
  | .retryFires => if tab.retryTimer then tab.emitJoin else tab
  | .strayFires =>
      if 0 < tab.strayTimers then { tab with strayTimers := tab.strayTimers - 1 }.emitJoin else tab
  | .refuse request ack => tab.refuse request ack
  | .check request outcome => tab.check request outcome
  | .join request => tab.join request
  | .leave request => tab.leave request
  | .evict => { tab with inRoom := false, removed := true }
  | .acknowledge request => tab.acknowledge request

/-- The tab is connected, its room is acknowledged, and no timer or subscription is pending. -/
structure AtRest (tab : OrderTab) : Prop where
  connected : tab.connected = true
  acknowledged : tab.acknowledged = true
  noRefresh : tab.refreshTimer = false
  noRetry : tab.retryTimer = false ∧ tab.strayTimers = 0
  noRequest : tab.subscribing = []

/-- A refresh is scheduled, or comes with the next connection. -/
def refreshOwed (tab : OrderTab) : Bool :=
  tab.refreshTimer || (tab.bound && tab.missed && !tab.connected)

/-- An update the tab was certain to learn of is followed by a refresh, for which a broken
connection is remembered, and what the server has acknowledged it still knows. -/
structure Consistent (tab : OrderTab) : Prop where
  owed : true ∈ tab.unseen → tab.refreshOwed = true
  remembered : tab.broken = true → (tab.bound && tab.missed && !tab.connected) = true
  acknowledged : tab.acknowledged = true → tab.inRoom = true ∨ tab.removed = true
  joined : ∀ phase ∈ tab.subscribing, phase.hasJoined = true →
    tab.inRoom = true ∨ tab.removed = true

namespace Consistent

variable {tab : OrderTab}

theorem rendered (connected : Bool) : (OrderTab.rendered connected).Consistent := by
  constructor <;> simp [OrderTab.rendered]

theorem emitJoin (consistent : tab.Consistent) : tab.emitJoin.Consistent := by
  rcases consistent with ⟨owed, remembered, acknowledged, joined⟩
  simp only [OrderTab.emitJoin]
  split
  · refine ⟨owed, remembered, acknowledged, fun phase mem hasJoined => ?_⟩
    rcases List.mem_append.mp mem with old | new
    · exact joined phase old hasJoined
    · rw [List.mem_singleton.mp new] at hasJoined
      cases hasJoined
  · exact ⟨owed, remembered, acknowledged, joined⟩

theorem bind (consistent : tab.Consistent) : tab.bind.Consistent := by
  simp only [OrderTab.bind]
  split
  · exact consistent
  · rename_i notBound
    have bound : ({ tab with bound := true } : OrderTab).Consistent := by
      refine ⟨fun mem => ?_, fun broken => ?_, consistent.acknowledged, consistent.joined⟩
      · have owed := consistent.owed mem
        simp only [refreshOwed, notBound, Bool.false_and, Bool.or_false] at owed ⊢
        simp [owed]
      · have remembered := consistent.remembered broken
        simp [notBound] at remembered
    split
    · exact bound.emitJoin
    · exact bound

theorem connect (consistent : tab.Consistent) : tab.connect.Consistent := by
  have owed : true ∈ tab.unseen → (tab.refreshTimer || tab.bound && tab.missed) = true := by
    intro mem
    have owed := consistent.owed mem
    simp only [refreshOwed, Bool.or_eq_true, Bool.and_eq_true] at owed ⊢
    exact owed.imp_right And.left
  have buffered : ∀ phase ∈ List.replicate tab.buffered SubscribePhase.checking,
      phase.hasJoined = true → false = true ∨ false = true := by
    intro phase mem hasJoined
    rw [List.eq_of_mem_replicate mem] at hasJoined
    cases hasJoined
  simp only [OrderTab.connect]
  split
  · exact consistent
  · split
    · rename_i bound
      apply emitJoin
      simp only [refreshMissed, bound, Bool.true_and]
      split
      · exact ⟨by simp [refreshOwed], Bool.noConfusion, Bool.noConfusion, buffered⟩
      · rename_i notMissed
        refine ⟨fun mem => ?_, Bool.noConfusion, Bool.noConfusion, buffered⟩
        have timer := owed mem
        simp only [bound, Bool.true_and] at timer notMissed
        simpa [refreshOwed, notMissed] using timer
    · rename_i notBound
      refine ⟨fun mem => ?_, Bool.noConfusion, Bool.noConfusion, buffered⟩
      have timer := owed mem
      simp only [notBound, Bool.false_and, Bool.or_false] at timer
      simp [refreshOwed, timer]

theorem disconnect (consistent : tab.Consistent) : tab.disconnect.Consistent := by
  simp only [OrderTab.disconnect]
  split
  · rename_i connected
    refine ⟨fun mem => ?_, fun broken => ?_, Bool.noConfusion, by simp⟩
    · have owed := consistent.owed mem
      simp only [refreshOwed, connected, Bool.not_true, Bool.and_false, Bool.or_false] at owed ⊢
      simp [owed]
    · have bound : tab.bound = true := broken
      simp [bound]
  · exact consistent

theorem event (consistent : tab.Consistent) (addressed : Bool) :
    (tab.event addressed).Consistent := by
  refine ⟨fun mem => ?_, consistent.remembered, consistent.acknowledged, consistent.joined⟩
  have owed : tab.hears addressed = true ∨ tab.refreshOwed = true := by
    rcases List.mem_append.mp mem with old | new
    · exact Or.inr (consistent.owed old)
    · have learns := (List.mem_singleton.mp new).symm
      simp only [OrderTab.learns, Bool.or_eq_true] at learns
      rcases learns with (hears | timer) | broken
      · exact Or.inl hears
      · exact Or.inr (by simp [refreshOwed, timer])
      · exact Or.inr (by rw [refreshOwed, consistent.remembered broken, Bool.or_true])
  rcases owed with hears | owed
  · simp [refreshOwed, OrderTab.event, hears]
  · simp only [refreshOwed, OrderTab.event, Bool.or_eq_true] at owed ⊢
    rcases owed with timer | missed
    · exact Or.inl (Or.inl timer)
    · exact Or.inr missed

/-- A subscription moves on, with the socket in the room if it has joined. -/
theorem setRequest (consistent : tab.Consistent) {request : ℕ} {phase : SubscribePhase}
    (joined : phase.hasJoined = true → tab.inRoom = true ∨ tab.removed = true) :
    (tab.setRequest request phase).Consistent := by
  refine ⟨consistent.owed, consistent.remembered, consistent.acknowledged,
    fun other mem hasJoined => ?_⟩
  rcases List.mem_or_eq_of_mem_set mem with old | rfl
  · exact consistent.joined other old hasJoined
  · exact joined hasJoined

theorem check (consistent : tab.Consistent) (request : ℕ) (outcome : CheckOutcome) :
    (tab.check request outcome).Consistent := by
  simp only [OrderTab.check]
  split
  case h_3 found =>
      exact consistent.setRequest fun _ => consistent.joined _ (List.mem_of_getElem? found) rfl
  case h_4 found =>
      exact consistent.setRequest fun _ => consistent.joined _ (List.mem_of_getElem? found) rfl
  case h_7 => exact consistent
  all_goals exact consistent.setRequest fun hasJoined => Bool.noConfusion hasJoined

theorem refuse (consistent : tab.Consistent) (request : ℕ) (ack : SubscribeAck) :
    (tab.refuse request ack).Consistent := by
  simp only [OrderTab.refuse]
  split
  · split
    · exact consistent
    · rename_i notOk
      exact consistent.setRequest fun hasJoined => absurd hasJoined notOk
  · exact consistent

theorem join (consistent : tab.Consistent) (request : ℕ) : (tab.join request).Consistent := by
  simp only [OrderTab.join]
  split
  · exact ⟨consistent.owed, consistent.remembered, fun _ => Or.inl rfl, fun _ _ _ => Or.inl rfl⟩
  · exact consistent

theorem leave (consistent : tab.Consistent) (request : ℕ) : (tab.leave request).Consistent := by
  simp only [OrderTab.leave]
  split
  · exact ⟨consistent.owed, consistent.remembered, fun _ => Or.inr rfl, fun _ _ _ => Or.inr rfl⟩
  · exact consistent

theorem acknowledge (consistent : tab.Consistent) (request : ℕ) :
    (tab.acknowledge request).Consistent := by
  have fewer : ∀ phase ∈ tab.subscribing.eraseIdx request, phase.hasJoined = true →
      tab.inRoom = true ∨ tab.removed = true :=
    fun phase mem => consistent.joined phase (List.mem_of_mem_eraseIdx mem)
  simp only [OrderTab.acknowledge]
  split
  · rename_i ack found
    split
    · rename_i isOk
      have known := consistent.joined _ (List.mem_of_getElem? found) isOk
      exact ⟨consistent.owed, consistent.remembered, fun _ => known, fewer⟩
    · split
      · simp only [scheduleRetry]
        split <;>
          exact ⟨consistent.owed, consistent.remembered, consistent.acknowledged, fewer⟩
      · exact ⟨consistent.owed, consistent.remembered, consistent.acknowledged, fewer⟩
  · exact consistent

theorem step (consistent : tab.Consistent) (label : TabLabel) : (tab.step label).Consistent := by
  cases label with
  | bind => exact consistent.bind
  | connect => exact consistent.connect
  | disconnect => exact consistent.disconnect
  | event addressed => exact consistent.event addressed
  | refreshFires =>
      simp only [OrderTab.step]
      split
      · refine ⟨by simp, ?_, consistent.acknowledged, consistent.joined⟩
        exact consistent.remembered
      · exact consistent
  | retryFires =>
      simp only [OrderTab.step]
      split
      · exact consistent.emitJoin
      · exact consistent
  | strayFires =>
      simp only [OrderTab.step]
      split
      · have fewer : ({ tab with strayTimers := tab.strayTimers - 1 } : OrderTab).Consistent :=
          ⟨consistent.owed, consistent.remembered, consistent.acknowledged, consistent.joined⟩
        exact fewer.emitJoin
      · exact consistent
  | refuse request ack => exact consistent.refuse request ack
  | check request outcome => exact consistent.check request outcome
  | join request => exact consistent.join request
  | leave request => exact consistent.leave request
  | evict =>
      exact ⟨consistent.owed, consistent.remembered, fun _ => Or.inr rfl,
        fun _ _ _ => Or.inr rfl⟩
  | acknowledge request => exact consistent.acknowledge request

end Consistent

end OrderTab

/-- The steps of a subscription that is let in. -/
def exampleLetIn : List TabLabel :=
  [.check 0 .participant, .join 0, .check 0 .participant, .acknowledge 0]

end MyBuild
