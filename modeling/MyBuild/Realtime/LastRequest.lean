import MyBuild.Realtime.Gateway

/-!
# The last request for a room

A page that opens subscribes to the room of its order, and one that closes unsubscribes.  A
subscription waits for the database before it joins; an unsubscription leaves at once.  So one
that overtakes a subscription is forgotten, and the socket joins the room it has asked to
leave.
-/

namespace MyBuild

inductive RoomRequest where
  | subscribe
  | unsubscribe
  deriving DecidableEq

/-- What a step has the socket ask for, as to the room of the order. -/
def GatewayLabel.roomRequest (socket : ℕ) (orderId : Uuid) : GatewayLabel → Option RoomRequest
  | .subscribeOrder sender _ _ body =>
      if sender = socket ∧ body = some orderId then some .subscribe else none
  | .unsubscribeOrder sender _ body =>
      if sender = socket ∧ body = some orderId then some .unsubscribe else none
  | _ => none

def lastRequest (socket : ℕ) (orderId : Uuid) (labels : List GatewayLabel) : Option RoomRequest :=
  (labels.filterMap (GatewayLabel.roomRequest socket orderId)).getLast?

/-- The subscription is still to join the room, if it is not refused. -/
def SubscribePhase.isWaiting : SubscribePhase → Bool
  | .checking | .joining => true
  | _ => false

def SubscribeCall.IsFor (call : SubscribeCall) (socket : ℕ) (orderId : Uuid) : Prop :=
  call.socket = socket ∧ call.body = some orderId

instance (call : SubscribeCall) (socket : ℕ) (orderId : Uuid) :
    Decidable (call.IsFor socket orderId) :=
  inferInstanceAs (Decidable (_ ∧ _))

namespace OrderGateway

/-- A subscription of the socket to the order has yet to join. -/
def Waiting (gateway : OrderGateway) (socket : ℕ) (orderId : Uuid) : Prop :=
  ∃ call ∈ gateway.calls, call.IsFor socket orderId ∧ call.phase.isWaiting = true

/-- Every subscription of the socket to the order is answered. -/
def AtRest (gateway : OrderGateway) (socket : ℕ) (orderId : Uuid) : Prop :=
  ∀ call ∈ gateway.calls, call.IsFor socket orderId → call.phase.isAnswered = true

instance (gateway : OrderGateway) (socket : ℕ) (orderId : Uuid) :
    Decidable (gateway.AtRest socket orderId) :=
  inferInstanceAs (Decidable (∀ call ∈ gateway.calls, call.IsFor socket orderId →
    call.phase.isAnswered = true))

/-- The socket is in the room or on its way there. -/
def Engaged (gateway : OrderGateway) (socket : ℕ) (orderId : Uuid) : Prop :=
  gateway.Waiting socket orderId ∨ gateway.inRoom socket (.order orderId) = true

/-- The socket stays connected and within its message rate, its user stays a participant of the
order, and the database answers. -/
def Undisturbed (socket : ℕ) (orderId : Uuid) (gateway : OrderGateway) : GatewayLabel → Prop
  | .disconnect other => other ≠ socket
  | .subscribeOrder sender allowed expired _ =>
      sender = socket → allowed = true ∧ expired = false
  | .unsubscribeOrder sender allowed _ => sender = socket → allowed = true
  | .check index outcome => ∀ call ∈ gateway.calls[index]?, call.IsFor socket orderId →
      outcome = .participant
  | .dispatch index => ∀ evictions ∈ gateway.pending[index]?, ∀ eviction ∈ evictions,
      eviction.room = .order orderId → gateway.inRoom socket eviction.members = false
  | _ => True

/-- The socket is connected, and no subscription of it is on its way out of the room. -/
structure Attended (gateway : OrderGateway) (socket : ℕ) (orderId : Uuid) : Prop where
  connected : gateway.isConnected socket = true
  unrefused : ∀ call ∈ gateway.calls, call.IsFor socket orderId → call.phase ≠ .leaving

section

variable {gateway : OrderGateway} {socket other index : ℕ} {orderId : Uuid}
  {call : SubscribeCall} {phase : SubscribePhase}

theorem mem_setPhase (moved : SubscribeCall) :
    moved ∈ (gateway.setPhase index phase).calls ↔
      ∃ (position : ℕ) (call : SubscribeCall), gateway.calls[position]? = some call ∧
        moved = if index = position then { call with phase } else call := by
  rw [List.mem_iff_getElem?]
  constructor
  · rintro ⟨position, found⟩
    rw [getElem?_setPhase] at found
    split at found
    · rename_i same
      rcases Option.map_eq_some_iff.mp found with ⟨call, callFound, rfl⟩
      exact ⟨position, call, callFound, by rw [if_pos same]⟩
    · rename_i differs
      exact ⟨position, moved, found, by rw [if_neg differs]⟩
  · rintro ⟨position, call, found, rfl⟩
    refine ⟨position, ?_⟩
    rw [getElem?_setPhase, found]
    split <;> rfl

/-- A subscription that waits as before, or has nothing to do with the room, moves on. -/
theorem waiting_setPhase (found : gateway.calls[index]? = some call)
    (same : call.IsFor socket orderId → phase.isWaiting = call.phase.isWaiting) :
    (gateway.setPhase index phase).Waiting socket orderId ↔ gateway.Waiting socket orderId := by
  constructor
  · rintro ⟨moved, mem, isFor, waits⟩
    rcases (mem_setPhase moved).mp mem with ⟨position, old, oldFound, rfl⟩
    split at isFor
    · rename_i isIndex
      rw [← isIndex, found] at oldFound
      cases oldFound
      rw [if_pos isIndex] at waits
      exact ⟨call, List.mem_of_getElem? found, isFor, (same isFor).symm.trans waits⟩
    · rename_i differs
      rw [if_neg differs] at waits
      exact ⟨old, List.mem_of_getElem? oldFound, isFor, waits⟩
  · rintro ⟨old, mem, isFor, waits⟩
    rcases List.mem_iff_getElem?.mp mem with ⟨position, oldFound⟩
    refine ⟨_, (mem_setPhase _).mpr ⟨position, old, oldFound, rfl⟩, ?_⟩
    split
    · rename_i isIndex
      rw [← isIndex, found] at oldFound
      cases oldFound
      exact ⟨isFor, (same isFor).trans waits⟩
    · exact ⟨isFor, waits⟩

theorem unrefused_setPhase (found : gateway.calls[index]? = some call)
    (stays : call.IsFor socket orderId → phase ≠ .leaving)
    (attended : gateway.Attended socket orderId) :
    (gateway.setPhase index phase).Attended socket orderId := by
  refine ⟨attended.connected, ?_⟩
  intro moved mem isFor
  rcases (mem_setPhase moved).mp mem with ⟨position, old, oldFound, rfl⟩
  split at isFor
  · rename_i isIndex
    rw [← isIndex, found] at oldFound
    cases oldFound
    rw [if_pos isIndex]
    exact stays isFor
  · rename_i differs
    rw [if_neg differs]
    exact attended.unrefused old (List.mem_of_getElem? oldFound) isFor

/-- What takes no membership of the socket away leaves it where it is. -/
theorem inRoom_filter {keep : Membership → Bool}
    (kept : ∀ member ∈ gateway.members, member.socket = socket → member.orderId = orderId →
      keep member = true) :
    ({ gateway with members := gateway.members.filter keep } : OrderGateway).inRoom socket
      (.order orderId) = gateway.inRoom socket (.order orderId) := by
  rw [Bool.eq_iff_iff]
  simp only [inRoom, List.any_eq_true, List.mem_filter, Bool.and_eq_true, beq_iff_eq]
  constructor
  · rintro ⟨member, ⟨mem, _⟩, isHere⟩
    exact ⟨member, mem, isHere⟩
  · rintro ⟨member, mem, isSocket, isOrder⟩
    exact ⟨member, ⟨mem, kept member mem isSocket isOrder⟩, isSocket, isOrder⟩

theorem inRoom_evictOne_of_false {eviction : RoomEviction} {room : Room}
    (absent : gateway.inRoom socket room = false) :
    (gateway.evictOne eviction).inRoom socket room = false := by
  cases room with
  | user userId => exact absent
  | order id =>
      simp only [inRoom, List.any_eq_false] at absent ⊢
      exact fun member mem => absent member (List.mem_of_mem_filter mem)

theorem inRoom_evict {evictions : List RoomEviction}
    (spared : ∀ eviction ∈ evictions, eviction.room = .order orderId →
      gateway.inRoom socket eviction.members = false) :
    (gateway.evict evictions).inRoom socket (.order orderId) =
      gateway.inRoom socket (.order orderId) := by
  simp only [evict]
  induction evictions generalizing gateway with
  | nil => rfl
  | cons eviction evictions ih =>
      rw [List.forall_mem_cons] at spared
      rw [List.foldl_cons, ih fun later mem isRoom =>
        inRoom_evictOne_of_false (spared.2 later mem isRoom)]
      apply inRoom_filter
      intro member mem isSocket isOrder
      by_cases isRoom : eviction.room = .order orderId
      · simp [isSocket, spared.1 isRoom]
      · simp [isOrder, isRoom]

theorem isConnected_closeSocket (differs : other ≠ socket) :
    (gateway.closeSocket other).isConnected socket = gateway.isConnected socket := by
  simp [isConnected, closeSocket, differs]

theorem isConnected_connect (userId : Uuid) (connected : gateway.isConnected socket = true) :
    (gateway.step (.connect userId)).isConnected socket = true := by
  simp only [isConnected, step, Option.any_eq_true] at connected ⊢
  rcases connected with ⟨appSocket, found, connected⟩
  have bound := (List.getElem?_eq_some_iff.mp found).1
  exact ⟨appSocket, (List.getElem?_append_left bound).trans found, connected⟩

/-- The socket is attended as before, and in the room or on its way there as before. -/
structure Carries (gateway next : OrderGateway) (socket : ℕ) (orderId : Uuid) : Prop where
  attended : next.Attended socket orderId
  engaged : next.Engaged socket orderId ↔ gateway.Engaged socket orderId

namespace Carries

variable {next : OrderGateway}

theorem refl (attended : gateway.Attended socket orderId) :
    gateway.Carries gateway socket orderId :=
  ⟨attended, Iff.rfl⟩

theorem of_same (attended : gateway.Attended socket orderId) (calls : next.calls = gateway.calls)
    (connected : next.isConnected socket = gateway.isConnected socket)
    (inRoom : next.inRoom socket (.order orderId) = gateway.inRoom socket (.order orderId)) :
    gateway.Carries next socket orderId := by
  constructor
  · refine ⟨connected.trans attended.connected, ?_⟩
    rw [calls]
    exact attended.unrefused
  · simp only [Engaged, Waiting, calls, inRoom]

theorem setPhase (attended : gateway.Attended socket orderId)
    (found : gateway.calls[index]? = some call)
    (stays : call.IsFor socket orderId →
      phase ≠ .leaving ∧ phase.isWaiting = call.phase.isWaiting) :
    gateway.Carries (gateway.setPhase index phase) socket orderId := by
  constructor
  · exact unrefused_setPhase found (fun isFor => (stays isFor).1) attended
  · exact or_congr_left (waiting_setPhase found fun isFor => (stays isFor).2)

theorem addCall (attended : gateway.Attended socket orderId) {sender : ℕ} {body : Option Uuid}
    (differs : ¬(sender = socket ∧ body = some orderId)) (phase : SubscribePhase) :
    gateway.Carries (gateway.addCall sender body phase) socket orderId := by
  have old : ∀ call ∈ (gateway.addCall sender body phase).calls, call.IsFor socket orderId →
      call ∈ gateway.calls := by
    intro call mem isFor
    rcases List.mem_append.mp mem with old | new
    · exact old
    · rw [List.mem_singleton.mp new] at isFor
      exact absurd isFor differs
  constructor
  · exact ⟨attended.connected, fun call mem isFor =>
      attended.unrefused call (old call mem isFor) isFor⟩
  · apply or_congr_left
    constructor
    · rintro ⟨call, mem, isFor, waits⟩
      exact ⟨call, old call mem isFor, isFor, waits⟩
    · rintro ⟨call, mem, isFor, waits⟩
      exact ⟨call, List.mem_append_left _ mem, isFor, waits⟩

theorem trans {middle : OrderGateway} (first : gateway.Carries middle socket orderId)
    (second : middle.Carries next socket orderId) : gateway.Carries next socket orderId :=
  ⟨second.attended, second.engaged.trans first.engaged⟩

theorem closeSocket (attended : gateway.Attended socket orderId) (differs : other ≠ socket) :
    gateway.Carries (gateway.closeSocket other) socket orderId := by
  refine @of_same gateway socket orderId (gateway.closeSocket other) attended rfl
    (isConnected_closeSocket differs) ?_
  apply inRoom_filter
  rintro member mem rfl _
  simpa using differs.symm

theorem leaveRoom (attended : gateway.Attended socket orderId) {id : Uuid}
    (differs : ¬(other = socket ∧ id = orderId)) :
    gateway.Carries (gateway.leaveRoom other id) socket orderId := by
  refine @of_same gateway socket orderId (gateway.leaveRoom other id) attended rfl rfl ?_
  apply inRoom_filter
  rintro member mem rfl rfl
  rw [Bool.not_eq_true', Bool.and_eq_false_iff, beq_eq_false_iff_ne, beq_eq_false_iff_ne]
  by_contra both
  simp only [not_or, not_not] at both
  exact differs ⟨both.1.symm, both.2.symm⟩

theorem subscribeOrder (attended : gateway.Attended socket orderId) {sender : ℕ}
    {allowed expired : Bool} {body : Option Uuid}
    (undisturbed : gateway.Undisturbed socket orderId
      (.subscribeOrder sender allowed expired body))
    (differs : ¬(sender = socket ∧ body = some orderId)) :
    gateway.Carries (gateway.subscribeOrder sender allowed expired body) socket orderId := by
  simp only [OrderGateway.subscribeOrder]
  split
  · split
    · split
      · rename_i isExpired
        have otherSocket : sender ≠ socket := by
          intro same
          rw [(undisturbed same).2] at isExpired
          cases isExpired
        have closed := closeSocket attended otherSocket
        exact closed.trans (addCall closed.attended differs _)
      · split
        · exact addCall attended differs _
        · exact addCall attended differs _
    · exact addCall attended differs _
  · exact refl attended

theorem check (attended : gateway.Attended socket orderId) {outcome : CheckOutcome}
    (undisturbed : gateway.Undisturbed socket orderId (.check index outcome)) :
    gateway.Carries (gateway.check index outcome) socket orderId := by
  cases found : gateway.calls[index]? with
  | none =>
      simp only [OrderGateway.check, found, Option.map_none]
      exact refl attended
  | some call =>
      have finds := undisturbed call found
      simp only [OrderGateway.check, found, Option.map_some]
      cases phase : call.phase with
      | checking =>
          cases outcome with
          | participant => exact setPhase attended found (by simp [phase, SubscribePhase.isWaiting])
          | stranger => exact setPhase attended found fun isFor => nomatch finds isFor
          | throws => exact setPhase attended found fun isFor => nomatch finds isFor
      | rechecking =>
          cases outcome with
          | participant => exact setPhase attended found (by simp [phase, SubscribePhase.isWaiting])
          | stranger => exact setPhase attended found fun isFor => nomatch finds isFor
          | throws => exact setPhase attended found fun isFor => nomatch finds isFor
      | _ => exact refl attended

/-- A subscription that joins has been on its way to the room. -/
theorem join (attended : gateway.Attended socket orderId) (index : ℕ) :
    gateway.Carries (gateway.join index) socket orderId := by
  simp only [OrderGateway.join]
  split
  · rename_i sender id found
    by_cases isFor : sender = socket ∧ id = orderId
    · rcases isFor with ⟨rfl, rfl⟩
      constructor
      · have moved : (gateway.setPhase index .rechecking).Attended sender id :=
          unrefused_setPhase found (fun _ => by simp) attended
        exact ⟨moved.connected, moved.unrefused⟩
      · have waiting : gateway.Waiting sender id :=
          ⟨_, List.mem_of_getElem? found, ⟨rfl, rfl⟩, rfl⟩
        apply iff_of_true
        · exact Or.inr (by simp [inRoom])
        · exact Or.inl waiting
    · have moved : gateway.Carries (gateway.setPhase index .rechecking) socket orderId := by
        apply setPhase attended found
        rintro ⟨sameSocket, sameBody⟩
        exact absurd ⟨sameSocket, Option.some.inj sameBody⟩ isFor
      refine moved.trans (of_same moved.attended rfl rfl ?_)
      rw [Bool.eq_iff_iff]
      simp only [inRoom, OrderGateway.setPhase, List.any_append, List.any_cons, List.any_nil,
        Bool.or_false, Bool.or_eq_true, Bool.and_eq_true, beq_iff_eq, isFor, or_false]
  · exact refl attended

theorem leave (attended : gateway.Attended socket orderId) (index : ℕ) :
    gateway.Carries (gateway.leave index) socket orderId := by
  simp only [OrderGateway.leave]
  split
  · rename_i sender id found
    have notFor : ¬(sender = socket ∧ id = orderId) := by
      rintro ⟨rfl, rfl⟩
      exact attended.unrefused _ (List.mem_of_getElem? found) ⟨rfl, rfl⟩ rfl
    have left := leaveRoom attended notFor
    refine left.trans (setPhase left.attended found ?_)
    rintro ⟨sameSocket, sameBody⟩
    exact absurd ⟨sameSocket, Option.some.inj sameBody⟩ notFor
  · exact refl attended

theorem dispatch (attended : gateway.Attended socket orderId)
    (undisturbed : gateway.Undisturbed socket orderId (.dispatch index)) :
    gateway.Carries (gateway.dispatch index) socket orderId := by
  simp only [OrderGateway.dispatch]
  split
  · rename_i evictions found
    have stays := @inRoom_evict { gateway with pending := gateway.pending.eraseIdx index } socket
      orderId evictions (undisturbed evictions found)
    rcases @evict_eq { gateway with pending := gateway.pending.eraseIdx index } evictions with
      ⟨members, same, _⟩
    rw [same] at stays ⊢
    exact of_same attended rfl rfl stays
  · exact refl attended

/-- Commits change neither sockets nor subscriptions nor rooms. -/
theorem replaceOrder (attended : gateway.Attended socket orderId) (id : Uuid)
    (world : Option World) (evictions : List RoomEviction) :
    gateway.Carries ((gateway.setOrder id world).announce evictions) socket orderId := by
  apply of_same attended
  · simp [setOrder]
  · simp [isConnected, setOrder]
  · simp [inRoom, setOrder]

/-- No step but a request of the socket itself brings it into the room or out of it. -/
theorem step (attended : gateway.Attended socket orderId) {label : GatewayLabel}
    (undisturbed : gateway.Undisturbed socket orderId label)
    (quiet : label.roomRequest socket orderId = none) :
    gateway.Carries (gateway.step label) socket orderId := by
  cases label with
  | connect userId =>
      constructor
      · exact ⟨isConnected_connect userId attended.connected, attended.unrefused⟩
      · exact Iff.rfl
  | disconnect other => exact closeSocket attended undisturbed
  | subscribeOrder sender allowed expired body =>
      apply subscribeOrder attended undisturbed
      simpa [GatewayLabel.roomRequest] using quiet
  | unsubscribeOrder sender allowed body =>
      simp only [OrderGateway.step, unsubscribeOrder]
      split
      · apply leaveRoom attended
        simpa [GatewayLabel.roomRequest] using quiet
      · exact refl attended
  | check index outcome => exact check attended undisturbed
  | join index => exact join attended index
  | leave index => exact leave attended index
  | createOrder id orderNumber now clientId dto =>
      simp only [OrderGateway.step]
      split
      · exact refl attended
      · exact of_same attended rfl rfl rfl
  | request id request =>
      simp only [OrderGateway.step, commitRequest]
      split
      · exact replaceOrder attended id _ _
      · exact refl attended
  | removeOrder id status =>
      simp only [OrderGateway.step, removeOrder]
      split
      · split
        · exact replaceOrder attended id _ _
        · exact refl attended
      · exact refl attended
  | dispatch index => exact dispatch attended undisturbed

theorem run (attended : gateway.Attended socket orderId) {labels : List GatewayLabel}
    (undisturbed : Runs.Along OrderGateway.step (Undisturbed socket orderId) gateway labels)
    (quiet : ∀ label ∈ labels, label.roomRequest socket orderId = none) :
    gateway.Carries (Runs.run OrderGateway.step gateway labels) socket orderId := by
  induction labels generalizing gateway with
  | nil => exact refl attended
  | cons label labels ih =>
      rw [List.forall_mem_cons] at quiet
      have first := step attended undisturbed.1 quiet.1
      exact first.trans (ih first.attended undisturbed.2 quiet.2)

end Carries

theorem subscribe_engages (attended : gateway.Attended socket orderId) {allowed expired : Bool}
    (undisturbed : gateway.Undisturbed socket orderId
      (.subscribeOrder socket allowed expired (some orderId))) :
    let next := gateway.step (.subscribeOrder socket allowed expired (some orderId))
    next.Attended socket orderId ∧ next.Engaged socket orderId := by
  rcases undisturbed rfl with ⟨rfl, rfl⟩
  have arrives : gateway.step (.subscribeOrder socket true false (some orderId)) =
      gateway.addCall socket (some orderId) .checking := by
    simp [step, subscribeOrder, attended.connected]
  simp only [arrives]
  constructor
  · refine ⟨attended.connected, ?_⟩
    intro call mem isFor
    rcases List.mem_append.mp mem with old | new
    · exact attended.unrefused call old isFor
    · rw [List.mem_singleton.mp new]
      simp
  · exact Or.inl ⟨_, List.mem_append_right _ (List.mem_singleton.mpr rfl), ⟨rfl, rfl⟩, rfl⟩

/-- An unsubscription leaves the room, and leaves what waits to join it. -/
theorem unsubscribe_leaves (attended : gateway.Attended socket orderId) {allowed : Bool}
    (undisturbed : gateway.Undisturbed socket orderId
      (.unsubscribeOrder socket allowed (some orderId))) :
    let next := gateway.step (.unsubscribeOrder socket allowed (some orderId))
    next.Attended socket orderId ∧
      (next.Engaged socket orderId ↔ gateway.Waiting socket orderId) := by
  have isAllowed := undisturbed rfl
  have leaves : gateway.step (.unsubscribeOrder socket allowed (some orderId)) =
      gateway.leaveRoom socket orderId := by
    simp [step, unsubscribeOrder, attended.connected, isAllowed]
  simp only [leaves]
  constructor
  · exact ⟨attended.connected, attended.unrefused⟩
  · have outside : (gateway.leaveRoom socket orderId).inRoom socket (.order orderId) = false := by
      simp only [inRoom, leaveRoom, List.any_eq_false, List.mem_filter]
      rintro member ⟨_, stays⟩
      simpa [imp_iff_not_or] using stays
    simp only [Engaged, outside, Bool.false_eq_true, or_false]
    exact Iff.rfl

theorem roomRequest_cases {label : GatewayLabel} {request : RoomRequest}
    (asked : label.roomRequest socket orderId = some request) :
    (∃ allowed expired, label = .subscribeOrder socket allowed expired (some orderId) ∧
        request = .subscribe) ∨
      ∃ allowed, label = .unsubscribeOrder socket allowed (some orderId) ∧
        request = .unsubscribe := by
  cases label with
  | subscribeOrder sender allowed expired body =>
      simp only [GatewayLabel.roomRequest] at asked
      split at asked
      · rename_i own
        cases asked
        exact Or.inl ⟨allowed, expired, by rw [own.1, own.2], rfl⟩
      · cases asked
  | unsubscribeOrder sender allowed body =>
      simp only [GatewayLabel.roomRequest] at asked
      split at asked
      · rename_i own
        cases asked
        exact Or.inr ⟨allowed, by rw [own.1, own.2], rfl⟩
      · cases asked
  | _ => cases asked

theorem Attended.step (attended : gateway.Attended socket orderId) {label : GatewayLabel}
    (undisturbed : gateway.Undisturbed socket orderId label) :
    (gateway.step label).Attended socket orderId := by
  cases asked : label.roomRequest socket orderId with
  | none => exact (Carries.step attended undisturbed asked).attended
  | some request =>
      rcases roomRequest_cases asked with ⟨allowed, expired, rfl, _⟩ | ⟨allowed, rfl, _⟩
      · exact (subscribe_engages attended undisturbed).1
      · exact (unsubscribe_leaves attended undisturbed).1

theorem Attended.run (attended : gateway.Attended socket orderId) {labels : List GatewayLabel}
    (undisturbed : Runs.Along OrderGateway.step (Undisturbed socket orderId) gateway labels) :
    (Runs.run OrderGateway.step gateway labels).Attended socket orderId := by
  have preserved : ∀ (state : OrderGateway) (label : GatewayLabel),
      state.Undisturbed socket orderId label → state.Attended socket orderId →
        (state.step label).Attended socket orderId := by
    intro state label undisturbed attended
    exact attended.step undisturbed
  exact undisturbed.invariant preserved attended

end

section

variable {gateway : OrderGateway} {socket : ℕ} {orderId : Uuid} {before after : List GatewayLabel}

theorem lastRequest_append {label : GatewayLabel} {request : RoomRequest}
    (asked : label.roomRequest socket orderId = some request)
    (quiet : ∀ label ∈ after, label.roomRequest socket orderId = none) :
    lastRequest socket orderId (before ++ label :: after) = some request := by
  have none : after.filterMap (GatewayLabel.roomRequest socket orderId) = [] :=
    List.filterMap_eq_nil_iff.mpr quiet
  simp [lastRequest, asked, none]

/-- A run has no requests of the socket, or one that is the last. -/
theorem request_cases (socket : ℕ) (orderId : Uuid) (labels : List GatewayLabel) :
    (∀ label ∈ labels, label.roomRequest socket orderId = none) ∨
      ∃ before label after request, labels = before ++ label :: after ∧
        label.roomRequest socket orderId = some request ∧
        ∀ label ∈ after, label.roomRequest socket orderId = none := by
  induction labels with
  | nil => exact Or.inl (by simp)
  | cons label labels ih =>
      rcases ih with quiet | ⟨before, last, after, request, rfl, asked, quiet⟩
      · cases asked : label.roomRequest socket orderId with
        | none => exact Or.inl (List.forall_mem_cons.mpr ⟨asked, quiet⟩)
        | some request => exact Or.inr ⟨[], label, labels, request, rfl, asked, quiet⟩
      · exact Or.inr ⟨label :: before, last, after, request, rfl, asked, quiet⟩

theorem engaged_after_unsubscribe (attended : gateway.Attended socket orderId) {allowed : Bool}
    (undisturbed : Runs.Along step (Undisturbed socket orderId) gateway
      (before ++ .unsubscribeOrder socket allowed (some orderId) :: after))
    (quiet : ∀ label ∈ after, label.roomRequest socket orderId = none) :
    (Runs.run step gateway (before ++ .unsubscribeOrder socket allowed (some orderId) ::
        after)).Engaged socket orderId ↔
      (Runs.run step gateway before).Waiting socket orderId := by
  rw [Runs.Along.append] at undisturbed
  rcases undisturbed with ⟨ranBefore, unsubscribes, ranAfter⟩
  rcases unsubscribe_leaves (attended.run ranBefore) unsubscribes with ⟨left, engaged⟩
  rw [Runs.run_append, Runs.run_cons]
  exact (Carries.run left ranAfter quiet).engaged.trans engaged

theorem engaged_after_subscribe (attended : gateway.Attended socket orderId)
    {allowed expired : Bool}
    (undisturbed : Runs.Along step (Undisturbed socket orderId) gateway
      (before ++ .subscribeOrder socket allowed expired (some orderId) :: after))
    (quiet : ∀ label ∈ after, label.roomRequest socket orderId = none) :
    (Runs.run step gateway (before ++ .subscribeOrder socket allowed expired (some orderId) ::
        after)).Engaged socket orderId := by
  rw [Runs.Along.append] at undisturbed
  rcases undisturbed with ⟨ranBefore, subscribes, ranAfter⟩
  rcases subscribe_engages (attended.run ranBefore) subscribes with ⟨arrived, engaged⟩
  rw [Runs.run_append, Runs.run_cons]
  exact (Carries.run arrived ranAfter quiet).engaged.mpr engaged

theorem not_waiting_of_atRest (atRest : gateway.AtRest socket orderId) :
    ¬gateway.Waiting socket orderId := by
  rintro ⟨call, mem, isFor, waits⟩
  have answered := atRest call mem isFor
  cases phase : call.phase <;> simp [phase, SubscribePhase.isWaiting] at waits
  all_goals simp [phase, SubscribePhase.isAnswered] at answered

theorem inRoom_iff_engaged (atRest : gateway.AtRest socket orderId) :
    gateway.inRoom socket (.order orderId) = true ↔ gateway.Engaged socket orderId := by
  simp [Engaged, not_waiting_of_atRest atRest]

end

/-- The last unsubscription, if nothing is asked for after it, comes when no subscription is on
its way. -/
def OvertakesNone (gateway : OrderGateway) (socket : ℕ) (orderId : Uuid)
    (labels : List GatewayLabel) : Prop :=
  ∀ before allowed after,
    labels = before ++ .unsubscribeOrder socket allowed (some orderId) :: after →
      (∀ label ∈ after, label.roomRequest socket orderId = none) →
        ¬(Runs.run step gateway before).Waiting socket orderId

/-- A company with an offer on the order has opened a page. -/
def exampleConnected : OrderGateway :=
  Runs.run step initial [.createOrder ⟨1⟩ 1 exampleMoment ⟨9⟩ exampleOrder,
    .request ⟨1⟩ (exampleSubmission ⟨2⟩ ⟨11⟩ 100), .connect ⟨2⟩]

def exampleSubscription : List GatewayLabel :=
  [.check 0 .participant, .join 0, .check 0 .participant]

/-- The page is closed before its subscription is checked. -/
def exampleOvertaken : List GatewayLabel :=
  [.subscribeOrder 0 true false (some ⟨1⟩), .unsubscribeOrder 0 true (some ⟨1⟩)] ++
    exampleSubscription

end OrderGateway

end MyBuild
