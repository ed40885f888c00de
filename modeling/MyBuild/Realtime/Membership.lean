import MyBuild.Orders.Coupling
import MyBuild.Realtime.Gateway

/-!
# Where the memberships of a room come from

Every membership is owed to a subscription of the socket that has joined the room.  A
subscription that is refused has left the room again or has never joined it, with one
exception: where the second check fails after the join, the wrapper of the handlers answers
with a refusal and the socket stays in the room.
-/

namespace MyBuild

namespace OrderGateway

/-- Every membership is owed to a subscription of the socket to the order that has joined. -/
def Accounted (gateway : OrderGateway) : Prop :=
  ∀ member ∈ gateway.members, ∃ call, gateway.calls[member.call]? = some call ∧
    call.socket = member.socket ∧ call.body = some member.orderId ∧ call.phase.hasJoined = true

/-- The second check of a subscription does not fail while the socket is in the room through
it. -/
def RecheckAnswered (gateway : OrderGateway) : GatewayLabel → Prop
  | .check call .throws => ∀ member ∈ gateway.members, member.call ≠ call
  | _ => True

namespace Accounted

variable {gateway : OrderGateway}

theorem of_members {members : List Membership} (accounted : gateway.Accounted)
    (kept : ∀ member ∈ members, member ∈ gateway.members) :
    Accounted { gateway with members } :=
  fun member mem => accounted member (kept member mem)

theorem closeSocket (accounted : gateway.Accounted) (socket : ℕ) :
    (gateway.closeSocket socket).Accounted :=
  fun member mem => accounted member (List.mem_of_mem_filter mem)

theorem addCall (accounted : gateway.Accounted) (socket : ℕ) (body : Option Uuid)
    (phase : SubscribePhase) : (gateway.addCall socket body phase).Accounted := by
  intro member mem
  rcases accounted member mem with ⟨call, found, owed⟩
  refine ⟨call, ?_, owed⟩
  rcases List.getElem?_eq_some_iff.mp found with ⟨bound, _⟩
  exact (List.getElem?_append_left bound).trans found

theorem setPhase (accounted : gateway.Accounted) {call : ℕ} {phase : SubscribePhase}
    (joined : ∀ member ∈ gateway.members, member.call = call → phase.hasJoined = true) :
    (gateway.setPhase call phase).Accounted := by
  intro member mem
  rcases accounted member mem with ⟨old, found, sameSocket, sameBody, hasJoined⟩
  rw [getElem?_setPhase, found]
  by_cases isCall : call = member.call
  · exact ⟨{ old with phase }, if_pos isCall, sameSocket, sameBody, joined member mem isCall.symm⟩
  · exact ⟨old, if_neg isCall, sameSocket, sameBody, hasJoined⟩

/-- A subscription that has not joined yet is owed no membership. -/
theorem not_member (accounted : gateway.Accounted) {index : ℕ} {call : SubscribeCall}
    (found : gateway.calls[index]? = some call) (notJoined : call.phase.hasJoined = false) :
    ∀ member ∈ gateway.members, member.call ≠ index := by
  rintro member mem rfl
  rcases accounted member mem with ⟨owed, owedFound, _, _, hasJoined⟩
  rw [found] at owedFound
  cases owedFound
  rw [notJoined] at hasJoined
  cases hasJoined

theorem check (accounted : gateway.Accounted) {index : ℕ} {outcome : CheckOutcome}
    (answered : gateway.RecheckAnswered (.check index outcome)) :
    (gateway.check index outcome).Accounted := by
  cases found : gateway.calls[index]? with
  | none =>
      simp only [OrderGateway.check, found, Option.map_none]
      exact accounted
  | some call =>
      rcases call with ⟨socket, body, phase⟩
      simp only [OrderGateway.check, found, Option.map_some]
      cases phase with
      | checking =>
          have fresh := accounted.not_member found rfl
          cases outcome <;>
            exact accounted.setPhase fun member mem isCall => absurd isCall (fresh member mem)
      | rechecking =>
          cases outcome with
          | participant => exact accounted.setPhase fun _ _ _ => rfl
          | stranger => exact accounted.setPhase fun _ _ _ => rfl
          | throws =>
              exact accounted.setPhase fun member mem isCall => absurd isCall (answered member mem)
      | _ => exact accounted

theorem join (accounted : gateway.Accounted) (index : ℕ) : (gateway.join index).Accounted := by
  simp only [OrderGateway.join]
  split
  · rename_i socket orderId found
    have fresh := accounted.not_member found rfl
    have moved : (gateway.setPhase index .rechecking).Accounted :=
      accounted.setPhase fun _ _ _ => rfl
    intro member mem
    rcases List.mem_append.mp mem with old | new
    · exact moved member old
    · rw [List.mem_singleton.mp new]
      refine ⟨{ socket, body := some orderId, phase := .rechecking }, ?_, rfl, rfl, rfl⟩
      simp only [getElem?_setPhase, found, if_true, Option.map_some]
  · exact accounted

theorem leave (accounted : gateway.Accounted) (index : ℕ) : (gateway.leave index).Accounted := by
  simp only [OrderGateway.leave]
  split
  · rename_i socket orderId found
    have left : (gateway.leaveRoom socket orderId).Accounted :=
      accounted.of_members fun _ mem => List.mem_of_mem_filter mem
    refine left.setPhase fun member mem isCall => ?_
    rcases List.mem_filter.mp mem with ⟨old, stays⟩
    rcases accounted member old with ⟨owed, owedFound, sameSocket, sameBody, _⟩
    rw [isCall, found] at owedFound
    cases owedFound
    simp only [Option.some.injEq] at sameSocket sameBody
    simp [sameSocket, sameBody] at stays
  · exact accounted

theorem subscribeOrder (accounted : gateway.Accounted) (socket : ℕ) (allowed expired : Bool)
    (body : Option Uuid) : (gateway.subscribeOrder socket allowed expired body).Accounted := by
  simp only [OrderGateway.subscribeOrder]
  split
  · split
    · split
      · exact (accounted.closeSocket socket).addCall socket body _
      · split
        · exact accounted.addCall socket body _
        · exact accounted.addCall socket body _
    · exact accounted.addCall socket body _
  · exact accounted

theorem announce (accounted : gateway.Accounted) (evictions : List RoomEviction) :
    (gateway.announce evictions).Accounted := by
  simp only [OrderGateway.announce]
  split <;> exact accounted

theorem setOrder (accounted : gateway.Accounted) (orderId : Uuid) (world : Option World) :
    (gateway.setOrder orderId world).Accounted :=
  accounted

theorem step (accounted : gateway.Accounted) {label : GatewayLabel}
    (answered : gateway.RecheckAnswered label) : (gateway.step label).Accounted := by
  cases label with
  | connect userId => exact accounted
  | disconnect socket => exact accounted.closeSocket socket
  | subscribeOrder socket allowed expired body =>
      exact accounted.subscribeOrder socket allowed expired body
  | unsubscribeOrder socket allowed body =>
      simp only [OrderGateway.step, unsubscribeOrder]
      split
      · exact accounted.of_members fun _ mem => List.mem_of_mem_filter mem
      · exact accounted
  | check index outcome => exact accounted.check answered
  | join index => exact accounted.join index
  | leave index => exact accounted.leave index
  | createOrder id orderNumber now clientId dto =>
      simp only [OrderGateway.step]
      split <;> exact accounted
  | request orderId request =>
      simp only [OrderGateway.step, commitRequest]
      split
      · exact (accounted.setOrder orderId _).announce _
      · exact accounted
  | removeOrder orderId status =>
      simp only [OrderGateway.step, removeOrder]
      split
      · split
        · exact (accounted.setOrder orderId none).announce _
        · exact accounted
      · exact accounted
  | dispatch index =>
      simp only [OrderGateway.step, dispatch]
      split
      · rename_i evictions _
        rcases @evict_eq { gateway with pending := gateway.pending.eraseIdx index } evictions with
          ⟨members, same, kept⟩
        rw [same]
        exact accounted.of_members kept
      · exact accounted

theorem initial : OrderGateway.initial.Accounted := by
  intro member mem
  cases mem

end Accounted

end OrderGateway

/-- A refused subscription has left no membership, and a socket that is in the room is there
through another one, which was not refused. -/
theorem refused_subscription_leaves_no_membership (labels : List GatewayLabel)
    (answered : Runs.Along OrderGateway.step OrderGateway.RecheckAnswered
      OrderGateway.initial labels) :
    let gateway := Runs.run OrderGateway.step OrderGateway.initial labels
    ∀ index call ack, gateway.calls[index]? = some call → call.phase = .answered ack →
      ack.ok = false →
        (∀ member ∈ gateway.members, member.call ≠ index) ∧
        ∀ orderId, gateway.inRoom call.socket (.order orderId) = true →
          ∃ other otherCall, other ≠ index ∧ gateway.calls[other]? = some otherCall ∧
            otherCall.socket = call.socket ∧ otherCall.body = some orderId ∧
            ⟨call.socket, orderId, other⟩ ∈ gateway.members ∧
            ∀ otherAck, otherCall.phase = .answered otherAck → otherAck.ok = true := by
  intro gateway index call ack found isAnswered refused
  have accounted : gateway.Accounted :=
    answered.invariant (fun _ _ recheck holds => holds.step recheck)
      OrderGateway.Accounted.initial
  have gone : ∀ member ∈ gateway.members, member.call ≠ index :=
    accounted.not_member found (by rw [isAnswered]; exact refused)
  refine ⟨gone, fun orderId inRoom => ?_⟩
  simp only [OrderGateway.inRoom, List.any_eq_true, Bool.and_eq_true, beq_iff_eq] at inRoom
  rcases inRoom with ⟨member, mem, sameSocket, sameOrder⟩
  rcases accounted member mem with ⟨owed, owedFound, owedSocket, owedBody, hasJoined⟩
  refine ⟨member.call, owed, gone member mem, owedFound, owedSocket.trans sameSocket,
    sameOrder ▸ owedBody, ?_, fun otherAck otherAnswered => ?_⟩
  · rw [← sameSocket, ← sameOrder]
    exact mem
  · rw [otherAnswered] at hasJoined
    exact hasJoined

/-- Company 2 has offered on an order and subscribes to it; the owner rejects the offer, and the
broadcast is dispatched, between the first check and the join. -/
def exampleRejectedMeanwhile : List GatewayLabel :=
  [.createOrder ⟨1⟩ 1 exampleMoment ⟨9⟩ exampleOrder,
    .request ⟨1⟩ (exampleSubmission ⟨2⟩ ⟨11⟩ 100), .connect ⟨2⟩,
    .subscribeOrder 0 true false (some ⟨1⟩), .check 0 .participant,
    .request ⟨1⟩ (.rejectOffer (exampleEnvironment ⟨11⟩) ⟨9⟩ ⟨11⟩), .dispatch 0, .join 0]

theorem refused_subscription_leaves_no_membership_rejected :
    let labels := exampleRejectedMeanwhile ++ [.check 0 .stranger, .leave 0]
    ∀ member ∈ (Runs.run OrderGateway.step OrderGateway.initial labels).members,
      member.call ≠ 0 := by
  intro labels
  refine (refused_subscription_leaves_no_membership labels ?_ 0
    ⟨0, some ⟨1⟩, .answered ⟨false, some OrderGateway.orderForbidden, false⟩⟩
    ⟨false, some OrderGateway.orderForbidden, false⟩ (by decide +kernel) rfl rfl).1
  simp only [labels, exampleRejectedMeanwhile, List.cons_append, List.nil_append, Runs.Along,
    OrderGateway.RecheckAnswered, and_self]

/-- The second check fails: the subscription is refused, every broadcast is dispatched, and the
company without an offer stays in the room. -/
theorem failed_recheck_keeps_membership :
    let gateway := Runs.run OrderGateway.step OrderGateway.initial
      (exampleRejectedMeanwhile ++ [.check 0 .throws])
    gateway.calls = [⟨0, some ⟨1⟩,
        .answered ⟨false, some OrderGateway.subscribeFailed, true⟩⟩] ∧
      gateway.pending = [] ∧ gateway.isOrderParticipant ⟨2⟩ ⟨1⟩ = false ∧
      gateway.inRoom 0 (.order ⟨1⟩) = true ∧ ∃ member ∈ gateway.members, member.call = 0 := by
  decide +kernel

end MyBuild
