import MyBuild.Realtime.Membership

/-!
# The rooms at rest

When no subscription is under way and every broadcast has been dispatched, the connected
sockets in the room of an order are those of participants.  Before that a socket without a
place in the order has its removal ahead of it: its subscription is still to be checked after
the join, or the broadcast that evicts it is still to come.
-/

namespace MyBuild

theorem SubscribePhase.isUnchecked_of_isAnswered {phase : SubscribePhase}
    (isAnswered : phase.isAnswered = true) : phase.isUnchecked = false := by
  cases phase <;> first | rfl | cases isAnswered

namespace OrderGateway

/-- What a check that does not fail finds in the rows of its moment. -/
def checkOutcome (gateway : OrderGateway) (index : ℕ) : CheckOutcome :=
  match gateway.calls[index]? with
  | some { socket, body := some orderId, .. } =>
      if (gateway.sockets[socket]?).any fun appSocket =>
          gateway.isOrderParticipant appSocket.userId orderId then .participant
      else .stranger
  | _ => .stranger

/-- The checks do not fail. -/
def ChecksAnswer (gateway : OrderGateway) : GatewayLabel → Prop
  | .check call outcome => outcome = gateway.checkOutcome call
  | _ => True

/-- The user is a participant of the order, or its socket will still be taken out of the room. -/
def Justified (gateway : OrderGateway) (userId : Uuid) (member : Membership) : Prop :=
  gateway.isOrderParticipant userId member.orderId = true ∨
    (∃ evictions ∈ gateway.pending, ∃ eviction ∈ evictions,
      eviction.room = .order member.orderId ∧
        (eviction.members = .order member.orderId ∨ eviction.members = .user userId)) ∨
    ∃ call ∈ gateway.calls, call.socket = member.socket ∧ call.body = some member.orderId ∧
      call.phase.isUnchecked = true

structure Guarded (gateway : OrderGateway) : Prop where
  orders : ∀ orderId world, gateway.orders orderId = some world →
    world.WellFormed ∧ world.tables.order.id = orderId
  callSockets : ∀ call ∈ gateway.calls, call.socket < gateway.sockets.length
  memberSockets : ∀ member ∈ gateway.members, member.socket < gateway.sockets.length
  justified : ∀ member ∈ gateway.members, ∀ appSocket,
    gateway.sockets[member.socket]? = some appSocket → appSocket.connected = true →
      gateway.Justified appSocket.userId member

namespace Guarded

variable {gateway : OrderGateway}

theorem of_members {members : List Membership} (guarded : gateway.Guarded)
    (kept : ∀ member ∈ members, member ∈ gateway.members) :
    ({ gateway with members } : OrderGateway).Guarded :=
  ⟨guarded.orders, guarded.callSockets,
    fun member mem => guarded.memberSockets member (kept member mem),
    fun member mem => guarded.justified member (kept member mem)⟩

theorem connect (guarded : gateway.Guarded) (userId : Uuid) :
    (gateway.step (.connect userId)).Guarded := by
  constructor
  · exact guarded.orders
  · intro call mem
    have bound := guarded.callSockets call mem
    simp only [OrderGateway.step, List.length_append, List.length_singleton]
    omega
  · intro member mem
    have bound := guarded.memberSockets member mem
    simp only [OrderGateway.step, List.length_append, List.length_singleton]
    omega
  · intro member mem appSocket found
    have bound := guarded.memberSockets member mem
    simp only [OrderGateway.step, List.getElem?_append_left bound] at found
    exact guarded.justified member mem appSocket found

theorem closeSocket (guarded : gateway.Guarded) (socket : ℕ) :
    (gateway.closeSocket socket).Guarded := by
  constructor
  · exact guarded.orders
  · simpa only [OrderGateway.closeSocket, List.length_modify] using guarded.callSockets
  · intro member mem
    simp only [OrderGateway.closeSocket, List.length_modify]
    exact guarded.memberSockets member (List.mem_of_mem_filter mem)
  · intro member mem appSocket found connected
    rcases List.mem_filter.mp mem with ⟨old, other⟩
    have notClosed : socket ≠ member.socket := by
      rintro rfl
      simp at other
    simp only [OrderGateway.closeSocket, List.getElem?_modify, if_neg notClosed,
      id_map'] at found
    exact guarded.justified member old appSocket found connected

theorem addCall (guarded : gateway.Guarded) {socket : ℕ}
    (bound : socket < gateway.sockets.length) (body : Option Uuid) (phase : SubscribePhase) :
    (gateway.addCall socket body phase).Guarded := by
  constructor
  · exact guarded.orders
  · intro call mem
    rcases List.mem_append.mp mem with old | new
    · exact guarded.callSockets call old
    · rw [List.mem_singleton.mp new]
      exact bound
  · exact guarded.memberSockets
  · intro member mem appSocket found connected
    rcases guarded.justified member mem appSocket found connected with
      participant | evicted | ⟨call, callMem, unchecked⟩
    · exact Or.inl participant
    · exact Or.inr (Or.inl evicted)
    · exact Or.inr (Or.inr ⟨call, List.mem_append_left _ callMem, unchecked⟩)

/-- A subscription may move on when it stays unchecked, or leaves only participants behind. -/
theorem setPhase (guarded : gateway.Guarded) {index : ℕ} {call : SubscribeCall}
    {phase : SubscribePhase} (isCall : gateway.calls[index]? = some call)
    (settled : call.phase.isUnchecked = true → phase.isUnchecked = true ∨
      ∀ member ∈ gateway.members, member.socket = call.socket →
        call.body = some member.orderId → ∀ appSocket,
          gateway.sockets[member.socket]? = some appSocket →
            gateway.isOrderParticipant appSocket.userId member.orderId = true) :
    (gateway.setPhase index phase).Guarded := by
  constructor
  · exact guarded.orders
  · intro moved mem
    rcases List.mem_iff_getElem?.mp mem with ⟨position, found⟩
    rw [getElem?_setPhase] at found
    split at found
    · rename_i same
      rw [← same, isCall] at found
      cases found
      exact guarded.callSockets call (List.mem_of_getElem? isCall)
    · exact guarded.callSockets moved (List.mem_of_getElem? found)
  · exact guarded.memberSockets
  · intro member mem appSocket found connected
    rcases guarded.justified member mem appSocket found connected with
      participant | evicted | ⟨owed, owedMem, sameSocket, sameBody, unchecked⟩
    · exact Or.inl participant
    · exact Or.inr (Or.inl evicted)
    · rcases List.mem_iff_getElem?.mp owedMem with ⟨position, owedFound⟩
      by_cases same : index = position
      · rw [← same, isCall] at owedFound
        cases owedFound
        rcases settled unchecked with stays | participants
        · refine Or.inr (Or.inr ⟨{ call with phase }, ?_, sameSocket, sameBody, stays⟩)
          have moved : (gateway.setPhase index phase).calls[index]? =
              some { call with phase } := by
            simp only [getElem?_setPhase, if_true, isCall, Option.map_some]
          exact List.mem_of_getElem? moved
        · exact Or.inl (participants member mem sameSocket.symm sameBody appSocket found)
      · refine Or.inr (Or.inr ⟨owed, ?_, sameSocket, sameBody, unchecked⟩)
        have kept : (gateway.setPhase index phase).calls[position]? = some owed := by
          rw [getElem?_setPhase, if_neg same, owedFound]
        exact List.mem_of_getElem? kept

/-- A check that finds the user to be a participant vouches for its memberships. -/
theorem participant_of_checkOutcome {index : ℕ} {call : SubscribeCall}
    (isCall : gateway.calls[index]? = some call)
    (outcome : CheckOutcome.participant = gateway.checkOutcome index) {orderId : Uuid}
    (body : call.body = some orderId) {appSocket : AppSocket}
    (found : gateway.sockets[call.socket]? = some appSocket) :
    gateway.isOrderParticipant appSocket.userId orderId = true := by
  rcases call with ⟨socket, _, phase⟩
  cases body
  simp only [checkOutcome, isCall, found, Option.any_some] at outcome
  split at outcome
  · assumption
  · cases outcome

theorem check (guarded : gateway.Guarded) {index : ℕ} {outcome : CheckOutcome}
    (answers : gateway.ChecksAnswer (.check index outcome)) :
    (gateway.check index outcome).Guarded := by
  simp only [ChecksAnswer] at answers
  cases found : gateway.calls[index]? with
  | none =>
      simp only [OrderGateway.check, found, Option.map_none]
      exact guarded
  | some call =>
      rcases call with ⟨socket, body, phase⟩
      simp only [OrderGateway.check, found, Option.map_some]
      cases phase with
      | checking =>
          cases outcome <;>
            exact guarded.setPhase found fun unchecked => absurd unchecked Bool.false_ne_true
      | rechecking =>
          cases outcome with
          | participant =>
              refine guarded.setPhase found fun _ => Or.inr ?_
              intro member mem sameSocket sameBody appSocket socketFound
              rw [sameSocket] at socketFound
              exact participant_of_checkOutcome found answers sameBody socketFound
          | stranger => exact guarded.setPhase found fun _ => Or.inl rfl
          | throws =>
              simp only [checkOutcome] at answers
              split at answers
              · split at answers <;> cases answers
              · cases answers
      | _ => exact guarded

theorem join (guarded : gateway.Guarded) (index : ℕ) : (gateway.join index).Guarded := by
  simp only [OrderGateway.join]
  split
  · rename_i socket orderId found
    have moved : (gateway.setPhase index .rechecking).Guarded :=
      guarded.setPhase found fun unchecked => absurd unchecked Bool.false_ne_true
    have isMoved : (gateway.setPhase index .rechecking).calls[index]? =
        some { socket, body := some orderId, phase := .rechecking } := by
      simp only [getElem?_setPhase, found, if_true, Option.map_some]
    have bound := guarded.callSockets _ (List.mem_of_getElem? found)
    refine ⟨moved.orders, moved.callSockets, ?_, ?_⟩
    · intro member mem
      rcases List.mem_append.mp mem with old | new
      · exact moved.memberSockets member old
      · rw [List.mem_singleton.mp new]
        exact bound
    · intro member mem appSocket socketFound connected
      rcases List.mem_append.mp mem with old | new
      · exact moved.justified member old appSocket socketFound connected
      · rw [List.mem_singleton.mp new]
        exact Or.inr (Or.inr ⟨_, List.mem_of_getElem? isMoved, rfl, rfl, rfl⟩)
  · exact guarded

theorem leave (guarded : gateway.Guarded) (index : ℕ) : (gateway.leave index).Guarded := by
  simp only [OrderGateway.leave]
  split
  · rename_i socket orderId found
    have left : (gateway.leaveRoom socket orderId).Guarded :=
      guarded.of_members fun _ mem => List.mem_of_mem_filter mem
    refine left.setPhase found fun _ => Or.inr ?_
    intro member mem sameSocket sameBody
    cases sameBody
    have stays := (List.mem_filter.mp mem).2
    simp [sameSocket] at stays
  · exact guarded

theorem subscribeOrder (guarded : gateway.Guarded) (socket : ℕ) (allowed expired : Bool)
    (body : Option Uuid) : (gateway.subscribeOrder socket allowed expired body).Guarded := by
  simp only [OrderGateway.subscribeOrder]
  split
  · rename_i connected
    have bound : socket < gateway.sockets.length := by
      by_contra outside
      simp [isConnected, List.getElem?_eq_none (Nat.le_of_not_lt outside)] at connected
    split
    · split
      · refine (guarded.closeSocket socket).addCall ?_ body _
        simpa only [OrderGateway.closeSocket, List.length_modify] using bound
      · split
        · exact guarded.addCall bound body _
        · exact guarded.addCall bound body _
    · exact guarded.addCall bound body _
  · exact guarded

theorem dispatch (guarded : gateway.Guarded) (index : ℕ) : (gateway.dispatch index).Guarded := by
  simp only [OrderGateway.dispatch]
  split
  · rename_i dispatched isDispatched
    rcases @evict_eq { gateway with pending := gateway.pending.eraseIdx index } dispatched with
      ⟨members, same, kept⟩
    have gone : ∀ eviction ∈ dispatched, ∀ member ∈ members, ∀ appSocket,
        gateway.sockets[member.socket]? = some appSocket → appSocket.connected = true →
          eviction.room = .order member.orderId →
            ¬(eviction.members = .order member.orderId ∨
              eviction.members = .user appSocket.userId) := by
      intro eviction evictionMem member mem appSocket found connected room named
      have absent := @not_mem_evict { gateway with pending := gateway.pending.eraseIdx index }
        dispatched eviction member appSocket evictionMem room found connected named
      rw [same] at absent
      exact absent mem
    rw [same]
    refine ⟨guarded.orders, guarded.callSockets,
      fun member mem => guarded.memberSockets member (kept member mem), ?_⟩
    intro member mem appSocket found connected
    rcases guarded.justified member (kept member mem) appSocket found connected with
      participant | ⟨evictions, evictionsMem, eviction, evictionMem, room, named⟩ | unchecked
    · exact Or.inl participant
    · rcases List.mem_iff_getElem?.mp evictionsMem with ⟨position, isPending⟩
      by_cases isIndex : position = index
      · rw [isIndex, isDispatched] at isPending
        cases isPending
        exact absurd named (gone eviction evictionMem member mem appSocket found connected room)
      · exact Or.inr (Or.inl ⟨evictions,
          List.mem_eraseIdx_iff_getElem?.mpr ⟨position, isIndex, isPending⟩,
          eviction, evictionMem, room, named⟩)
    · exact Or.inr (Or.inr unchecked)
  · exact guarded

/-- Who loses its place in an order when its rows change is evicted by the broadcast. -/
theorem justified_replaceOrder {orderId userId : Uuid} {world : Option World}
    {evictions : List RoomEviction} {member : Membership}
    (stripped : gateway.isOrderParticipant userId orderId = true →
      (world.any fun next => next.tables.isOrderParticipant userId) = false →
        ∃ eviction ∈ evictions, eviction.room = .order orderId ∧
          (eviction.members = .order orderId ∨ eviction.members = .user userId))
    (justified : gateway.Justified userId member) :
    ((gateway.setOrder orderId world).announce evictions).Justified userId member := by
  simp only [Justified, isOrderParticipant_announce, isOrderParticipant_setOrder, announce_calls,
    mem_announce_pending]
  rcases justified with participant | ⟨announced, announcedMem, evicts⟩ | unchecked
  · by_cases isOrder : member.orderId = orderId
    · cases stays : world.any fun next => next.tables.isOrderParticipant userId with
      | true =>
          apply Or.inl
          rw [if_pos isOrder]
      | false =>
          rcases stripped (isOrder ▸ participant) stays with ⟨eviction, evictionMem, evicts⟩
          rw [← isOrder] at evicts
          exact Or.inr (Or.inl ⟨evictions, Or.inr ⟨rfl, List.ne_nil_of_mem evictionMem⟩, eviction,
            evictionMem, evicts⟩)
    · apply Or.inl
      rw [if_neg isOrder]
      exact participant
  · exact Or.inr (Or.inl ⟨announced, Or.inl announcedMem, evicts⟩)
  · exact Or.inr (Or.inr unchecked)

/-- The rows of an order change, and the broadcast evicts those who lose their place in it. -/
theorem replaceOrder (guarded : gateway.Guarded) {orderId : Uuid} {world : Option World}
    {evictions : List RoomEviction}
    (wellFormed : ∀ next, world = some next → next.WellFormed ∧ next.tables.order.id = orderId)
    (stripped : ∀ userId, gateway.isOrderParticipant userId orderId = true →
      (world.any fun next => next.tables.isOrderParticipant userId) = false →
        ∃ eviction ∈ evictions, eviction.room = .order orderId ∧
          (eviction.members = .order orderId ∨ eviction.members = .user userId)) :
    ((gateway.setOrder orderId world).announce evictions).Guarded := by
  constructor
  · intro id next isNext
    simp only [announce_orders, setOrder, Function.update_apply] at isNext
    split at isNext
    · rename_i same
      rw [same]
      exact wellFormed next isNext
    · exact guarded.orders id next isNext
  · simp only [announce_calls, announce_sockets]
    exact guarded.callSockets
  · simp only [announce_members, announce_sockets]
    exact guarded.memberSockets
  · simp only [announce_members, announce_sockets]
    intro member mem appSocket found connected
    exact justified_replaceOrder (stripped appSocket.userId)
      (guarded.justified member mem appSocket found connected)

theorem createOrder (guarded : gateway.Guarded) (id : Uuid) (orderNumber : ℕ) (now : Date)
    (clientId : Uuid) (dto : CreateOrderDto) :
    (gateway.step (.createOrder id orderNumber now clientId dto)).Guarded := by
  simp only [OrderGateway.step]
  split
  · exact guarded
  · rename_i unused
    refine @replaceOrder gateway guarded id _ [] ?_ ?_
    · rintro next isNext
      cases isNext
      exact ⟨World.wellFormed_ofTables (OrdersService.createOrder_fresh id orderNumber now
        clientId dto), rfl⟩
    · intro userId participant
      simp [isOrderParticipant, unused] at participant

theorem commitRequest (guarded : gateway.Guarded) (orderId : Uuid) (request : Request) :
    (gateway.commitRequest orderId request).Guarded := by
  simp only [OrderGateway.commitRequest]
  split
  · rename_i world found
    rcases guarded.orders orderId world found with ⟨wellFormed, sameId⟩
    apply guarded.replaceOrder
    · intro next isNext
      cases isNext
      exact ⟨wellFormed.step request, (Store.order_step wellFormed request).1.trans sameId⟩
    · intro userId participant stripped
      simp only [isOrderParticipant, found, Option.any_some] at participant stripped
      have evicted := World.step_evicts wellFormed request participant stripped
      exact ⟨_, evicted, by rw [sameId], Or.inr rfl⟩
  · exact guarded

theorem removeOrder (guarded : gateway.Guarded) (orderId : Uuid) (status : OrderStatus) :
    (gateway.removeOrder orderId status).Guarded := by
  simp only [OrderGateway.removeOrder]
  split
  · split
    · apply guarded.replaceOrder
      · intro next isNext
        cases isNext
      · intro userId _ _
        exact ⟨_, List.mem_singleton.mpr rfl, rfl, Or.inl rfl⟩
    · exact guarded
  · exact guarded

theorem step (guarded : gateway.Guarded) {label : GatewayLabel}
    (answers : gateway.ChecksAnswer label) : (gateway.step label).Guarded := by
  cases label with
  | connect userId => exact guarded.connect userId
  | disconnect socket => exact guarded.closeSocket socket
  | subscribeOrder socket allowed expired body =>
      exact guarded.subscribeOrder socket allowed expired body
  | unsubscribeOrder socket allowed body =>
      simp only [OrderGateway.step, unsubscribeOrder]
      split
      · exact guarded.of_members fun _ mem => List.mem_of_mem_filter mem
      · exact guarded
  | check index outcome => exact guarded.check answers
  | join index => exact guarded.join index
  | leave index => exact guarded.leave index
  | createOrder id orderNumber now clientId dto =>
      exact guarded.createOrder id orderNumber now clientId dto
  | request orderId request => exact guarded.commitRequest orderId request
  | removeOrder orderId status => exact guarded.removeOrder orderId status
  | dispatch index => exact guarded.dispatch index

theorem initial : OrderGateway.initial.Guarded := by
  constructor
  · intro orderId world found
    cases found
  · intro call mem
    cases mem
  · intro member mem
    cases mem
  · intro member mem
    cases mem

end Guarded

end OrderGateway

end MyBuild
