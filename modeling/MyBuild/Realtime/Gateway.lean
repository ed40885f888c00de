import MyBuild.Library.Runs
import MyBuild.Orders.Deletion
import MyBuild.Realtime.Events

/-!
# The gateway of the sockets

The handlers of the gateway wait for the database, so other messages, commits and broadcasts
come between their parts.  Here each stretch between two waits is one step.  A subscription
is checked, joins the room, and is checked again; the answer of a check comes with its step,
so that a run can make it true, false or an error.

A socket is in a room or it is not; its memberships also remember which subscription joined,
which only the statements ask for.
-/

namespace MyBuild

structure SubscribeAck where
  ok : Bool
  error : Option String
  retryable : Bool
  deriving DecidableEq

/-- What the query for a participant comes to. -/
inductive CheckOutcome where
  | participant
  | stranger
  | throws
  deriving DecidableEq

inductive SubscribePhase where
  | checking
  | joining
  | rechecking
  | leaving
  | answered (ack : SubscribeAck)
  deriving DecidableEq

def SubscribePhase.isAnswered : SubscribePhase → Bool
  | .answered _ => true
  | _ => false

/-- The subscription has joined the room, and has not been checked since. -/
def SubscribePhase.isUnchecked : SubscribePhase → Bool
  | .rechecking | .leaving => true
  | _ => false

/-- The subscription has joined the room and was not refused since. -/
def SubscribePhase.hasJoined : SubscribePhase → Bool
  | .rechecking | .leaving => true
  | .answered ack => ack.ok
  | _ => false

/-- A subscription; `body` is the order it names, if it names one. -/
structure SubscribeCall where
  socket : ℕ
  body : Option Uuid
  phase : SubscribePhase
  deriving DecidableEq

structure AppSocket where
  userId : Uuid
  connected : Bool

/-- The socket is in the room of the order, and the subscription `call` has joined it. -/
structure Membership where
  socket : ℕ
  orderId : Uuid
  call : ℕ
  deriving DecidableEq

/-- The gateway, with the orders its checks read and the broadcasts that are still to be
dispatched.  Sockets and subscriptions are numbered in the order they came. -/
structure OrderGateway where
  orders : Uuid → Option World
  sockets : List AppSocket
  members : List Membership
  calls : List SubscribeCall
  pending : List (List RoomEviction)

/-- A message of a socket, a step of a subscription, a commit, or the dispatch of a broadcast.
`allowed` and `expired` are what the rate window and the clock say when a message arrives. -/
inductive GatewayLabel where
  | connect (userId : Uuid)
  | disconnect (socket : ℕ)
  | subscribeOrder (socket : ℕ) (allowed expired : Bool) (body : Option Uuid)
  | unsubscribeOrder (socket : ℕ) (allowed : Bool) (body : Option Uuid)
  | check (call : ℕ) (outcome : CheckOutcome)
  | join (call : ℕ)
  | leave (call : ℕ)
  | createOrder (id : Uuid) (orderNumber : ℕ) (now : Date) (clientId : Uuid)
      (dto : CreateOrderDto)
  | request (orderId : Uuid) (request : Request)
  | removeOrder (orderId : Uuid) (status : OrderStatus)
  | dispatch (index : ℕ)

namespace OrderGateway

def orderForbidden : String := "Заказ не найден"

def tooManyMessages : String := "Слишком много сообщений, попробуйте ещё раз"

def subscribeFailed : String := "Не удалось подписаться на обновления"

def initial : OrderGateway :=
  { orders := fun _ => none, sockets := [], members := [], calls := [], pending := [] }

variable (gateway : OrderGateway)

/-- The socket is connected; it is in the personal room of its user as long as it is. -/
def isConnected (socket : ℕ) : Bool :=
  (gateway.sockets[socket]?).any AppSocket.connected

def inRoom (socket : ℕ) : Room → Bool
  | .user userId =>
      (gateway.sockets[socket]?).any fun appSocket =>
        appSocket.connected && appSocket.userId == userId
  | .order orderId =>
      gateway.members.any fun member => member.socket == socket && member.orderId == orderId

def isOrderParticipant (userId orderId : Uuid) : Bool :=
  (gateway.orders orderId).any fun world => world.tables.isOrderParticipant userId

def leaveRoom (socket : ℕ) (orderId : Uuid) : OrderGateway :=
  { gateway with
    members := gateway.members.filter fun member =>
      !(member.socket == socket && member.orderId == orderId) }

/-- The socket is closed and leaves every room. -/
def closeSocket (socket : ℕ) : OrderGateway :=
  { gateway with
    sockets := gateway.sockets.modify socket fun appSocket => { appSocket with connected := false }
    members := gateway.members.filter (!·.socket == socket) }

def setPhase (call : ℕ) (phase : SubscribePhase) : OrderGateway :=
  { gateway with calls := gateway.calls.modify call fun old => { old with phase } }

def answer (call : ℕ) (error : Option String) (retryable : Bool) : OrderGateway :=
  gateway.setPhase call (.answered { ok := error.isNone, error, retryable })

def addCall (socket : ℕ) (body : Option Uuid) (phase : SubscribePhase) : OrderGateway :=
  { gateway with calls := gateway.calls ++ [{ socket, body, phase }] }

/-- A subscription arrives; unless it has come to a check, it is answered at once. -/
def subscribeOrder (socket : ℕ) (allowed expired : Bool) (body : Option Uuid) : OrderGateway :=
  if gateway.isConnected socket then
    if allowed then
      if expired then
        (gateway.closeSocket socket).addCall socket body
          (.answered { ok := false, error := some orderForbidden, retryable := false })
      else if body.isSome then gateway.addCall socket body .checking
      else
        gateway.addCall socket body
          (.answered { ok := false, error := some orderForbidden, retryable := false })
    else
      gateway.addCall socket body
        (.answered { ok := false, error := some tooManyMessages, retryable := true })
  else gateway

def unsubscribeOrder (socket : ℕ) (allowed : Bool) (body : Option Uuid) : OrderGateway :=
  match gateway.isConnected socket && allowed, body with
  | true, some orderId => gateway.leaveRoom socket orderId
  | _, _ => gateway

/-- A check is answered.  An error is caught by the wrapper of the handlers, whatever was done
before it. -/
def check (call : ℕ) (outcome : CheckOutcome) : OrderGateway :=
  match (gateway.calls[call]?).map SubscribeCall.phase, outcome with
  | some .checking, .participant => gateway.setPhase call .joining
  | some .checking, .stranger => gateway.answer call (some orderForbidden) false
  | some .rechecking, .participant => gateway.answer call none false
  | some .rechecking, .stranger => gateway.setPhase call .leaving
  | some .checking, .throws => gateway.answer call (some subscribeFailed) true
  | some .rechecking, .throws => gateway.answer call (some subscribeFailed) true
  | _, _ => gateway

def join (call : ℕ) : OrderGateway :=
  match gateway.calls[call]? with
  | some { socket, body := some orderId, phase := .joining } =>
      { gateway.setPhase call .rechecking with
        members := gateway.members ++ [{ socket, orderId, call }] }
  | _ => gateway

def leave (call : ℕ) : OrderGateway :=
  match gateway.calls[call]? with
  | some { socket, body := some orderId, phase := .leaving } =>
      (gateway.leaveRoom socket orderId).answer call (some orderForbidden) false
  | _ => gateway

/-- The connected sockets of one room leave the other. -/
def evictOne (eviction : RoomEviction) : OrderGateway :=
  { gateway with
    members := gateway.members.filter fun member =>
      !(eviction.room == .order member.orderId && gateway.isConnected member.socket &&
        gateway.inRoom member.socket eviction.members) }

def evict (evictions : List RoomEviction) : OrderGateway :=
  evictions.foldl evictOne gateway

def setOrder (orderId : Uuid) (world : Option World) : OrderGateway :=
  { gateway with orders := Function.update gateway.orders orderId world }

/-- A broadcast that evicts nobody changes no room, and is left out. -/
def announce (evictions : List RoomEviction) : OrderGateway :=
  if evictions.isEmpty then gateway
  else { gateway with pending := gateway.pending ++ [evictions] }

def commitRequest (orderId : Uuid) (request : Request) : OrderGateway :=
  match gateway.orders orderId with
  | some world =>
      (gateway.setOrder orderId (some (world.step request))).announce
        (request.evictions world.tables)
  | none => gateway

def removeOrder (orderId : Uuid) (status : OrderStatus) : OrderGateway :=
  match gateway.orders orderId with
  | some world =>
      if Transaction.succeeds (OrdersService.remove orderId status) world.tables then
        (gateway.setOrder orderId none).announce (orderDeletedEvictions orderId)
      else gateway
  | none => gateway

def dispatch (index : ℕ) : OrderGateway :=
  match gateway.pending[index]? with
  | some evictions => ({ gateway with pending := gateway.pending.eraseIdx index }).evict evictions
  | none => gateway

def step (gateway : OrderGateway) : GatewayLabel → OrderGateway
  | .connect userId =>
      { gateway with sockets := gateway.sockets ++ [{ userId, connected := true }] }
  | .disconnect socket => gateway.closeSocket socket
  | .subscribeOrder socket allowed expired body =>
      gateway.subscribeOrder socket allowed expired body
  | .unsubscribeOrder socket allowed body => gateway.unsubscribeOrder socket allowed body
  | .check call outcome => gateway.check call outcome
  | .join call => gateway.join call
  | .leave call => gateway.leave call
  | .createOrder id orderNumber now clientId dto =>
      match gateway.orders id with
      | some _ => gateway
      | none =>
          gateway.setOrder id (some (World.ofTables
            (OrdersService.createOrder id orderNumber now clientId dto)))
  | .request orderId request => gateway.commitRequest orderId request
  | .removeOrder orderId status => gateway.removeOrder orderId status
  | .dispatch index => gateway.dispatch index

section

variable {gateway : OrderGateway} {socket call : ℕ} {phase : SubscribePhase}

theorem getElem?_setPhase (index : ℕ) :
    (gateway.setPhase call phase).calls[index]? =
      if call = index then (gateway.calls[index]?).map fun old => { old with phase }
      else gateway.calls[index]? := by
  simp only [setPhase, List.getElem?_modify]
  split
  · rfl
  · simp

@[simp]
theorem announce_orders (evictions : List RoomEviction) :
    (gateway.announce evictions).orders = gateway.orders := by
  simp only [announce]
  split <;> rfl

@[simp]
theorem announce_sockets (evictions : List RoomEviction) :
    (gateway.announce evictions).sockets = gateway.sockets := by
  simp only [announce]
  split <;> rfl

@[simp]
theorem announce_calls (evictions : List RoomEviction) :
    (gateway.announce evictions).calls = gateway.calls := by
  simp only [announce]
  split <;> rfl

@[simp]
theorem announce_members (evictions : List RoomEviction) :
    (gateway.announce evictions).members = gateway.members := by
  simp only [announce]
  split <;> rfl

theorem mem_announce_pending {evictions announced : List RoomEviction} :
    announced ∈ (gateway.announce evictions).pending ↔
      announced ∈ gateway.pending ∨ announced = evictions ∧ evictions ≠ [] := by
  by_cases isEmpty : evictions = []
  · simp [announce, isEmpty]
  · simp [announce, isEmpty]

theorem isOrderParticipant_setOrder (userId id orderId : Uuid) (world : Option World) :
    (gateway.setOrder orderId world).isOrderParticipant userId id =
      if id = orderId then world.any fun next => next.tables.isOrderParticipant userId
      else gateway.isOrderParticipant userId id := by
  simp only [isOrderParticipant, setOrder, Function.update_apply]
  split <;> rfl

@[simp]
theorem isOrderParticipant_announce (userId orderId : Uuid) (evictions : List RoomEviction) :
    (gateway.announce evictions).isOrderParticipant userId orderId =
      gateway.isOrderParticipant userId orderId := by
  simp only [isOrderParticipant, announce_orders]

/-- An eviction takes memberships away, and nothing else changes. -/
theorem evict_eq (evictions : List RoomEviction) :
    ∃ members, gateway.evict evictions = { gateway with members } ∧
      ∀ member ∈ members, member ∈ gateway.members := by
  simp only [evict]
  induction evictions generalizing gateway with
  | nil => exact ⟨gateway.members, rfl, fun _ mem => mem⟩
  | cons eviction evictions ih =>
      rcases @ih (gateway.evictOne eviction) with ⟨members, same, kept⟩
      exact ⟨members, same, fun member mem => List.mem_of_mem_filter (kept member mem)⟩

theorem not_mem_evictOne {eviction : RoomEviction} {member : Membership}
    (room : eviction.room = .order member.orderId)
    (connected : gateway.isConnected member.socket = true)
    (named : eviction.members = .order member.orderId ∨
      gateway.inRoom member.socket eviction.members = true) :
    member ∉ (gateway.evictOne eviction).members := by
  intro mem
  rcases List.mem_filter.mp mem with ⟨old, stays⟩
  have present : gateway.inRoom member.socket eviction.members = true := by
    rcases named with sameRoom | present
    · rw [sameRoom]
      exact List.any_eq_true.mpr ⟨member, old, by simp⟩
    · exact present
  simp [room, connected, present] at stays

/-- A connected socket that an eviction names is not in the room afterwards. -/
theorem not_mem_evict {evictions : List RoomEviction} {eviction : RoomEviction}
    {member : Membership} {appSocket : AppSocket} (mem : eviction ∈ evictions)
    (room : eviction.room = .order member.orderId)
    (found : gateway.sockets[member.socket]? = some appSocket)
    (connected : appSocket.connected = true)
    (named : eviction.members = .order member.orderId ∨
      eviction.members = .user appSocket.userId) :
    member ∉ (gateway.evict evictions).members := by
  simp only [evict]
  induction evictions generalizing gateway with
  | nil => cases mem
  | cons first evictions ih =>
      rcases List.mem_cons.mp mem with rfl | later
      · rcases @evict_eq (gateway.evictOne eviction) evictions with ⟨members, same, kept⟩
        intro stays
        rw [List.foldl_cons, ← evict, same] at stays
        refine not_mem_evictOne room ?_ ?_ (kept member stays)
        · simp [isConnected, found, connected]
        · rcases named with sameRoom | isUser
          · exact Or.inl sameRoom
          · exact Or.inr (by simp [isUser, inRoom, found, connected])
      · exact @ih (gateway.evictOne first) later found

end

end OrderGateway

end MyBuild
