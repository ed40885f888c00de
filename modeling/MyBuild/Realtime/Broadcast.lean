import MyBuild.Orders.Effects
import MyBuild.Orders.Notices
import MyBuild.Realtime.Gateway

/-!
# What is broadcast after a transition

A committed transition becomes a list of messages, each for some rooms.  The room of the
order and the feed of the companies hear that the order has moved and nothing more;
what concerns one offer, or carries a text, goes to single users.  Those who have lost
their place in the order leave its room before the messages go out.
-/

namespace MyBuild

inductive SocketEvent where
  | orderCreated
  | orderStatusChanged
  | offerCreated
  | offerUpdated
  | offerStatusChanged
  | orderFilesUpdated
  | orderAreaVerified
  | notificationCreated
  deriving DecidableEq

/-- A room a message can go to. -/
inductive SocketRoom where
  | room (room : Room)
  | companyFeed
  deriving DecidableEq

inductive MessagePayload where
  | order (orderId : Uuid)
  | offer (orderId offerId : Uuid)
  | notification (notification : Notification)
  deriving DecidableEq

structure RealtimeMessage where
  rooms : List SocketRoom
  event : SocketEvent
  payload : MessagePayload
  deriving DecidableEq

structure RealtimeBroadcast where
  evictions : List RoomEviction
  messages : List RealtimeMessage

/-- A committed transition with the order it has left and the notifications it has created. -/
structure CommittedTransition extends AppliedTransition where
  order : Order
  notifications : List Notification

namespace SocketRoom

def user (userId : Uuid) : SocketRoom := room (.user userId)

def order (orderId : Uuid) : SocketRoom := room (.order orderId)

end SocketRoom

def notificationMessages (notifications : List Notification) : List RealtimeMessage :=
  notifications.map fun notification =>
    { rooms := [.user notification.userId]
      event := .notificationCreated
      payload := .notification notification }

def transitionBroadcast (applied : CommittedTransition) (offerEvent : Option SocketEvent) :
    RealtimeBroadcast :=
  let orderId := applied.order.id
  let orderRoom := SocketRoom.order orderId
  let clientRoom := SocketRoom.user applied.order.clientId
  let offerMessages := offerEvent.toList.map fun event =>
    { rooms := [clientRoom, .user applied.companyId]
      event
      payload := .offer orderId applied.offerId : RealtimeMessage }
  let statusMessages :=
    if applied.fromStatus ≠ applied.nextStatus then
      [{ rooms :=
          [orderRoom, clientRoom] ++
            if acceptsOffers applied.fromStatus ≠ acceptsOffers applied.nextStatus then
              [.companyFeed]
            else []
         event := .orderStatusChanged
         payload := .order orderId : RealtimeMessage }]
    else []
  let updateMessages := applied.offerUpdates.map fun update =>
    { rooms := [clientRoom, .user update.companyId]
      event := .offerStatusChanged
      payload := .offer orderId update.offerId : RealtimeMessage }
  { evictions := transitionEvictions orderId applied.toAppliedTransition
    messages := offerMessages ++ statusMessages ++ updateMessages ++
      notificationMessages applied.notifications }

/-- The event about the offer itself; only a submission says whether the offer existed. -/
def offerEventOf (offerExisted : Option Bool) : Option SocketEvent :=
  offerExisted.map fun existed => if existed then .offerUpdated else .offerCreated

namespace OrderGateway

/-- The connected socket is in the room; `feed` are the sockets that follow the feed. -/
def hears (gateway : OrderGateway) (feed : List ℕ) (socket : ℕ) : SocketRoom → Bool
  | .room room => gateway.isConnected socket && gateway.inRoom socket room
  | .companyFeed => gateway.isConnected socket && feed.contains socket

/-- The messages go to every socket of their rooms, but what is no notification not to the
socket that has acted. -/
def emit (gateway : OrderGateway) (feed : List ℕ) (messages : List RealtimeMessage)
    (exceptSocket : Option ℕ) : List (ℕ × RealtimeMessage) :=
  messages.flatMap fun message =>
    ((List.range gateway.sockets.length).filter fun socket =>
        (message.event == .notificationCreated || exceptSocket != some socket) &&
          message.rooms.any (gateway.hears feed socket)).map fun socket =>
      (socket, message)

/-- Those who have to leave leave before the messages are sent. -/
def dispatchBroadcast (gateway : OrderGateway) (feed : List ℕ) (broadcast : RealtimeBroadcast)
    (actorSocket : Option ℕ) : OrderGateway × List (ℕ × RealtimeMessage) :=
  let evicted := gateway.evict broadcast.evictions
  (evicted, evicted.emit feed broadcast.messages actorSocket)

end OrderGateway

namespace OrderTransitionService

/-- The notifications that the transition creates in these rows. -/
def createdNotifications (environment : Environment) (command : OrderTransitionCommand)
    (tables : OrderTables) : List Notification :=
  match (resolved? command tables).map fun offer =>
      OrderStateMachine.transition (contextOf tables.order)
        (buildEvent environment command offer tables) with
  | some (.ok result) =>
      (WriteSet.ofEffects tables.order.id result.nextStatus
        result.effects).notificationsToCreate.mapIdx (NotificationDraft.toRow environment)
  | _ => []

/-- What `run` hands on to the broadcast. -/
def committed (environment : Environment) (command : OrderTransitionCommand)
    (before after : OrderTables) (applied : AppliedTransition) : CommittedTransition :=
  { applied with
    order := after.order
    notifications := createdNotifications environment command before }

end OrderTransitionService

/-- A notification row without its texts. -/
def Notification.toNotice (notification : Notification) : NoticeOf :=
  { userId := notification.userId
    type := notification.type
    collapseKey := notification.collapseKey }

theorem Order.update_kept {order updated : Order} {now : Date} {data : OrderUpdateInput}
    (written : order.update now data = .ok updated) :
    updated.status = data.status ∧ updated.id = order.id ∧ updated.clientId = order.clientId := by
  simp only [Order.update] at written
  cases price : data.price with
  | none =>
      rw [price] at written
      cases written
      exact ⟨rfl, rfl, rfl⟩
  | some text =>
      cases parsed : Decimal.ofText? text with
      | none =>
          simp [price, parsed, throw, throwThe, MonadExceptOf.throw, bind, Except.bind] at written
      | some amount =>
          simp only [price, parsed] at written
          cases written
          exact ⟨rfl, rfl, rfl⟩

namespace OrderTransitionService

variable {environment : Environment} {command : OrderTransitionCommand}
  {tables next : OrderTables} {applied : AppliedTransition}

theorem map_toNotice_mapIdx (drafts : List NotificationDraft) :
    (drafts.mapIdx (NotificationDraft.toRow environment)).map Notification.toNotice =
      drafts.map NotificationDraft.toNotice := by
  apply List.ext_getElem?
  intro index
  simp only [List.getElem?_map, List.getElem?_mapIdx, Option.map_map]
  rfl

theorem buildEvent_offer (offer : Offer) :
    (buildEvent environment command offer tables).offer = ⟨offer.id, offer.companyId⟩ := by
  cases command <;> rfl

/-- What a committed transition hands on, and which offer and effects it comes from. -/
structure Reports (environment : Environment) (command : OrderTransitionCommand)
    (tables next : OrderTables) (applied : AppliedTransition) (offer : Offer)
    (effects : List OrderSideEffect) : Prop where
  offer_mem : offer ∈ tables.offers
  tells : List.Forall₂ (Tells (contextOf tables.order) command.type) (statusChanges effects)
    (noticesOf effects)
  changed : (⟨⟨offer.id, offer.companyId⟩, command.type.offerStatus⟩ : StatusChange) ∈
    statusChanges effects
  updates : applied.offerUpdates = (statusChanges effects).map StatusChange.toUpdate
  named : ∀ update ∈ applied.offerUpdates,
    ∃ row ∈ tables.offers, row.id = update.offerId ∧ row.companyId = update.companyId
  notices : (createdNotifications environment command tables).map Notification.toNotice =
    noticesOf effects
  offerId : applied.offerId = offer.id
  companyId : applied.companyId = offer.companyId
  fromStatus : applied.fromStatus = tables.order.status
  nextStatus : applied.nextStatus = next.order.status
  orderId : next.order.id = tables.order.id
  clientId : next.order.clientId = tables.order.clientId

theorem run_reports (returned : (run environment command).run tables = .ok (applied, next)) :
    ∃ offer effects, Reports environment command tables next applied offer effects := by
  rcases run_decided returned with
    ⟨_, offer, result, resolved, decision, ranEffects, offerId, companyId, fromStatus, nextStatus⟩
  rcases OrderStateMachine.transition_eq_ok_iff.mp decision with ⟨_, _, _, handled, wasStatus⟩
  have tells := tells_handled handled
  have changes := statusChanges_handled handled
  rw [buildEvent_type] at tells changes handled
  rcases foldl_addEffect tables.order.id result.effects
    ⟨⟨result.nextStatus, none, none, none, none⟩, [], []⟩ with ⟨status, updates, notices⟩
  rcases run_applyEffects_ok ranEffects with ⟨written, order, updated, same⟩
  have isOrder : next.order = order := same.1
  have kept := Order.update_kept updated
  rw [WriteSet.ofEffects, status] at kept
  have mem : offer ∈ tables.offers := by
    simp only [resolved?] at resolved
    split at resolved <;> exact List.mem_of_find?_eq_some resolved
  refine ⟨offer, result.effects, ?_⟩
  constructor
  · exact mem
  · exact tells
  · rw [changes, buildEvent_offer]
    exact List.mem_cons_self
  · exact written.trans updates
  · rw [written]
    exact updates_named mem handled
  · simp only [createdNotifications, resolved, Option.map_some, decision]
    rw [map_toNotice_mapIdx]
    exact notices
  · exact offerId
  · exact companyId
  · exact fromStatus.trans wasStatus
  · rw [nextStatus, isOrder, kept.1]
  · rw [isOrder, kept.2.1]
  · rw [isOrder, kept.2.2]

end OrderTransitionService

/-- The four kinds of messages that follow a transition. -/
inductive Announces (applied : CommittedTransition) : RealtimeMessage → Prop where
  | offer (event : SocketEvent) :
      Announces applied
        { rooms := [.user applied.order.clientId, .user applied.companyId]
          event
          payload := .offer applied.order.id applied.offerId }
  | status (rooms : List SocketRoom)
      (listed : ∀ room ∈ rooms, room = .order applied.order.id ∨
        room = .user applied.order.clientId ∨ room = .companyFeed)
      (enters : .companyFeed ∈ rooms →
        acceptsOffers applied.fromStatus ≠ acceptsOffers applied.nextStatus) :
      Announces applied
        { rooms, event := .orderStatusChanged, payload := .order applied.order.id }
  | update (update : OfferStatusUpdate) (mem : update ∈ applied.offerUpdates) :
      Announces applied
        { rooms := [.user applied.order.clientId, .user update.companyId]
          event := .offerStatusChanged
          payload := .offer applied.order.id update.offerId }
  | notification (notification : Notification) (mem : notification ∈ applied.notifications) :
      Announces applied
        { rooms := [.user notification.userId]
          event := .notificationCreated
          payload := .notification notification }

section

variable {applied : CommittedTransition} {offerEvent : Option SocketEvent}
  {message : RealtimeMessage}

theorem announces_of_mem (mem : message ∈ (transitionBroadcast applied offerEvent).messages) :
    Announces applied message := by
  simp only [transitionBroadcast, notificationMessages, List.mem_append, List.mem_map] at mem
  rcases mem with ((⟨event, _, rfl⟩ | status) | ⟨update, mem, rfl⟩) | ⟨notification, mem, rfl⟩
  · exact .offer event
  · split at status
    case isTrue moved =>
      rw [List.mem_singleton.mp status]
      apply Announces.status
      · intro room inRooms
        by_cases enters : acceptsOffers applied.fromStatus = acceptsOffers applied.nextStatus
        · simp [enters] at inRooms
          exact inRooms.imp_right Or.inl
        · simpa [enters] using inRooms
      · intro inFeed same
        simp [same, SocketRoom.order, SocketRoom.user] at inFeed
    case isFalse => cases status
  · exact .update update mem
  · exact .notification notification mem

/-- The feed hears of a transition when the order enters or leaves it, and only then. -/
theorem feed_hears_iff :
    (∃ message ∈ (transitionBroadcast applied offerEvent).messages,
        .companyFeed ∈ message.rooms) ↔
      acceptsOffers applied.fromStatus ≠ acceptsOffers applied.nextStatus := by
  constructor
  · rintro ⟨message, mem, inFeed⟩
    cases announces_of_mem mem with
    | offer | update | notification => simp [SocketRoom.user] at inFeed
    | status rooms listed enters => exact enters inFeed
  · intro enters
    have moved : applied.fromStatus ≠ applied.nextStatus := by
      intro same
      exact enters (congrArg acceptsOffers same)
    let status : RealtimeMessage :=
      { rooms := [.order applied.order.id, .user applied.order.clientId, .companyFeed]
        event := .orderStatusChanged
        payload := .order applied.order.id }
    refine ⟨status, ?_, by simp [status]⟩
    simp [transitionBroadcast, status, moved, enters]

/-- What goes to the room of an order or to the feed carries the order's identifier only. -/
theorem shared_payload (mem : message ∈ (transitionBroadcast applied offerEvent).messages)
    (shared : (∃ orderId, .order orderId ∈ message.rooms) ∨ .companyFeed ∈ message.rooms) :
    message.payload = .order applied.order.id := by
  cases announces_of_mem mem with
  | offer | update | notification => simp [SocketRoom.user, SocketRoom.order] at shared
  | status => rfl

end

namespace OrderGateway

variable {gateway : OrderGateway} {feed : List ℕ} {socket : ℕ} {appSocket : AppSocket}

theorem mem_emit {messages : List RealtimeMessage} {exceptSocket : Option ℕ}
    {delivery : ℕ × RealtimeMessage}
    (mem : delivery ∈ gateway.emit feed messages exceptSocket) :
    delivery.2 ∈ messages ∧
      ∃ room ∈ delivery.2.rooms, gateway.hears feed delivery.1 room = true := by
  simp only [emit, List.mem_flatMap, List.mem_map, List.mem_filter, Bool.and_eq_true,
    List.any_eq_true] at mem
  rcases mem with ⟨message, isMessage, socket, ⟨_, _, heard⟩, rfl⟩
  exact ⟨isMessage, heard⟩

/-- A connected socket that follows the feed gets what goes to the feed, unless it has acted. -/
theorem mem_emit_of_feed {messages : List RealtimeMessage} {exceptSocket : Option ℕ}
    {message : RealtimeMessage} {socket : ℕ} (mem : message ∈ messages)
    (toFeed : .companyFeed ∈ message.rooms) (connected : gateway.isConnected socket = true)
    (follows : socket ∈ feed) (notActor : exceptSocket ≠ some socket) :
    (socket, message) ∈ gateway.emit feed messages exceptSocket := by
  have known : socket < gateway.sockets.length := by
    cases found : gateway.sockets[socket]? with
    | none => simp [isConnected, found] at connected
    | some appSocket => exact (List.getElem?_eq_some_iff.mp found).1
  have heard : gateway.hears feed socket .companyFeed = true := by
    simp [hears, connected, follows]
  simp only [emit, List.mem_flatMap, List.mem_map, List.mem_filter, List.mem_range,
    Bool.and_eq_true, Bool.or_eq_true, bne_iff_ne, List.any_eq_true]
  exact ⟨message, mem, socket, ⟨known, Or.inr notActor, _, toFeed, heard⟩, rfl⟩

@[simp]
theorem evict_sockets (evictions : List RoomEviction) :
    (gateway.evict evictions).sockets = gateway.sockets := by
  rcases @evict_eq gateway evictions with ⟨members, same, _⟩
  rw [same]

/-- Who hears what goes to a user is that user. -/
theorem eq_of_hears_user {userId : Uuid} (found : gateway.sockets[socket]? = some appSocket)
    (heard : gateway.hears feed socket (.user userId) = true) : appSocket.userId = userId := by
  simp only [hears, SocketRoom.user, inRoom, found, Option.any_some, Bool.and_eq_true,
    beq_iff_eq] at heard
  exact heard.2.2

end OrderGateway

namespace OrderTransitionService

variable {environment : Environment} {command : OrderTransitionCommand}
  {tables next : OrderTables} {applied : AppliedTransition} {gateway : OrderGateway}
  {feed : List ℕ} {socket : ℕ} {appSocket : AppSocket}

/-- The room of the order holds only sockets of participants. -/
def RoomHeld (gateway : OrderGateway) (tables : OrderTables) : Prop :=
  ∀ member ∈ gateway.members, member.orderId = tables.order.id →
    ∀ appSocket, gateway.sockets[member.socket]? = some appSocket →
      tables.isOrderParticipant appSocket.userId = true

/-- After the evictions, the room of the order holds only sockets of those who are still
participants. -/
theorem participant_of_hears_order (keyed : tables.WellKeyed)
    (returned : (run environment command).run tables = .ok (applied, next))
    (held : RoomHeld gateway tables) (found : gateway.sockets[socket]? = some appSocket)
    (heard : (gateway.evict (transitionEvictions tables.order.id applied)).hears feed socket
      (.order tables.order.id) = true) :
    next.isOrderParticipant appSocket.userId = true := by
  simp only [OrderGateway.hears, SocketRoom.order, OrderGateway.isConnected,
    OrderGateway.inRoom, OrderGateway.evict_sockets, found, Option.any_some, Bool.and_eq_true,
    List.any_eq_true, beq_iff_eq] at heard
  rcases heard with ⟨connected, member, mem, rfl, isOrder⟩
  rcases @OrderGateway.evict_eq gateway (transitionEvictions tables.order.id applied) with
    ⟨members, same, kept⟩
  have before : member ∈ gateway.members := by
    rw [same] at mem
    exact kept member mem
  have participant := held member before isOrder appSocket found
  by_contra left
  have evicted := run_evicts keyed.offerIds returned participant (by simpa using left)
  exact OrderGateway.not_mem_evict evicted (by rw [isOrder]) found connected (Or.inr rfl) mem

/-- The companies of the offers a transition has changed, and the client. -/
def Concerned (tables : OrderTables) (applied : AppliedTransition) (userId : Uuid) : Prop :=
  userId = tables.order.clientId ∨
    ∃ update ∈ applied.offerUpdates, update.companyId = userId

/-- The user is the client, or the company of the offer. -/
def OwnOffer (tables : OrderTables) (offerId userId : Uuid) : Prop :=
  userId = tables.order.clientId ∨
    ∃ offer ∈ tables.offers, offer.id = offerId ∧ offer.companyId = userId

/-- A notification of the transition is for the client or for the company of an offer it has
changed, and names no other. -/
theorem notification_told (returned : (run environment command).run tables = .ok (applied, next))
    {notification : Notification}
    (mem : notification ∈ createdNotifications environment command tables) :
    ∃ update ∈ applied.offerUpdates, ∃ offer ∈ tables.offers, offer.id = update.offerId ∧
      offer.companyId = update.companyId ∧
      (notification.userId = tables.order.clientId ∨ notification.userId = offer.companyId) ∧
      ∀ key, notification.collapseKey = some key → key = notificationKeys.offer offer.id := by
  rcases run_reports returned with ⟨_, effects, reports⟩
  have told : notification.toNotice ∈ noticesOf effects := by
    rw [← reports.notices]
    exact List.mem_map_of_mem mem
  rcases exists_change_of_tells reports.tells told with ⟨change, isChange, addressee, _, key⟩
  have isUpdate : change.toUpdate ∈ applied.offerUpdates := by
    rw [reports.updates]
    exact List.mem_map_of_mem isChange
  rcases reports.named _ isUpdate with ⟨offer, offerMem, sameId, sameCompany⟩
  refine ⟨change.toUpdate, isUpdate, offer, offerMem, sameId, sameCompany, ?_, ?_⟩
  · cases acts : command.type.companyActs with
    | true =>
        simp only [acts, if_true] at addressee
        exact Or.inl addressee
    | false =>
        simp only [acts, Bool.false_eq_true, if_false] at addressee
        exact Or.inr (addressee.trans sameCompany.symm)
  · intro text isKey
    have about : notification.toNotice.collapseKey = some text := isKey
    rw [key] at about
    split at about
    case isTrue =>
      rw [sameId]
      exact (Option.some.inj about).symm
    case isFalse => cases about

section Heard

variable {message : RealtimeMessage} {room : SocketRoom}
  (announced : Announces (committed environment command tables next applied) message)
  (inRooms : room ∈ message.rooms) (found : gateway.sockets[socket]? = some appSocket)
  (heard : gateway.hears feed socket room = true)

include announced inRooms found heard

theorem names_own_offer (returned : (run environment command).run tables = .ok (applied, next))
    {orderId offerId : Uuid} (isOffer : message.payload = .offer orderId offerId) :
    OwnOffer tables offerId appSocket.userId := by
  rcases run_reports returned with ⟨offer, effects, reports⟩
  cases announced with
  | status | notification => cases isOffer
  | offer event =>
      cases isOffer
      simp only [committed, List.mem_cons, List.not_mem_nil, or_false] at inRooms
      rcases inRooms with rfl | rfl
      · exact Or.inl ((OrderGateway.eq_of_hears_user found heard).trans reports.clientId)
      · right
        refine ⟨offer, reports.offer_mem, reports.offerId.symm, ?_⟩
        rw [OrderGateway.eq_of_hears_user found heard, reports.companyId]
  | update update isUpdate =>
      cases isOffer
      rcases reports.named update isUpdate with ⟨row, rowMem, sameId, sameCompany⟩
      simp only [committed, List.mem_cons, List.not_mem_nil, or_false] at inRooms
      rcases inRooms with rfl | rfl
      · exact Or.inl ((OrderGateway.eq_of_hears_user found heard).trans reports.clientId)
      · right
        refine ⟨row, rowMem, sameId, ?_⟩
        rw [OrderGateway.eq_of_hears_user found heard, sameCompany]

theorem carries_own_notification
    (returned : (run environment command).run tables = .ok (applied, next))
    {notification : Notification} (isNotification : message.payload = .notification notification) :
    appSocket.userId = notification.userId ∧
      ∃ offer ∈ tables.offers, OwnOffer tables offer.id appSocket.userId ∧
        ∀ key, notification.collapseKey = some key → key = notificationKeys.offer offer.id := by
  cases announced with
  | status | offer | update => cases isNotification
  | notification told isTold =>
      cases isNotification
      have isUser : appSocket.userId = notification.userId := by
        rw [List.mem_singleton.mp inRooms] at heard
        exact OrderGateway.eq_of_hears_user found heard
      rcases notification_told returned isTold with
        ⟨update, _, offer, offerMem, _, _, addressee, key⟩
      refine ⟨isUser, offer, offerMem, ?_, key⟩
      rw [OwnOffer, isUser]
      rcases addressee with isClient | isCompany
      · exact Or.inl isClient
      · exact Or.inr ⟨offer, offerMem, rfl, isCompany.symm⟩

end Heard

/-- Apart from the feed, a message reaches only participants and those it is about. -/
theorem heard_by_concerned (keyed : tables.WellKeyed)
    (returned : (run environment command).run tables = .ok (applied, next))
    (held : RoomHeld gateway tables) {message : RealtimeMessage} {room : SocketRoom}
    (announced : Announces (committed environment command tables next applied) message)
    (inRooms : room ∈ message.rooms) (notFeed : room ≠ .companyFeed)
    (found : gateway.sockets[socket]? = some appSocket)
    (heard : (gateway.evict (transitionEvictions tables.order.id applied)).hears feed socket room =
      true) :
    next.isOrderParticipant appSocket.userId = true ∨
      Concerned tables applied appSocket.userId := by
  rcases run_reports returned with ⟨offer, effects, reports⟩
  have kept : (gateway.evict (transitionEvictions tables.order.id applied)).sockets[socket]? =
      some appSocket := by
    rwa [OrderGateway.evict_sockets]
  have toUser : ∀ userId, room = .user userId → userId = next.order.clientId ∨
      (∃ update ∈ applied.offerUpdates, update.companyId = userId) →
        Concerned tables applied appSocket.userId := by
    rintro userId rfl addressee
    rw [Concerned, OrderGateway.eq_of_hears_user kept heard, ← reports.clientId]
    exact addressee
  cases announced with
  | offer event =>
      simp only [committed, List.mem_cons, List.not_mem_nil, or_false] at inRooms
      rcases inRooms with isClient | isCompany
      · exact Or.inr (toUser _ isClient (Or.inl rfl))
      · have isUpdate : (⟨⟨offer.id, offer.companyId⟩, command.type.offerStatus⟩ :
            StatusChange).toUpdate ∈ applied.offerUpdates := by
          rw [reports.updates]
          exact List.mem_map_of_mem reports.changed
        exact Or.inr (toUser _ isCompany (Or.inr ⟨_, isUpdate, reports.companyId.symm⟩))
  | status rooms listed enters =>
      rcases listed room inRooms with isOrder | isClient | isFeed
      · have isRoom : room = .order tables.order.id := by
          rw [← reports.orderId]
          exact isOrder
        subst isRoom
        exact Or.inl (participant_of_hears_order keyed returned held found heard)
      · exact Or.inr (toUser _ isClient (Or.inl rfl))
      · exact absurd isFeed notFeed
  | update update isUpdate =>
      simp only [committed, List.mem_cons, List.not_mem_nil, or_false] at inRooms
      rcases inRooms with isClient | isCompany
      · exact Or.inr (toUser _ isClient (Or.inl rfl))
      · exact Or.inr (toUser _ isCompany (Or.inr ⟨update, isUpdate, rfl⟩))
  | notification told isTold =>
      rcases notification_told returned isTold with
        ⟨update, isUpdate, offer, _, _, sameCompany, addressee, _⟩
      refine Or.inr (toUser _ (List.mem_singleton.mp inRooms) ?_)
      rcases addressee with isClient | isCompany
      · exact Or.inl (isClient.trans reports.clientId.symm)
      · exact Or.inr ⟨update, isUpdate, (isCompany.trans sameCompany).symm⟩

/-- Whatever a transition writes, its broadcast keeps offers apart: what names an offer or
carries a notification reaches only the client and the company of that offer; apart from the
feed, a message reaches only the client, a company whose offer is still in play, or one whose
own offer has changed; the shared rooms hear the order's identifier only; and a message goes to the
feed, and is delivered to every connected socket that follows it but the one that has acted, if and
only if the order has entered or left it. -/
theorem transition_reveals (keyed : tables.WellKeyed)
    (returned : (run environment command).run tables = .ok (applied, next))
    (held : RoomHeld gateway tables) (feed : List ℕ) (offerExisted : Option Bool)
    (actorSocket : Option ℕ) :
    let broadcast := transitionBroadcast (committed environment command tables next applied)
      (offerEventOf offerExisted)
    let dispatched := gateway.dispatchBroadcast feed broadcast actorSocket
    (∀ delivery ∈ dispatched.2, ∀ appSocket, gateway.sockets[delivery.1]? = some appSocket →
      (∀ orderId offerId, delivery.2.payload = .offer orderId offerId →
        OwnOffer tables offerId appSocket.userId) ∧
      (∀ notification, delivery.2.payload = .notification notification →
        appSocket.userId = notification.userId ∧
          ∃ offer ∈ tables.offers, OwnOffer tables offer.id appSocket.userId ∧
            ∀ key, notification.collapseKey = some key → key = notificationKeys.offer offer.id) ∧
      ((∃ room ∈ delivery.2.rooms, room ≠ .companyFeed ∧
          dispatched.1.hears feed delivery.1 room = true) →
        next.isOrderParticipant appSocket.userId = true ∨
          Concerned tables applied appSocket.userId)) ∧
    (∀ message ∈ broadcast.messages,
      (∃ orderId, .order orderId ∈ message.rooms) ∨ .companyFeed ∈ message.rooms →
        message.payload = .order tables.order.id) ∧
    ((∃ message ∈ broadcast.messages, .companyFeed ∈ message.rooms) ↔
      acceptsOffers tables.order.status ≠ acceptsOffers next.order.status) ∧
    (∀ socket ∈ feed, gateway.isConnected socket = true → actorSocket ≠ some socket →
      ((∃ delivery ∈ dispatched.2, delivery.1 = socket ∧ .companyFeed ∈ delivery.2.rooms) ↔
        acceptsOffers tables.order.status ≠ acceptsOffers next.order.status)) := by
  intro broadcast dispatched
  rcases run_reports returned with ⟨offer, effects, reports⟩
  have sameEvictions : broadcast.evictions = transitionEvictions tables.order.id applied := by
    rw [← reports.orderId]
    rfl
  have feedHears : (∃ message ∈ broadcast.messages, .companyFeed ∈ message.rooms) ↔
      acceptsOffers tables.order.status ≠ acceptsOffers next.order.status := by
    rw [← reports.fromStatus, ← reports.nextStatus]
    exact feed_hears_iff
  refine ⟨?_, ?_, feedHears, ?_⟩
  · intro delivery mem appSocket found
    rcases OrderGateway.mem_emit mem with ⟨isMessage, room, inRooms, heard⟩
    have announced := announces_of_mem isMessage
    have kept : dispatched.1.sockets[delivery.1]? = some appSocket := by
      simpa [dispatched, OrderGateway.dispatchBroadcast] using found
    refine ⟨?_, ?_, ?_⟩
    · intro orderId offerId isOffer
      exact names_own_offer announced inRooms kept heard returned isOffer
    · intro notification isNotification
      exact carries_own_notification announced inRooms kept heard returned isNotification
    · rintro ⟨room, inRooms, notFeed, heard⟩
      simp only [dispatched, OrderGateway.dispatchBroadcast, sameEvictions] at heard
      exact heard_by_concerned keyed returned held announced inRooms notFeed found heard
  · intro message mem shared
    rw [← reports.orderId]
    exact shared_payload mem shared
  · intro socket follows connected notActor
    rw [← feedHears]
    constructor
    · rintro ⟨delivery, mem, -, toFeed⟩
      exact ⟨delivery.2, (OrderGateway.mem_emit mem).1, toFeed⟩
    · rintro ⟨message, mem, toFeed⟩
      have stays : dispatched.1.isConnected socket = true := by
        simpa [dispatched, OrderGateway.dispatchBroadcast, OrderGateway.isConnected]
          using connected
      exact ⟨(socket, message),
        OrderGateway.mem_emit_of_feed mem toFeed stays follows notActor, rfl, toFeed⟩

/-- The client chooses one of two offers; both companies follow the order, a third one the feed. -/
theorem transition_reveals_example :
    let tables := (reached ⟨1⟩ 1 exampleMoment ⟨9⟩ exampleOrder
      [exampleSubmission ⟨2⟩ ⟨11⟩ 100, exampleSubmission ⟨3⟩ ⟨12⟩ 200]).tables
    let command : OrderTransitionCommand := .offerAccepted ⟨1⟩ ⟨11⟩ none
    let gateway : OrderGateway :=
      { OrderGateway.initial with
        sockets := [⟨⟨9⟩, true⟩, ⟨⟨2⟩, true⟩, ⟨⟨3⟩, true⟩, ⟨⟨4⟩, true⟩]
        members := [⟨0, ⟨1⟩, 0⟩, ⟨1, ⟨1⟩, 1⟩, ⟨2, ⟨1⟩, 2⟩] }
    RoomHeld gateway tables ∧
      ∃ applied next, (run (exampleEnvironment ⟨13⟩) command).run tables = .ok (applied, next) ∧
        ∃ delivery ∈ (gateway.dispatchBroadcast [3] (transitionBroadcast
            (committed (exampleEnvironment ⟨13⟩) command tables next applied) none) (some 0)).2,
          delivery.1 = 3 ∧ .companyFeed ∈ delivery.2.rooms := by
  intro tables command gateway
  have keyed : tables.WellKeyed := (reached_coupled _ _ _ _ _ _).1.keyed
  have held : RoomHeld gateway tables := by
    have owner : tables.isOrderParticipant ⟨9⟩ = true := by decide +kernel
    have first : tables.isOrderParticipant ⟨2⟩ = true := by decide +kernel
    have second : tables.isOrderParticipant ⟨3⟩ = true := by decide +kernel
    simp only [RoomHeld, gateway, List.forall_mem_cons]
    refine ⟨?_, ?_, ?_, by simp⟩ <;> rintro - _ ⟨⟩
    · exact owner
    · exact first
    · exact second
  have succeeds : Transaction.succeeds (run (exampleEnvironment ⟨13⟩) command) tables = true := by
    decide +kernel
  have leaves : acceptsOffers tables.order.status ≠ acceptsOffers
      (Transaction.commit (run (exampleEnvironment ⟨13⟩) command) tables).order.status := by
    decide +kernel
  rcases Transaction.succeeds_iff.mp succeeds with ⟨applied, returned⟩
  refine ⟨held, applied, _, returned, ?_⟩
  exact ((transition_reveals keyed returned held [3] none (some 0)).2.2.2 3 (by decide) rfl
    (by decide)).mpr leaves

end OrderTransitionService

end MyBuild
