import MyBuild.Orders.Bystanders
import MyBuild.Realtime.Broadcast

/-!
# Who is told of a change

Every request that moves an order ends in one broadcast.  Its client and each company whose offer
it has written are told in their own rooms, the client of the new status as well, and the feed
when the order has entered or left it.
-/

namespace MyBuild

namespace OrderTransitionService

/-- A transition and what is broadcast once it is committed. -/
def told (environment : Environment) (command : OrderTransitionCommand)
    (offerExisted : Option Bool) (transition : OrderTx AppliedTransition) :
    OrderTx RealtimeBroadcast := do
  let before ← get
  let applied ← transition
  let after ← get
  return transitionBroadcast (committed environment command before after applied)
    (offerEventOf offerExisted)

end OrderTransitionService

namespace OffersService

def submitTold (environment : Environment) (editedAt : Date) (companyId : Uuid)
    (dto : CreateOfferDto) : OrderTx RealtimeBroadcast := do
  let order ← lockOrder dto.orderId
  let tables ← get
  let existing := tables.offers.find? (·.companyId == companyId)
  let created ← upsertOffer environment editedAt order.id companyId dto
  let command : OrderTransitionCommand :=
    .offerSubmitted order.id created.id (existing.map Offer.status)
  OrderTransitionService.told environment command (some existing.isSome)
    (OrderTransitionService.run environment command)

def leaveTold (environment : Environment) (offerId : Uuid) (actor : OfferActor)
    (event : Uuid → Uuid → OrderTransitionCommand) : OrderTx RealtimeBroadcast := do
  let offer ← findOffer offerId actor
  OrderTransitionService.told environment (event offer.orderId offerId) none
    (OrderTransitionService.run environment (event offer.orderId offerId))

end OffersService

/-- The broadcast that follows a request that moves the order. -/
def Request.broadcast? (tables : OrderTables) : Request → Option RealtimeBroadcast
  | .submitOffer environment editedAt companyId dto =>
      Transaction.result? (OffersService.submitTold environment editedAt companyId dto) tables
  | .withdrawOffer environment companyId offerId =>
      Transaction.result? (OffersService.leaveTold environment offerId (.company companyId)
        .offerWithdrawn) tables
  | .rejectOffer environment clientId offerId =>
      Transaction.result? (OffersService.leaveTold environment offerId (.client clientId)
        .offerRejected) tables
  | .acceptOffer environment orderId offerId seenOfferEditedAt =>
      Transaction.result? (OrderTransitionService.told environment
        (.offerAccepted orderId offerId seenOfferEditedAt) none
          (OrderWorkflowService.acceptOffer environment orderId offerId seenOfferEditedAt)) tables
  | .submitWork environment orderId =>
      Transaction.result? (OrderTransitionService.told environment (.workSubmitted orderId) none
        (OrderWorkflowService.submitWork environment orderId)) tables
  | .confirm environment orderId comment =>
      Transaction.result? (OrderTransitionService.told environment
        (.workConfirmed orderId comment) none
          (OrderWorkflowService.confirm environment orderId comment)) tables
  | .dispute environment orderId correctionComment =>
      Transaction.result? (OrderTransitionService.told environment
        (.workDisputed orderId correctionComment) none
          (OrderWorkflowService.dispute environment orderId correctionComment)) tables
  | _ => none

/-- The company that has sent the request; a submission of work comes from the executor. -/
def Request.company? (tables : OrderTables) : Request → Option Uuid
  | .submitOffer _ _ companyId _ | .withdrawOffer _ companyId _ => some companyId
  | .submitWork _ _ => (tables.offers.find? (isExecutorOffer ·.status)).map Offer.companyId
  | _ => none

theorem find?_foldl_updateOffers {now : Date} {companyId : Uuid}
    {groups : List (OfferStatus × List Uuid)} {offers : List Offer}
    (apart : ∀ group ∈ groups, ∀ offer ∈ offers, offer.id ∈ group.2 →
      offer.companyId ≠ companyId) :
    (groups.foldl (fun offers group => updateOffers now group.1 group.2 offers) offers).find?
        (·.companyId == companyId) = offers.find? (·.companyId == companyId) := by
  induction groups generalizing offers with
  | nil => rfl
  | cons group groups ih =>
      rw [List.forall_mem_cons] at apart
      rw [List.foldl_cons, ih]
      · apply Rows.find?_updateWhere_of_not
        intro offer mem chosen
        have other := apart.1 offer mem chosen
        exact ⟨by simpa using other, by simpa [Offer.withStatus] using other⟩
      · intro later laterMem offer mem chosen
        rcases Rows.mem_updateWhere.mp mem with ⟨old, oldMem, rfl⟩
        split at chosen
        case isTrue written =>
          rw [if_pos written]
          exact apart.2 later laterMem old oldMem chosen
        case isFalse kept =>
          rw [if_neg kept]
          exact apart.2 later laterMem old oldMem chosen

namespace OrderTransitionService

variable {environment : Environment} {command : OrderTransitionCommand} {companyId : Uuid}
  {tables next : OrderTables} {applied : AppliedTransition} {offerExisted : Option Bool}

/-- A company whose offer a transition has written is named in its updates. -/
theorem run_names (offerIds : (tables.offers.map Offer.id).Nodup)
    (returned : (run environment command).run tables = .ok (applied, next))
    (written : next.ownOffer companyId ≠ tables.ownOffer companyId) :
    ∃ update ∈ applied.offerUpdates, update.companyId = companyId := by
  rcases run_reports returned with ⟨offer, effects, reports⟩
  rcases run_ok returned with ⟨_, _, _, _, _, _, _, _, same⟩
  by_contra unnamed
  apply written
  rw [OrderTables.ownOffer, same.2.1]
  apply find?_foldl_updateOffers
  intro group groupMem row rowMem chosen isCompany
  rcases mem_foldl_addToGroup groupMem chosen with ⟨_, none, _⟩ | ⟨update, updateMem, named, _⟩
  · cases none
  · rcases reports.named update updateMem with ⟨known, knownMem, sameId, sameCompany⟩
    have isRow := Rows.eq_of_key offerIds knownMem rowMem (sameId.trans named)
    apply unnamed
    refine ⟨update, updateMem, ?_⟩
    rw [← sameCompany, isRow, isCompany]

/-- A transition that a company brings about writes no offer but its own. -/
theorem run_names_actor (acts : command.type.companyActs = true)
    (returned : (run environment command).run tables = .ok (applied, next)) :
    ∀ update ∈ applied.offerUpdates, update.companyId = applied.companyId := by
  rcases run_decided returned with
    ⟨_, offer, result, _, decision, ranEffects, _, companyId, _, _⟩
  rcases OrderStateMachine.transition_eq_ok_iff.mp decision with ⟨_, _, _, handled, _⟩
  have changes := statusChanges_handled handled
  have alone : (buildEvent environment command offer tables).rivals = [] := by
    cases command <;> first | rfl | cases acts
  rw [alone, buildEvent_offer, List.map_nil] at changes
  have updates : applied.offerUpdates = (statusChanges result.effects).map StatusChange.toUpdate :=
    (run_applyEffects_ok ranEffects).1.trans (foldl_addEffect _ _ _).2.1
  rw [updates, changes, companyId]
  simp [StatusChange.toUpdate]

end OrderTransitionService

/-- What the messages after a change tell, and whom; `actor` is the company that has made it. -/
structure Told (before after : OrderTables) (actor : Option Uuid)
    (messages : List RealtimeMessage) : Prop where
  own : ∀ companyId, actor = some companyId →
    ∃ message ∈ messages, message.event = .offerStatusChanged ∧
      (∃ offerId, message.payload = .offer before.order.id offerId) ∧
        .user companyId ∈ message.rooms
  client : ∃ message ∈ messages, message.event = .offerStatusChanged ∧
    (∃ offerId, message.payload = .offer before.order.id offerId) ∧
      .user before.order.clientId ∈ message.rooms
  company : ∀ companyId, after.ownOffer companyId ≠ before.ownOffer companyId →
    ∃ message ∈ messages, message.event = .offerStatusChanged ∧
      (∃ offerId, message.payload = .offer before.order.id offerId) ∧
        .user companyId ∈ message.rooms
  notice : ∀ companyId, after.ownOffer companyId ≠ before.ownOffer companyId →
    actor ≠ some companyId →
      ∃ message ∈ messages, message.event = .notificationCreated ∧
        .user companyId ∈ message.rooms
  status : (∃ message ∈ messages, message.event = .orderStatusChanged ∧
      .user before.order.clientId ∈ message.rooms) ↔ after.order.status ≠ before.order.status
  feed : acceptsOffers after.order.status ≠ acceptsOffers before.order.status →
    ∃ message ∈ messages, message.event = .orderStatusChanged ∧ .companyFeed ∈ message.rooms

theorem exists_notice_of_tells {context : OrderStateContext} {changes : List StatusChange}
    {notices : List NoticeOf} {type : OrderEventType} {change : StatusChange}
    (tells : List.Forall₂ (Tells context type) changes notices) (mem : change ∈ changes) :
    ∃ notice ∈ notices, Tells context type change notice := by
  induction tells with
  | nil => cases mem
  | cons pair rest ih =>
      rcases List.mem_cons.mp mem with rfl | later
      · exact ⟨_, List.mem_cons_self, pair⟩
      · rcases ih later with ⟨notice, noticeMem, told⟩
        exact ⟨notice, List.mem_cons_of_mem _ noticeMem, told⟩

section

variable {applied : CommittedTransition} {offerEvent : Option SocketEvent}
  {update : OfferStatusUpdate}

theorem update_told (mem : update ∈ applied.offerUpdates) :
    ∃ message ∈ (transitionBroadcast applied offerEvent).messages,
      message.event = .offerStatusChanged ∧
        message.payload = .offer applied.order.id update.offerId ∧
          .user applied.order.clientId ∈ message.rooms ∧
            .user update.companyId ∈ message.rooms := by
  let message : RealtimeMessage :=
    { rooms := [.user applied.order.clientId, .user update.companyId]
      event := .offerStatusChanged
      payload := .offer applied.order.id update.offerId }
  refine ⟨message, ?_, rfl, rfl, by simp [message], by simp [message]⟩
  simp only [transitionBroadcast, List.mem_append, List.mem_map]
  exact Or.inl (Or.inr ⟨update, mem, rfl⟩)

theorem notification_of_created {notification : Notification}
    (mem : notification ∈ applied.notifications) :
    ∃ message ∈ (transitionBroadcast applied offerEvent).messages,
      message.event = .notificationCreated ∧ .user notification.userId ∈ message.rooms := by
  let message : RealtimeMessage :=
    { rooms := [.user notification.userId]
      event := .notificationCreated
      payload := .notification notification }
  refine ⟨message, ?_, rfl, by simp [message]⟩
  simp only [transitionBroadcast, notificationMessages, List.mem_append, List.mem_map]
  exact Or.inr ⟨notification, mem, rfl⟩

theorem status_told_iff {offerExisted : Option Bool} :
    (∃ message ∈ (transitionBroadcast applied (offerEventOf offerExisted)).messages,
        message.event = .orderStatusChanged ∧ .user applied.order.clientId ∈ message.rooms) ↔
      applied.fromStatus ≠ applied.nextStatus := by
  constructor
  · rintro ⟨message, mem, isStatus, _⟩ same
    simp only [transitionBroadcast, notificationMessages, List.mem_append, List.mem_map] at mem
    rcases mem with ((⟨event, isEvent, rfl⟩ | status) | ⟨update, _, rfl⟩) | ⟨notification, _, rfl⟩
    · rcases offerExisted with _ | existed
      · cases isEvent
      · cases existed <;> cases List.mem_singleton.mp isEvent <;> cases isStatus
    · rw [if_neg (not_not.mpr same)] at status
      cases status
    · cases isStatus
    · cases isStatus
  · intro moved
    simp only [transitionBroadcast, if_pos moved]
    refine ⟨_, List.mem_append_left _ (List.mem_append_left _ (List.mem_append_right _
      (List.mem_singleton_self _))), rfl, ?_⟩
    simp

theorem feed_told (enters : acceptsOffers applied.fromStatus ≠ acceptsOffers applied.nextStatus) :
    ∃ message ∈ (transitionBroadcast applied offerEvent).messages,
      message.event = .orderStatusChanged ∧ .companyFeed ∈ message.rooms := by
  rcases feed_hears_iff.mpr enters with ⟨message, mem, inFeed⟩
  refine ⟨message, mem, ?_, inFeed⟩
  cases announces_of_mem mem with
  | offer | update | notification => simp [SocketRoom.user] at inFeed
  | status => rfl

end

namespace OrderTransitionService

variable {environment : Environment} {command : OrderTransitionCommand} {actor : Option Uuid}
  {tables next : OrderTables} {applied : AppliedTransition} {offerExisted : Option Bool}

theorem run_told (offerIds : (tables.offers.map Offer.id).Nodup)
    (returned : (run environment command).run tables = .ok (applied, next))
    (isActor : actor = if command.type.companyActs then some applied.companyId else none) :
    Told tables next actor
      (transitionBroadcast (committed environment command tables next applied)
        (offerEventOf offerExisted)).messages := by
  rcases run_reports returned with ⟨offer, effects, reports⟩
  have told : ∀ update ∈ applied.offerUpdates, _ := fun update mem =>
    @update_told (committed environment command tables next applied) (offerEventOf offerExisted)
      update mem
  simp only [committed, reports.orderId, reports.clientId] at told
  have mem : StatusChange.toUpdate ⟨⟨offer.id, offer.companyId⟩, command.type.offerStatus⟩ ∈
      applied.offerUpdates := by
    rw [reports.updates]
    exact List.mem_map_of_mem reports.changed
  rcases told _ mem with ⟨first, isFirst, isEvent, payload, toClient, toActor⟩
  constructor
  · intro companyId isCompany
    rw [isCompany] at isActor
    split at isActor
    case isTrue =>
      cases isActor
      refine ⟨first, isFirst, isEvent, ⟨_, payload⟩, ?_⟩
      rw [reports.companyId]
      exact toActor
    case isFalse => cases isActor
  · exact ⟨first, isFirst, isEvent, ⟨_, payload⟩, toClient⟩
  · intro companyId written
    rcases run_names offerIds returned written with ⟨update, mem, rfl⟩
    rcases told update mem with ⟨message, isMessage, isEvent, payload, _, toCompany⟩
    exact ⟨message, isMessage, isEvent, ⟨_, payload⟩, toCompany⟩
  · intro companyId written isOther
    rcases run_names offerIds returned written with ⟨update, mem, rfl⟩
    have clientActs : ¬command.type.companyActs = true := by
      intro acts
      apply isOther
      rw [isActor, if_pos acts, run_names_actor acts returned update mem]
    rw [reports.updates] at mem
    rcases List.mem_map.mp mem with ⟨change, changeMem, rfl⟩
    rcases exists_notice_of_tells reports.tells changeMem with ⟨notice, noticeMem, tells⟩
    have addressee := tells.addressee
    rw [if_neg clientActs] at addressee
    rw [← reports.notices] at noticeMem
    rcases List.mem_map.mp noticeMem with ⟨notification, isCreated, rfl⟩
    rcases @notification_of_created (committed environment command tables next applied)
      (offerEventOf offerExisted) notification isCreated with ⟨message, isMessage, isEvent, toUser⟩
    refine ⟨message, isMessage, isEvent, ?_⟩
    rw [show notification.userId = change.offer.companyId from addressee] at toUser
    exact toUser
  · have status := @status_told_iff (committed environment command tables next applied)
      offerExisted
    simp only [committed, reports.clientId, reports.fromStatus, reports.nextStatus] at status
    exact status.trans ne_comm
  · intro enters
    apply feed_told
    simp only [committed, reports.fromStatus, reports.nextStatus]
    exact enters.symm

theorem told_of_ok {transition : OrderTx AppliedTransition}
    (returned : transition.run tables = .ok (applied, next)) :
    (told environment command offerExisted transition).run tables =
      .ok (transitionBroadcast (committed environment command tables next applied)
        (offerEventOf offerExisted), next) := by
  simp only [told]
  rw [Transaction.run_get_bind, Transaction.run_bind_of_ok returned, Transaction.run_get_bind]
  rfl

/-- The offer that a transition of a named offer is about. -/
theorem run_companyId {offerId : Uuid} {offer : Offer} (isNamed : command.offerId = some offerId)
    (offerIds : (tables.offers.map Offer.id).Nodup) (mem : offer ∈ tables.offers)
    (isOffer : offer.id = offerId)
    (returned : (run environment command).run tables = .ok (applied, next)) :
    applied.companyId = offer.companyId := by
  rcases run_decided returned with ⟨_, found, _, resolved, _, _, _, companyId, _, _⟩
  rw [resolved?, isNamed] at resolved
  have isFound : found.id = offerId := by simpa using List.find?_some resolved
  rw [companyId, Rows.eq_of_key offerIds (List.mem_of_find?_eq_some resolved) mem
    (isFound.trans isOffer.symm)]

end OrderTransitionService

/-- What the actor has written into its own offer before the transition is told with it. -/
theorem Told.of_own {tables middle next : OrderTables} {companyId : Uuid}
    {messages : List RealtimeMessage} (told : Told middle next (some companyId) messages)
    (sameOrder : middle.order = tables.order)
    (others : ∀ other, other ≠ companyId → middle.ownOffer other = tables.ownOffer other) :
    Told tables next (some companyId) messages := by
  rcases told with ⟨toActor, toClient, toCompany, notice, status, feed⟩
  rw [sameOrder] at toActor toClient toCompany status feed
  constructor
  · exact toActor
  · exact toClient
  · intro other written
    by_cases isOther : other = companyId
    · exact toActor other (isOther ▸ rfl)
    · apply toCompany
      rwa [others other isOther]
  · intro other written notActor
    have isOther : other ≠ companyId := by
      rintro rfl
      exact notActor rfl
    apply notice other _ notActor
    rwa [others other isOther]
  · exact status
  · exact feed

namespace OffersService

variable {environment : Environment} {editedAt : Date} {companyId : Uuid} {dto : CreateOfferDto}
  {tables next : OrderTables}

theorem submit_told {created : Offer} (keyed : tables.WellKeyed)
    (returned : (submit environment editedAt companyId dto).run tables = .ok (created, next)) :
    ∃ broadcast, (submitTold environment editedAt companyId dto).run tables =
        .ok (broadcast, next) ∧ Told tables next (some companyId) broadcast.messages := by
  simp only [submit] at returned
  rcases Transaction.run_bind_eq_ok.mp returned with ⟨order, tables, locked, afterLock⟩
  have lockedOrder := run_lockOrder_eq_ok.mp locked
  rcases lockedOrder with ⟨sameId, rfl, rfl⟩
  rw [Transaction.run_get_bind] at afterLock
  rcases Transaction.run_bind_eq_ok.mp afterLock with ⟨row, middle, upserted, afterUpsert⟩
  rcases Transaction.run_bind_eq_ok.mp afterUpsert with ⟨applied, final, ran, finished⟩
  rw [Transaction.run_pure_eq_ok] at finished
  cases finished
  rcases upsertOffer_ok keyed upserted with ⟨sameOrder, rowMem, unique, _, _⟩
  have isCompany : created.companyId = companyId ∧ ∀ other, other ≠ companyId →
      middle.ownOffer other = tables.ownOffer other := by
    rcases run_upsertOffer_eq_ok.mp upserted with ⟨existing, found, rfl, rfl⟩ | ⟨_, _, rfl, rfl⟩
    · refine ⟨by simpa using List.find?_some found, fun other isOther => ?_⟩
      apply Rows.find?_updateWhere_of_not
      intro offer _ isOwn
      simp [isOwn, Ne.symm isOther]
    · refine ⟨rfl, fun other isOther => ?_⟩
      simp [OrderTables.ownOffer, List.find?_append, Offer.create, Ne.symm isOther]
  have actor : applied.companyId = companyId :=
    (OrderTransitionService.run_companyId rfl unique rowMem rfl ran).trans isCompany.1
  have told := @OrderTransitionService.run_told _ _ (some companyId) _ _ _
    (some (tables.offers.find? (·.companyId == companyId)).isSome) unique ran (by
      rw [actor]
      rfl)
  have ranTold : (submitTold environment editedAt companyId dto).run tables =
      (OrderTransitionService.told environment
        (.offerSubmitted tables.order.id created.id
          ((tables.offers.find? (·.companyId == companyId)).map Offer.status))
        (some (tables.offers.find? (·.companyId == companyId)).isSome)
        (OrderTransitionService.run environment
          (.offerSubmitted tables.order.id created.id
            ((tables.offers.find? (·.companyId == companyId)).map Offer.status)))).run middle := by
    simp only [submitTold]
    rw [Transaction.run_bind_of_ok locked, Transaction.run_get_bind,
      Transaction.run_bind_of_ok upserted]
  exact ⟨_, ranTold.trans (OrderTransitionService.told_of_ok ran),
    told.of_own sameOrder isCompany.2⟩

theorem leaveSelection_told {offerId : Uuid} {who : OfferActor} {actor : Option Uuid}
    {event : Uuid → Uuid → OrderTransitionCommand} {updated : Offer} (keyed : tables.WellKeyed)
    (names : ∀ orderId, (event orderId offerId).offerId = some offerId)
    (isActor : ∀ orderId offer, who.related tables offer = true →
      actor = if (event orderId offerId).type.companyActs then some offer.companyId else none)
    (returned : (leaveSelection environment offerId who event).run tables = .ok (updated, next)) :
    ∃ broadcast, (leaveTold environment offerId who event).run tables = .ok (broadcast, next) ∧
      Told tables next actor broadcast.messages := by
  rcases leaveSelection_ok returned with ⟨offer, applied, found, ran⟩
  have fits := List.find?_some found
  simp only [Bool.and_eq_true, beq_iff_eq] at fits
  have company := OrderTransitionService.run_companyId (names offer.orderId) keyed.offerIds
    (List.mem_of_find?_eq_some found) fits.1 ran
  have told := @OrderTransitionService.run_told _ _ actor _ _ _ none keyed.offerIds ran
    (company ▸ isActor offer.orderId offer fits.2)
  have ranTold : (leaveTold environment offerId who event).run tables =
      (OrderTransitionService.told environment (event offer.orderId offerId) none
        (OrderTransitionService.run environment (event offer.orderId offerId))).run tables := by
    simp only [leaveTold]
    rw [Transaction.run_bind_of_ok (findOffer_eq_ok_iff.mpr ⟨found, rfl⟩)]
  exact ⟨_, ranTold.trans (OrderTransitionService.told_of_ok ran), told⟩

end OffersService

theorem OrderWorkflowService.submitWork_told {environment : Environment} {orderId : Uuid}
    {tables next : OrderTables} {applied : AppliedTransition} (keyed : tables.WellKeyed)
    (returned : (submitWork environment orderId).run tables = .ok (applied, next)) :
    Told tables next ((tables.offers.find? (isExecutorOffer ·.status)).map Offer.companyId)
      (transitionBroadcast (OrderTransitionService.committed environment (.workSubmitted orderId)
        tables next applied) (offerEventOf none)).messages := by
  simp only [submitWork] at returned
  rcases Transaction.run_bind_eq_ok.mp returned with ⟨order, tables, locked, afterLock⟩
  rcases run_lockOrder_eq_ok.mp locked with ⟨_, rfl, rfl⟩
  rw [Transaction.run_get_bind] at afterLock
  rcases Transaction.run_bind_eq_ok.mp afterLock with ⟨transition, moved, ran, afterRun⟩
  rcases OrderTransitionService.run_decided ran with
    ⟨_, offer, _, resolved, _, _, _, companyId, _, _⟩
  have executor : tables.offers.find? (isExecutorOffer ·.status) = some offer := resolved
  have told := @OrderTransitionService.run_told _ _ (some offer.companyId) _ _ _ none
    keyed.offerIds ran (companyId ▸ rfl)
  rw [executor]
  split at afterRun
  case h_1 => cases afterRun
  case h_2 submission found =>
    rw [Transaction.run_get_bind] at afterRun
    split at afterRun
    case isTrue => cases afterRun
    case isFalse =>
      cases afterRun
      exact ⟨told.own, told.client, told.company, told.notice, told.status, told.feed⟩

namespace World

variable {world : World} {request : Request}

/-- A transition by the client, which is one transaction of its own. -/
theorem run_step_told {environment : Environment} {command : OrderTransitionCommand}
    (keyed : world.tables.WellKeyed) (clientActs : command.type.companyActs = false) :
    Transaction.commit (OrderTransitionService.run environment command) world.tables =
        world.tables ∨
      ∃ broadcast, Transaction.result? (OrderTransitionService.told environment command none
          (OrderTransitionService.run environment command)) world.tables = some broadcast ∧
        Told world.tables
          (Transaction.commit (OrderTransitionService.run environment command) world.tables) none
          broadcast.messages := by
  rcases Transaction.commit_cases (OrderTransitionService.run environment command)
    world.tables with ⟨applied, returned⟩ | unchanged
  · right
    refine ⟨_, Transaction.result?_of_ok (OrderTransitionService.told_of_ok returned), ?_⟩
    apply OrderTransitionService.run_told keyed.offerIds returned
    rw [clientActs]
    rfl
  · exact Or.inl unchanged

/-- A request that moves the order changes nothing, or is told. -/
theorem step_told (wellFormed : world.WellFormed) (moves : request.kind.movesOrder = true) :
    (world.step request).tables = world.tables ∨
      ∃ broadcast, request.broadcast? world.tables = some broadcast ∧
        Told world.tables (world.step request).tables (request.company? world.tables)
          broadcast.messages := by
  have keyed := wellFormed.keyed
  cases request with
  | submitOffer environment editedAt companyId dto =>
      rcases Transaction.commit_cases (OffersService.submit environment editedAt companyId dto)
        world.tables with ⟨created, returned⟩ | unchanged
      · rcases OffersService.submit_told keyed returned with ⟨broadcast, told, tells⟩
        exact Or.inr ⟨broadcast, Transaction.result?_of_ok told, tells⟩
      · exact Or.inl unchanged
  | withdrawOffer environment companyId offerId =>
      rcases Transaction.commit_cases (OffersService.withdraw environment companyId offerId)
        world.tables with ⟨updated, returned⟩ | unchanged
      · have isActor : ∀ orderId offer,
            (OffersService.OfferActor.company companyId).related world.tables offer = true →
              some companyId =
                if (OrderTransitionCommand.offerWithdrawn orderId offerId).type.companyActs then
                  some offer.companyId else none := by
          intro _ offer related
          rw [beq_iff_eq.mp related]
          rfl
        rcases OffersService.leaveSelection_told keyed (fun _ => rfl) isActor returned with
          ⟨broadcast, told, tells⟩
        exact Or.inr ⟨broadcast, Transaction.result?_of_ok told, tells⟩
      · exact Or.inl unchanged
  | rejectOffer environment clientId offerId =>
      rcases Transaction.commit_cases (OffersService.reject environment clientId offerId)
        world.tables with ⟨updated, returned⟩ | unchanged
      · rcases OffersService.leaveSelection_told keyed (fun _ => rfl) (fun _ _ _ => rfl)
          returned with ⟨broadcast, told, tells⟩
        exact Or.inr ⟨broadcast, Transaction.result?_of_ok told, tells⟩
      · exact Or.inl unchanged
  | acceptOffer environment orderId offerId seenOfferEditedAt =>
      exact run_step_told keyed rfl
  | submitWork environment orderId =>
      rcases Transaction.commit_cases (OrderWorkflowService.submitWork environment orderId)
        world.tables with ⟨applied, returned⟩ | unchanged
      · right
        exact ⟨_, Transaction.result?_of_ok (OrderTransitionService.told_of_ok returned),
          OrderWorkflowService.submitWork_told keyed returned⟩
      · exact Or.inl unchanged
  | confirm environment orderId comment => exact run_step_told keyed rfl
  | dispute environment orderId correctionComment => exact run_step_told keyed rfl
  | addFiles | dropDuplicates | insertFiles | saveComment | failUpload | verifyArea
  | attachClientFiles | resetDemo | readNotifications => cases moves

end World

end MyBuild
