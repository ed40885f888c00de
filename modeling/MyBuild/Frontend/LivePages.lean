import MyBuild.Files.Access
import MyBuild.Offers.AvailableOrders
import MyBuild.Realtime.Told

/-!
# Pages that are open while an order moves

Each page reads its data again on the events of a list.  The lists are long enough: whatever a
request that moves an order changes on a page of somebody, a message goes out that the page
listens for, in a room where it is heard.
-/

namespace MyBuild

def orderDetailEvents : List SocketEvent :=
  [.orderStatusChanged, .offerCreated, .offerUpdated, .offerStatusChanged, .orderFilesUpdated,
    .orderAreaVerified, .notificationCreated]

def ordersListEvents : List SocketEvent := [.orderStatusChanged]

def companyOffersEvents : List SocketEvent := [.offerStatusChanged, .notificationCreated]

def companyFeedEvents : List SocketEvent :=
  [.orderCreated, .orderStatusChanged, .notificationCreated]

def documentsEvents : List SocketEvent := [.orderFilesUpdated, .offerStatusChanged]

/-- A notification has no order of its own. -/
def eventOrderId : MessagePayload → Option Uuid
  | .order orderId | .offer orderId _ => some orderId
  | .notification _ => none

def isOrderDeleted : MessagePayload → Bool
  | .notification notification => notification.type == .orderDeleted
  | _ => false

def acceptsOrderDetailEvent (orderId : Uuid) (payload : MessagePayload) : Bool :=
  eventOrderId payload == some orderId || isOrderDeleted payload

structure CompanyOfferItem extends OfferDto where
  order : OrderListItem
  deriving DecidableEq

/-- A row of the company's own offers; of the offers on the order it is read with this one only. -/
def toCompanyOfferItem (users : Uuid → User) (tables : OrderTables) (offer : Offer) :
    CompanyOfferItem :=
  { toOfferDto (offer.toRow users) with
    order :=
      toOrderListItem
        { (OrdersService.detailRow users tables).toOrderRow with offers := [offer.toRow users] }
        offer.companyId }

/-- An order as it is read for the feed of a company, with the offers of the company only. -/
def availableRow (users : Uuid → User) (companyId : Uuid) (tables : OrderTables) : OrderRow :=
  { (OrdersService.detailRow users tables).toOrderRow with
    offers := (tables.offers.filter (·.companyId == companyId)).map (Offer.toRow users) }

/-- The row that the feed of a company holds of the order. -/
def listAvailableOrder (users : Uuid → User) (companyId : Uuid) (tables : OrderTables) :
    Option AvailableOrderItem :=
  if buildAvailableOrdersWhere companyId none tables then
    some (toAvailableOrderItem (availableRow users companyId tables) companyId)
  else
    none

section

variable {users : Uuid → User} {viewer companyId : Uuid} {before after : OrderTables}
  {kind : RequestKind}

theorem isOrderParticipant_eq (companies : (before.offers.map Offer.companyId).Nodup) :
    before.isOrderParticipant viewer =
      (before.order.clientId == viewer ||
        (before.ownOffer viewer).any (isActiveOffer ·.status)) := by
  rw [OrderTables.isOrderParticipant, any_own_eq companies]
  rfl

/-- Whose card a transition changes. -/
theorem card_changed_cases (keyed : before.WellKeyed) (coupled : before.Coupled)
    (change : OrderChange before kind after) (moves : kind.movesOrder = true)
    (changed : (OrdersService.card users after viewer).undated ≠
      (OrdersService.card users before viewer).undated) :
    before.order.clientId = viewer ∨ after.ownOffer viewer ≠ before.ownOffer viewer ∨
      (acceptsOffers after.order.status ≠ acceptsOffers before.order.status ∧
        before.isOrderParticipant viewer = false ∧ after.isOrderParticipant viewer = false) := by
  have stillKeyed := change.wellKeyed keyed
  have stillCoupled := coupled.preserved keyed change
  rcases change.sameTask moves with ⟨task, files⟩
  by_cases isOwner : before.order.clientId = viewer
  · exact Or.inl isOwner
  by_cases own : after.ownOffer viewer = before.ownOffer viewer
  case neg => exact Or.inr (Or.inl own)
  have notExecutor := coupled.not_executor_of_kept stillCoupled change moves own
  have waits := coupled.waits_on stillCoupled change moves own
  right
  right
  have enters : acceptsOffers after.order.status ≠ acceptsOffers before.order.status := by
    intro accepts
    apply changed
    exact OrderTables.card_undated_eq keyed.companies stillKeyed.companies task files
      ⟨isOwner, notExecutor, own⟩ ⟨accepts, waits⟩
  have inactive : (before.ownOffer viewer).any (isActiveOffer ·.status) = false := by
    by_contra active
    apply enters
    rw [(waits (by simpa using active)).1]
  refine ⟨enters, ?_, ?_⟩
  · rw [isOrderParticipant_eq keyed.companies, inactive]
    simpa using isOwner
  · rw [isOrderParticipant_eq stillKeyed.companies, own, inactive, task.clientId]
    simpa using isOwner

/-- What a company reads of the order beside its own offer changes with the offer, the status
apart where the company is the client itself. -/
theorem ownItem_kept (coupled : before.Coupled) (stillCoupled : after.Coupled)
    (change : OrderChange before kind after) (moves : kind.movesOrder = true)
    (shown : before.order.clientId ≠ companyId ∨ after.order.status = before.order.status)
    (own : after.ownOffer companyId = before.ownOffer companyId) {offers : List OfferRow}
    (isOwn : offers = (before.ownOffer companyId).toList.map (Offer.toRow users)) :
    toOrderListItem { (OrdersService.detailRow users after).toOrderRow with offers } companyId =
      toOrderListItem { (OrdersService.detailRow users before).toOrderRow with offers }
        companyId := by
  have notExecutor := coupled.not_executor_of_kept stillCoupled change moves own
  rcases change.sameTask moves with ⟨task, -⟩
  have found : offers.find? (·.companyId == companyId) =
      (before.ownOffer companyId).map (Offer.toRow users) := by
    rw [isOwn]
    cases isFound : before.ownOffer companyId with
    | none => rfl
    | some offer =>
        have isCompany : offer.companyId = companyId := by simpa using List.find?_some isFound
        simp [Offer.toRow, isCompany]
  have party :
      (offers.find? (·.companyId == companyId)).any (isExecutorOffer ·.status) = false := by
    rw [found, Option.any_map]
    exact notExecutor
  have executor : offers.find? (isExecutorOffer ·.status) = none := by
    rw [isOwn]
    cases isFound : before.ownOffer companyId with
    | none => rfl
    | some offer =>
        rw [isFound, Option.any_some] at notExecutor
        simp [Offer.toRow, notExecutor]
  have kept : (before.order.clientId == companyId ||
      (offers.find? (·.companyId == companyId)).any (isActiveOffer ·.status)) = true →
        after.order.status = before.order.status ∧ after.order.price = before.order.price ∧
          after.order.deadline = before.order.deadline := by
    intro sees
    rw [found, Option.any_map, Bool.or_eq_true, beq_iff_eq] at sees
    rcases sees with isOwner | active
    · have same := shown.resolve_left (not_not.mpr isOwner)
      exact ⟨same, change.terms_kept moves same⟩
    · exact coupled.waits_on stillCoupled change moves own active
  simp only [toOrderListItem, resolveVisibility, OrdersService.detailRow, party, executor,
    task.id, task.orderNumber, task.clientId, task.title, task.category, task.objectType,
    task.clientBudget, task.createdAt]
  cases sees : before.order.clientId == companyId ||
      (offers.find? (·.companyId == companyId)).any (isActiveOffer ·.status) with
  | false => simp only [Bool.false_eq_true, if_false]
  | true =>
      rcases kept sees with ⟨status, price, deadline⟩
      simp only [status, price, deadline]

/-- A row of the own offers changes with the offer. -/
theorem companyOffer_kept (coupled : before.Coupled) (stillCoupled : after.Coupled)
    (change : OrderChange before kind after) (moves : kind.movesOrder = true)
    (notOwner : before.order.clientId ≠ companyId)
    (own : after.ownOffer companyId = before.ownOffer companyId) :
    (after.ownOffer companyId).map (toCompanyOfferItem users after) =
      (before.ownOffer companyId).map (toCompanyOfferItem users before) := by
  rw [own]
  cases found : before.ownOffer companyId with
  | none => rfl
  | some offer =>
      have isCompany : offer.companyId = companyId := by simpa using List.find?_some found
      have isOwn : [offer.toRow users] =
          (before.ownOffer companyId).toList.map (Offer.toRow users) := by
        rw [found]
        rfl
      have kept := ownItem_kept coupled stillCoupled change moves (Or.inl notOwner) own isOwn
      simp only [Option.map_some, toCompanyOfferItem, isCompany, kept]

/-- In the list of the client an order changes with its status. -/
theorem listItem_changed_iff (coupled : before.Coupled) (stillCoupled : after.Coupled)
    (change : OrderChange before kind after) (moves : kind.movesOrder = true) :
    toOrderListItem (OrdersService.detailRow users after).toOrderRow before.order.clientId ≠
        toOrderListItem (OrdersService.detailRow users before).toOrderRow before.order.clientId ↔
      after.order.status ≠ before.order.status := by
  rcases change.sameTask moves with ⟨task, -⟩
  constructor
  · intro changed same
    apply changed
    rcases change.terms_kept moves same with ⟨price, deadline⟩
    have noExecutor : ∀ tables : OrderTables, tables.Coupled →
        tables.order.status = before.order.status →
          (OrdersService.detailRow users tables).offers.find? (isExecutorOffer ·.status) =
            none := by
      intro tables isCoupled sameStatus
      have none : expectedExecutors before.order.status = [] := by
        by_contra executed
        exact change.status_moves moves executed same
      rw [List.find?_eq_none]
      intro row mem
      rcases OrdersService.mem_detailRow_offers.mp mem with ⟨offer, offerMem, rfl⟩
      have executors := isCoupled.executors
      rw [sameStatus, none, executorStatuses_eq_nil_iff] at executors
      have notExecutor : isExecutorOffer (offer.toRow users).status = false :=
        executors offer offerMem
      simp [notExecutor]
    have executorBefore := noExecutor before coupled rfl
    have executorAfter := noExecutor after stillCoupled same
    simp only [toOrderListItem, resolveVisibility, executorBefore, executorAfter]
    simp only [OrdersService.detailRow, task.id, task.orderNumber, task.clientId, task.title,
      task.category, task.objectType, task.clientBudget, task.createdAt, price, deadline, same,
      beq_self_eq_true, Bool.true_or, if_true, Option.bind_none]
  · intro moved same
    apply moved
    have status := congrArg OrderListItem.status same
    simpa [toOrderListItem, resolveVisibility, OrdersService.detailRow, task.clientId] using status

/-- The feed of a company changes with its offer, or with what the order accepts. -/
theorem available_kept (companies : (before.offers.map Offer.companyId).Nodup)
    (stillCompanies : (after.offers.map Offer.companyId).Nodup)
    (own : after.ownOffer companyId = before.ownOffer companyId)
    (accepts : acceptsOffers after.order.status = acceptsOffers before.order.status) :
    buildAvailableOrdersWhere companyId none after =
      buildAvailableOrdersWhere companyId none before := by
  simp only [OrderTables.ownOffer] at own
  simp only [buildAvailableOrdersWhere, availability_eq companies, availability_eq stillCompanies,
    own, accepts, Option.all_none]

/-- So does what its rows show. -/
theorem availableOrder_kept (keyed : before.WellKeyed) (coupled : before.Coupled)
    (change : OrderChange before kind after) (moves : kind.movesOrder = true)
    (shown : before.order.clientId ≠ companyId ∨ after.order.status = before.order.status)
    (own : after.ownOffer companyId = before.ownOffer companyId)
    (accepts : acceptsOffers after.order.status = acceptsOffers before.order.status) :
    listAvailableOrder users companyId after = listAvailableOrder users companyId before := by
  have stillKeyed := change.wellKeyed keyed
  have stillCoupled := coupled.preserved keyed change
  have isOwn : (before.offers.filter (·.companyId == companyId)).map (Offer.toRow users) =
      (before.ownOffer companyId).toList.map (Offer.toRow users) := by
    rw [Rows.filter_key_eq keyed.companies]
    rfl
  have stillOwn : after.offers.filter (·.companyId == companyId) =
      before.offers.filter (·.companyId == companyId) := by
    rw [Rows.filter_key_eq keyed.companies, Rows.filter_key_eq stillKeyed.companies]
    exact congrArg Option.toList own
  have kept := ownItem_kept coupled stillCoupled change moves shown own isOwn
  simp only [listAvailableOrder, available_kept keyed.companies stillKeyed.companies own accepts,
    toAvailableOrderItem, availableRow, stillOwn, kept, resolveVisibility]

/-- The documents of a company change with its offer. -/
theorem documents_kept {scope : DocumentScope} {file : OrderFile}
    (companies : (before.offers.map Offer.companyId).Nodup)
    (stillCompanies : (after.offers.map Offer.companyId).Nodup)
    (sameClient : after.order.clientId = before.order.clientId)
    (own : after.ownOffer scope.userId = before.ownOffer scope.userId) :
    buildDocumentsWhere scope after file = buildDocumentsWhere scope before file := by
  simp only [OrderTables.ownOffer] at own
  simp only [buildDocumentsWhere, any_own_eq companies fun offer =>
    executorOfferStatuses.contains offer.status, any_own_eq stillCompanies fun offer =>
      executorOfferStatuses.contains offer.status, own, sameClient]

/-- A request that moves the order has made a change and told it, or left the rows alone. -/
theorem World.moved_or_same {world : World} {request : Request} (wellFormed : world.WellFormed)
    (moves : request.kind.movesOrder = true) :
    world.tables.SameOrderRows (world.step request).tables ∨
      ∃ middle notifications broadcast,
        (world.step request).tables = { middle with notifications } ∧
        OrderChange world.tables request.kind middle ∧
        request.broadcast? world.tables = some broadcast ∧
        Told world.tables (world.step request).tables (request.company? world.tables)
          broadcast.messages := by
  rcases World.step_changes wellFormed request with same | ⟨middle, change, same⟩
  · exact Or.inl same
  rcases World.step_told wellFormed moves with unchanged | ⟨broadcast, isBroadcast, told⟩
  · left
    rw [unchanged]
    exact OrderTables.SameOrderRows.refl _
  · right
    refine ⟨middle, (world.step request).tables.notifications, broadcast, ?_, change, isBroadcast,
      told⟩
    rcases same with ⟨order, offers, submissions, files⟩
    rw [← order, ← offers, ← submissions, ← files]

end

/-- Whatever requests an order has been through, and whoever looks: if the next request that moves
the order changes the card, its broadcast holds a message that the open card takes for its own, in
the viewer's own room.  The one exception are those who have no part in the order, before or
after: for them it has entered or left the feed, and the feed is told. -/
theorem changed_card_is_told (id : Uuid) (orderNumber : ℕ) (now : Date) (clientId : Uuid)
    (order : CreateOrderDto) (requests : List Request) (request : Request)
    (users : Uuid → User) (viewer : Uuid) (moves : request.kind.movesOrder = true) :
    let world := reached id orderNumber now clientId order requests
    let before := world.tables
    let after := (world.step request).tables
    (OrdersService.card users after viewer).undated ≠
        (OrdersService.card users before viewer).undated →
      ∃ broadcast, request.broadcast? before = some broadcast ∧
        ((∃ message ∈ broadcast.messages, message.event ∈ orderDetailEvents ∧
            acceptsOrderDetailEvent before.order.id message.payload = true ∧
              .user viewer ∈ message.rooms) ∨
          (before.isOrderParticipant viewer = false ∧ after.isOrderParticipant viewer = false ∧
            ∃ message ∈ broadcast.messages, message.event ∈ companyFeedEvents ∧
              .companyFeed ∈ message.rooms)) := by
  intro world before after changed
  rcases reached_coupled id orderNumber now clientId order requests with ⟨wellFormed, coupled⟩
  have wakes : ∀ message : RealtimeMessage, message.event = .offerStatusChanged →
      (∃ offerId, message.payload = .offer before.order.id offerId) →
        message.event ∈ orderDetailEvents ∧
          acceptsOrderDetailEvent before.order.id message.payload = true := by
    rintro message isEvent ⟨offerId, isPayload⟩
    rw [isEvent, isPayload]
    exact ⟨by decide, by simp [acceptsOrderDetailEvent, eventOrderId]⟩
  rcases World.moved_or_same wellFormed moves with
    ⟨sameOrder, sameOffers, sameSubmissions, sameFiles⟩ |
      ⟨middle, notifications, broadcast, isAfter, change, isBroadcast, told⟩
  · apply absurd _ changed
    simp only [OrdersService.card, OrdersService.detailRow, FilesService.listOrderFiles, after,
      before, world, sameOrder, sameOffers, sameSubmissions, sameFiles]
  · refine ⟨broadcast, isBroadcast, ?_⟩
    have changedMiddle : (OrdersService.card users middle viewer).undated ≠
        (OrdersService.card users before viewer).undated := by
      intro same
      apply changed
      simp only [after, world, isAfter]
      exact same
    rcases card_changed_cases wellFormed.keyed coupled change moves changedMiddle with
      isOwner | written | ⟨enters, notBefore, notAfter⟩
    · rcases told.client with ⟨message, mem, isEvent, isPayload, toClient⟩
      rcases wakes message isEvent isPayload with ⟨listed, accepted⟩
      exact Or.inl ⟨message, mem, listed, accepted, isOwner ▸ toClient⟩
    · rw [isAfter] at told
      rcases told.company viewer written with ⟨message, mem, isEvent, isPayload, toCompany⟩
      rcases wakes message isEvent isPayload with ⟨listed, accepted⟩
      exact Or.inl ⟨message, mem, listed, accepted, toCompany⟩
    · right
      refine ⟨notBefore, ?_, ?_⟩
      · simp only [after, world, isAfter]
        exact notAfter
      · rw [isAfter] at told
        rcases told.feed enters with ⟨message, mem, isEvent, inFeed⟩
        refine ⟨message, mem, ?_, inFeed⟩
        rw [isEvent]
        decide

/-- The client chooses one of two offers, and the company that loses sees its own offer change. -/
theorem changed_card_is_told_example :
    let requests := [exampleSubmission ⟨2⟩ ⟨11⟩ 100, exampleSubmission ⟨3⟩ ⟨12⟩ 200]
    let world := reached ⟨1⟩ 1 exampleMoment ⟨9⟩ exampleOrder requests
    let request : Request := .acceptOffer (exampleEnvironment ⟨13⟩) ⟨1⟩ ⟨11⟩ none
    ∃ broadcast, request.broadcast? world.tables = some broadcast ∧
      ∃ message ∈ broadcast.messages, message.event ∈ orderDetailEvents ∧
        acceptsOrderDetailEvent ⟨1⟩ message.payload = true ∧ .user ⟨3⟩ ∈ message.rooms := by
  intro requests world request
  let users := (exampleEnvironment ⟨13⟩).users
  have changed : (OrdersService.card users (world.step request).tables ⟨3⟩).undated ≠
      (OrdersService.card users world.tables ⟨3⟩).undated := by
    intro same
    have offers := congrArg (fun card => card.offers.map OfferDto.status) same
    revert offers
    decide +kernel
  have participates : world.tables.isOrderParticipant ⟨3⟩ = true := by decide +kernel
  have sameId : world.tables.order.id = ⟨1⟩ := by decide +kernel
  rcases changed_card_is_told ⟨1⟩ 1 exampleMoment ⟨9⟩ exampleOrder requests request users ⟨3⟩ rfl
    changed with ⟨broadcast, isBroadcast, ⟨message, mem, listed, accepted, heard⟩ | ⟨absent, -⟩⟩
  · exact ⟨broadcast, isBroadcast, message, mem, listed, sameId ▸ accepted, heard⟩
  · exact absurd (participates.symm.trans absent) (by decide)

/-- The lists that are open while an order moves.  In the list of the client the order changes
exactly when the message that the list waits for goes to the client.  A row of a company's own
offers and its documents change only with a message to the company; what its feed holds of the
order, the contents of the row included, with a message to the feed or the company, except where
the company has moved the order itself. -/
theorem changed_lists_are_told (id : Uuid) (orderNumber : ℕ) (now : Date) (clientId : Uuid)
    (order : CreateOrderDto) (requests : List Request) (request : Request)
    (users : Uuid → User) (companyId : Uuid) (moves : request.kind.movesOrder = true) :
    let world := reached id orderNumber now clientId order requests
    let before := world.tables
    let after := (world.step request).tables
    before.SameOrderRows after ∨
      ∃ broadcast, request.broadcast? before = some broadcast ∧
        (toOrderListItem (OrdersService.detailRow users after).toOrderRow before.order.clientId ≠
            toOrderListItem (OrdersService.detailRow users before).toOrderRow
              before.order.clientId ↔
          ∃ message ∈ broadcast.messages, message.event ∈ ordersListEvents ∧
            .user before.order.clientId ∈ message.rooms) ∧
        ((after.ownOffer companyId).map (toCompanyOfferItem users after) ≠
            (before.ownOffer companyId).map (toCompanyOfferItem users before) →
          ∃ message ∈ broadcast.messages, message.event ∈ companyOffersEvents ∧
            .user companyId ∈ message.rooms) ∧
        ((∃ file ownerType orderId, buildDocumentsWhere ⟨companyId, ownerType, orderId⟩ after file ≠
            buildDocumentsWhere ⟨companyId, ownerType, orderId⟩ before file) →
          ∃ message ∈ broadcast.messages, message.event ∈ documentsEvents ∧
            .user companyId ∈ message.rooms) ∧
        (request.company? before ≠ some companyId →
          listAvailableOrder users companyId after ≠ listAvailableOrder users companyId before →
            ∃ message ∈ broadcast.messages, message.event ∈ companyFeedEvents ∧
              (.user companyId ∈ message.rooms ∨ .companyFeed ∈ message.rooms)) := by
  intro world before after
  rcases reached_coupled id orderNumber now clientId order requests with ⟨wellFormed, coupled⟩
  rcases World.moved_or_same wellFormed moves with
    same | ⟨middle, notifications, broadcast, isAfter, change, isBroadcast, told⟩
  · exact Or.inl same
  right
  have keyed := wellFormed.keyed
  have stillKeyed := change.wellKeyed keyed
  have stillCoupled := coupled.preserved keyed change
  simp only [after, world] at *
  rw [isAfter] at told ⊢
  refine ⟨broadcast, isBroadcast, ?_, ?_, ?_, ?_⟩
  · have iff := @listItem_changed_iff users before middle request.kind coupled stillCoupled change
      moves
    simp only [ordersListEvents, List.mem_singleton]
    exact iff.trans told.status.symm
  · intro changed
    by_cases isOwner : before.order.clientId = companyId
    · rcases told.client with ⟨message, mem, isEvent, _, toClient⟩
      exact ⟨message, mem, by rw [isEvent]; decide, isOwner ▸ toClient⟩
    · have written : middle.ownOffer companyId ≠ before.ownOffer companyId := by
        intro own
        have kept := @companyOffer_kept users companyId before middle request.kind coupled
          stillCoupled change moves isOwner own
        exact changed kept
      rcases told.company companyId written with ⟨message, mem, isEvent, _, toCompany⟩
      exact ⟨message, mem, by rw [isEvent]; decide, toCompany⟩
  · rintro ⟨file, ownerType, orderId, changed⟩
    have written : middle.ownOffer companyId ≠ before.ownOffer companyId := by
      intro own
      exact changed (documents_kept keyed.companies stillKeyed.companies
        (change.sameTask moves).1.clientId own)
    rcases told.company companyId written with ⟨message, mem, isEvent, _, toCompany⟩
    exact ⟨message, mem, by rw [isEvent]; decide, toCompany⟩
  · intro notActor changed
    by_cases own : middle.ownOffer companyId = before.ownOffer companyId
    · by_cases accepts : acceptsOffers middle.order.status = acceptsOffers before.order.status
      case neg =>
        rcases told.feed accepts with ⟨message, mem, isEvent, inFeed⟩
        exact ⟨message, mem, by rw [isEvent]; decide, Or.inr inFeed⟩
      case pos =>
        have moved : before.order.clientId = companyId ∧
            middle.order.status ≠ before.order.status := by
          by_contra shown
          rw [not_and_or, not_not] at shown
          have kept := @availableOrder_kept users companyId before middle request.kind keyed
            coupled change moves shown own accepts
          exact changed kept
        rcases told.status.mpr moved.2 with ⟨message, mem, isEvent, toClient⟩
        exact ⟨message, mem, by rw [isEvent]; decide, Or.inl (moved.1 ▸ toClient)⟩
    · rcases told.notice companyId own notActor with ⟨message, mem, isEvent, toCompany⟩
      exact ⟨message, mem, by rw [isEvent]; decide, Or.inl toCompany⟩

/-- The same choice in the list of the client. -/
theorem changed_lists_are_told_example :
    let requests := [exampleSubmission ⟨2⟩ ⟨11⟩ 100, exampleSubmission ⟨3⟩ ⟨12⟩ 200]
    let world := reached ⟨1⟩ 1 exampleMoment ⟨9⟩ exampleOrder requests
    let request : Request := .acceptOffer (exampleEnvironment ⟨13⟩) ⟨1⟩ ⟨11⟩ none
    ∃ broadcast, request.broadcast? world.tables = some broadcast ∧
      ∃ message ∈ broadcast.messages, message.event ∈ ordersListEvents ∧
        .user ⟨9⟩ ∈ message.rooms := by
  intro requests world request
  let users := (exampleEnvironment ⟨13⟩).users
  have moved : (world.step request).tables.order.status ≠ world.tables.order.status := by
    decide +kernel
  have sameClient : world.tables.order.clientId = ⟨9⟩ := by decide +kernel
  rcases changed_lists_are_told ⟨1⟩ 1 exampleMoment ⟨9⟩ exampleOrder requests request users ⟨3⟩ rfl
    with ⟨same, -⟩ | ⟨broadcast, isBroadcast, list, -⟩
  · exact absurd (congrArg Order.status same) moved
  · have changed : toOrderListItem
          (OrdersService.detailRow users (world.step request).tables).toOrderRow ⟨9⟩ ≠
        toOrderListItem (OrdersService.detailRow users world.tables).toOrderRow ⟨9⟩ := by
      intro same
      have status := congrArg OrderListItem.status same
      revert status
      decide +kernel
    rw [sameClient] at list
    exact ⟨broadcast, isBroadcast, list.mp changed⟩

end MyBuild
