import MyBuild.Orders.Coupling
import MyBuild.Orders.Notices

/-!
# Deleting orders

Three parts of the code delete orders: the owner's request, the compensation of a
creation whose files could not be stored, and the reset of the demo.  The store here
holds all orders, so that submissions to one of them can fall between the two halves of
a deletion.  The first part reads whom to tell under the order's lock and deletes in the
same transaction; the second tells nobody.  The third locks the row of the demo client
before it reads whom to tell: a submission to one of the client's orders has to write the
client a notification, and a row that refers to a locked row waits until the reset is over.
-/

namespace MyBuild

namespace OrdersService

def orderNotDeletable : String :=
  "Заказ уже в работе — его нельзя удалить. Дождитесь завершения"

def deletionNotice (order : String) (reason : String) (companyId : Uuid) : NotificationDraft :=
  { userId := companyId
    type := .orderDeleted
    orderId := none
    title := notificationTypeLabels .orderDeleted
    body := order ++ reason
    collapseKey := none }

def deletedByClient : String :=
  ": клиент удалил заказ, ваше предложение больше не действует"

/-- The notices to write once the order's row is deleted; the row itself is the store's. -/
def deleteWithNotices (orderId : Uuid) : OrderTx (List NotificationDraft) := do
  let order ← lockOrder orderId
  let tables ← get
  if canDeleteOrder order.status then
    return (tables.offers.filter (isActiveOffer ·.status)).map fun offer =>
      deletionNotice (orderRef order.orderNumber order.title) deletedByClient offer.companyId
  else throw (.conflict orderNotDeletable)

/-- The owner deletes the order; the status is the one its guard has read. -/
def remove (orderId : Uuid) (status : OrderStatus) : OrderTx (List NotificationDraft) :=
  if canDeleteOrder status then deleteWithNotices orderId
  else throw (.conflict orderNotDeletable)

variable {orderId : Uuid} {status : OrderStatus} {tables next : OrderTables}
  {drafts : List NotificationDraft}

theorem run_remove_eq_ok :
    (remove orderId status).run tables = .ok (drafts, next) ↔
      canDeleteOrder status = true ∧ orderId = tables.order.id ∧
        canDeleteOrder tables.order.status = true ∧
        drafts = (tables.offers.filter (isActiveOffer ·.status)).map (fun offer =>
          deletionNotice (orderRef tables.order.orderNumber tables.order.title) deletedByClient
            offer.companyId) ∧
        next = tables := by
  simp only [remove]
  by_cases deletable : canDeleteOrder status = true
  · rw [if_pos deletable, deleteWithNotices, Transaction.run_bind_eq_ok]
    constructor
    · rintro ⟨order, tables, locked, afterLock⟩
      rcases run_lockOrder_eq_ok.mp locked with ⟨sameId, rfl, rfl⟩
      rw [Transaction.run_get_bind] at afterLock
      split at afterLock
      case isTrue still =>
        cases afterLock
        exact ⟨deletable, sameId, still, rfl, rfl⟩
      case isFalse => cases afterLock
    · rintro ⟨_, sameId, still, rfl, rfl⟩
      refine ⟨_, _, run_lockOrder_eq_ok.mpr ⟨sameId, rfl, rfl⟩, ?_⟩
      rw [Transaction.run_get_bind, if_pos still]
      rfl
  · rw [if_neg deletable, Transaction.run_throw]
    simp [deletable]

end OrdersService

/-- A company with an offer in play on a demo order, as the reset reads it. -/
structure Outsider where
  companyId : Uuid
  orderNumber : ℕ
  title : String
  deriving DecidableEq

def deletedByReset : String :=
  ": демо-заказ удалён плановым сбросом демо, ваше предложение больше не действует"

/-- The demo accounts: a client, and companies. -/
structure DemoUserIds where
  client : Uuid
  companies : List Uuid
  apart : client ∉ companies

def DemoUserIds.values (ids : DemoUserIds) : List Uuid := ids.client :: ids.companies

/-- All orders, with what is in flight around their creation and the reset of the demo.
`orphans` are notifications whose order is gone, `notices` those about no order from the start.
A reset under way has read its outsiders, and holds the row of the demo client. -/
structure Store where
  orders : List World
  notices : List Notification
  orphans : List Notification
  creating : List Uuid
  demo : DemoUserIds
  reset : Option (List Outsider)

def World.order (world : World) : Order := world.tables.order

/-- Whom the transaction of the request writes a notification to. -/
def World.notified (request : Request) (world : World) : List Uuid :=
  ((world.withNotifications []).step request).tables.notifications.map (·.userId)

/-- A request to one order, or a step of a creation, a deletion or the reset. -/
inductive StoreRequest where
  | createOrder (id : Uuid) (orderNumber : ℕ) (now : Date) (clientId : Uuid)
      (dto : CreateOrderDto) (withFiles : Bool)
  | attachCreated (environment : Environment) (elsewhere : FilesService.Elsewhere)
      (orderId : Uuid) (fresh : List PreparedFile)
  | rollbackCreate (orderId : Uuid)
  | request (orderId : Uuid) (request : Request)
  | removeOrder (environment : Environment) (orderId : Uuid) (status : OrderStatus)
  | replaceDemoAccounts (replaced : List Uuid) (demo : DemoUserIds)
  | readOutsiders
  | deleteDemoOrders (environment : Environment)
  | abandonReset
  | seedDemoOrder (tables : { tables : OrderTables // tables.WellKeyed })

namespace Store

def demoIds (store : Store) : List Uuid := store.demo.values

/-- A row that refers to the user cannot be written: the reset holds the user's row `FOR UPDATE`. -/
def isLocked (store : Store) (userId : Uuid) : Bool :=
  store.reset.isSome && userId == store.demo.client

def updateOrder (orderId : Uuid) (update : World → World) (store : Store) : Store :=
  { store with orders := Rows.updateWhere (·.order.id = orderId) update store.orders }

/-- Delete the chosen orders with all that belongs to them; notifications lose their order. -/
def deleteOrders (doomed : Order → Bool) (store : Store) : Store :=
  { store with
    orders := store.orders.filter (!doomed ·.order)
    orphans := store.orphans ++ (store.orders.filter (doomed ·.order)).flatMap fun world =>
      world.tables.notifications.map fun notification => { notification with orderId := none } }

def outsiders (store : Store) : List Outsider :=
  (store.orders.filter (store.demoIds.contains ·.order.clientId)).flatMap fun world =>
    (world.tables.offers.filter fun offer =>
      !store.demoIds.contains offer.companyId && isActiveOffer offer.status).map fun offer =>
        { companyId := offer.companyId
          orderNumber := world.order.orderNumber
          title := world.order.title }

def insertOrder (tables : OrderTables) (store : Store) : Store :=
  if store.orders.any (·.order.id == tables.order.id) then store
  else { store with orders := store.orders ++ [World.ofTables tables] }

/-- An order without the offers and the notifications of deleted accounts. -/
def dropAccounts (deleted : List Uuid) (world : World) : World :=
  { world with
    tables := { world.tables with
      offers := world.tables.offers.filter (!deleted.contains ·.companyId)
      notifications := world.tables.notifications.filter (!deleted.contains ·.userId) } }

/-- One step; a label whose part of the code is not at that point changes nothing, nor does a
transaction that waits for a locked row.  Companies create no orders, and the seeded ones are the
demo client's.  While a reset is under way all demo accounts are there, so that no other reset
replaces any. -/
def step (store : Store) : StoreRequest → Store
  | .createOrder id orderNumber now clientId dto withFiles =>
      if store.orders.any (·.order.id == id) || store.demo.companies.contains clientId ||
          store.isLocked clientId then store
      else
        { store.insertOrder (OrdersService.createOrder id orderNumber now clientId dto) with
          creating := if withFiles then store.creating ++ [id] else store.creating }
  | .attachCreated environment elsewhere orderId fresh =>
      match store.orders.find? (·.order.id == orderId) with
      | some world =>
          if store.creating.contains orderId && Transaction.succeeds (FilesService.insertFiles
              environment elsewhere (OrdersService.clientAttachParams orderId) fresh)
                world.tables then
            { store.updateOrder orderId
                (·.step (.attachClientFiles environment elsewhere orderId fresh)) with
              creating := store.creating.erase orderId }
          else store
      | none => store
  | .rollbackCreate orderId =>
      if store.creating.contains orderId then
        { store.deleteOrders (·.id == orderId) with creating := store.creating.erase orderId }
      else store
  | .request orderId request =>
      store.updateOrder orderId fun world =>
        if (world.notified request).any store.isLocked then world else world.step request
  | .removeOrder environment orderId status =>
      match store.orders.find? (·.order.id == orderId) with
      | some world =>
          match (OrdersService.remove orderId status).run world.tables with
          | .ok (drafts, _) =>
              { store.deleteOrders (·.id == orderId) with
                notices := store.notices ++ drafts.mapIdx (NotificationDraft.toRow environment) }
          | .error _ => store
      | none => store
  | .replaceDemoAccounts replaced demo =>
      if store.reset.isSome ||
          store.orders.any (demo.companies.contains ·.order.clientId) then store
      else
        let remaining := store.deleteOrders (replaced.contains ·.clientId)
        { remaining with
          orders := remaining.orders.map (dropAccounts replaced)
          notices := remaining.notices.filter (!replaced.contains ·.userId)
          orphans := remaining.orphans.filter (!replaced.contains ·.userId)
          demo }
  | .readOutsiders =>
      if store.reset.isSome then store else { store with reset := some store.outsiders }
  | .deleteDemoOrders environment =>
      match store.reset with
      | some outsiders =>
          let remaining := store.deleteOrders (store.demoIds.contains ·.clientId)
          let drafts := outsiders.map fun outsider =>
            OrdersService.deletionNotice (orderRef outsider.orderNumber outsider.title)
              deletedByReset outsider.companyId
          { remaining with
            orders := remaining.orders.map (·.step (.resetDemo store.demoIds))
            notices := (remaining.notices ++
              drafts.mapIdx (NotificationDraft.toRow environment)).filter
                (!store.demoIds.contains ·.userId)
            orphans := remaining.orphans.filter (!store.demoIds.contains ·.userId)
            reset := none }
      | none => store
  | .abandonReset => { store with reset := none }
  | .seedDemoOrder tables =>
      if store.reset.isSome || tables.val.order.clientId != store.demo.client then store
      else store.insertOrder tables.val

def told (companyId : Uuid) (order : Order) (store : Store) : ℕ :=
  store.notices.countP fun notice =>
    notice.userId == companyId && notice.type == .orderDeleted &&
      [OrdersService.deletedByClient, deletedByReset].any fun reason =>
        notice.body == some (orderRef order.orderNumber order.title ++ reason)

/-- Every order the step deletes is told to every company outside the demo with an offer in play
on it. -/
def DeletionsTold (before : Store) (request : StoreRequest) : Prop :=
  ∀ world ∈ before.orders,
    (∀ kept ∈ (before.step request).orders, kept.order.id ≠ world.order.id) →
      ∀ offer ∈ world.tables.offers, isActiveOffer offer.status = true →
        before.demoIds.contains offer.companyId = false →
          before.told offer.companyId world.order <
            (before.step request).told offer.companyId world.order

instance DeletionsTold.decidable (before : Store) (request : StoreRequest) :
    Decidable (before.DeletionsTold request) :=
  inferInstanceAs (Decidable (∀ world ∈ before.orders,
    (∀ kept ∈ (before.step request).orders, kept.order.id ≠ world.order.id) →
      ∀ offer ∈ world.tables.offers, isActiveOffer offer.status = true →
        before.demoIds.contains offer.companyId = false →
          before.told offer.companyId world.order <
            (before.step request).told offer.companyId world.order))

/-- The condition on a step: a compensation, and the deletion of replaced accounts, meets no offer
in play from outside the demo. -/
def Protected (store : Store) : StoreRequest → Prop
  | .rollbackCreate orderId =>
      store.creating.contains orderId = true →
        ∀ world ∈ store.orders, world.order.id = orderId → ∀ offer ∈ world.tables.offers,
          isActiveOffer offer.status = true → store.demoIds.contains offer.companyId = true
  | .replaceDemoAccounts replaced _ =>
      store.reset = none →
        ∀ world ∈ store.orders, replaced.contains world.order.clientId = true →
          ∀ offer ∈ world.tables.offers, isActiveOffer offer.status = true →
            store.demoIds.contains offer.companyId = true
  | _ => True

/-- What holds in every state of the store: the orders are well formed under different identifiers,
none belongs to a demo company, and a reset under way has read every company it has to tell. -/
structure Consistent (store : Store) : Prop where
  wellFormed : ∀ world ∈ store.orders, world.WellFormed
  orderIds : (store.orders.map fun world => world.order.id).Nodup
  clients : ∀ world ∈ store.orders, store.demo.companies.contains world.order.clientId = false
  covered : ∀ read, store.reset = some read → ∀ world ∈ store.orders,
    store.demoIds.contains world.order.clientId = true → ∀ offer ∈ world.tables.offers,
      isActiveOffer offer.status = true → store.demoIds.contains offer.companyId = false →
        ⟨offer.companyId, world.order.orderNumber, world.order.title⟩ ∈ read

def initial (demo : DemoUserIds) : Store :=
  { orders := [], notices := [], orphans := [], creating := [], demo, reset := none }

theorem order_step {world : World} (wellFormed : world.WellFormed) (request : Request) :
    (world.step request).order.id = world.order.id ∧
      (world.step request).order.orderNumber = world.order.orderNumber ∧
      (world.step request).order.title = world.order.title ∧
      (world.step request).order.clientId = world.order.clientId := by
  rcases World.step_changes wellFormed request with same | ⟨middle, change, same⟩
  · rw [show (world.step request).order = world.order from same.1]
    exact ⟨rfl, rfl, rfl, rfl⟩
  · rw [show (world.step request).order = middle.order from same.1]
    exact ⟨change.order_id, change.order_fixed⟩

theorem told_lt {store next : Store} {companyId : Uuid} {order : Order}
    {environment : Environment} {drafts : List NotificationDraft} {kept : Notification → Bool}
    (notices : next.notices =
      (store.notices ++ drafts.mapIdx (NotificationDraft.toRow environment)).filter kept)
    (keeps : ∀ notice : Notification, notice.userId = companyId → kept notice = true)
    {reason : String} (known : reason = OrdersService.deletedByClient ∨ reason = deletedByReset)
    (mem : OrdersService.deletionNotice (orderRef order.orderNumber order.title) reason
      companyId ∈ drafts) :
    store.told companyId order < next.told companyId order := by
  let counts (notice : Notification) : Bool :=
    notice.userId == companyId && notice.type == .orderDeleted &&
      [OrdersService.deletedByClient, deletedByReset].any fun reason =>
        notice.body == some (orderRef order.orderNumber order.title ++ reason)
  have stays : (store.notices ++ drafts.mapIdx (NotificationDraft.toRow environment)).countP
      (fun notice => counts notice && kept notice) =
        (store.notices ++ drafts.mapIdx (NotificationDraft.toRow environment)).countP counts := by
    apply List.countP_congr
    intro notice _
    by_cases sameUser : notice.userId = companyId
    · simp [keeps notice sameUser]
    · simp [counts, sameUser]
  rcases List.getElem_of_mem mem with ⟨index, bound, isDraft⟩
  have new : 0 < (drafts.mapIdx (NotificationDraft.toRow environment)).countP counts := by
    apply List.countP_pos_iff.mpr
    refine ⟨_, List.mem_mapIdx.mpr ⟨index, bound, rfl⟩, ?_⟩
    rw [isDraft]
    rcases known with rfl | rfl <;>
      simp [counts, NotificationDraft.toRow, OrdersService.deletionNotice]
  have total : next.told companyId order =
      (store.notices ++ drafts.mapIdx (NotificationDraft.toRow environment)).countP counts := by
    rw [← stays, ← List.countP_filter, ← notices]
    rfl
  rw [total, List.countP_append]
  have before : store.told companyId order = store.notices.countP counts := rfl
  omega

/-- A submission that changes something writes the client a notification. -/
theorem submitOffer_cases {world : World} (keyed : world.tables.WellKeyed)
    (environment : Environment) (editedAt : Date) (companyId : Uuid) (dto : CreateOfferDto) :
    world.step (.submitOffer environment editedAt companyId dto) = world ∨
      world.order.clientId ∈ world.notified (.submitOffer environment editedAt companyId dto) := by
  have framed : OrderFramed (OffersService.submit environment editedAt companyId dto)
      world.tables := OffersService.submit_framed keyed.companies
  rcases framed with ⟨error, throws⟩ | ⟨created, next, change, -, returns⟩
  · left
    have unchanged : Transaction.commit (OffersService.submit environment editedAt companyId dto)
        world.tables = world.tables :=
      Transaction.commit_of_error (throws world.tables.notifications)
    simp only [World.step, World.commit, unchanged]
  · right
    have told := OffersService.client_told (returns [])
    have committed := Transaction.commit_of_ok (returns [])
    rw [← committed] at told
    exact told

/-- The files of a new order are attached without a notification. -/
theorem notified_attachClientFiles {world : World} (environment : Environment)
    (elsewhere : FilesService.Elsewhere) (orderId : Uuid) (fresh : List PreparedFile) :
    world.notified (.attachClientFiles environment elsewhere orderId fresh) = [] := by
  have quiet : OrderQuiet (FilesService.insertFiles environment elsewhere
      (OrdersService.clientAttachParams orderId) fresh) world.tables :=
    FilesService.insertFiles_framed rfl Transaction.Quiet.pure
      fun _ _ => Transaction.Quiet.pure
  rcases quiet.commit rfl with ⟨next, change, rfl, committed⟩
  exact congrArg (fun tables : OrderTables => tables.notifications.map (·.userId)) (committed [])

theorem isDemoOrder_iff {store : Store} (consistent : store.Consistent) {world : World}
    (mem : world ∈ store.orders) :
    store.demoIds.contains world.order.clientId = true ↔
      world.order.clientId = store.demo.client := by
  have notCompany := consistent.clients world mem
  simp only [List.contains_eq_mem, decide_eq_false_iff_not] at notCompany
  simp [demoIds, DemoUserIds.values, notCompany]

/-- The offers in play that a request leaves are covered by what the reset has read: a request
that gives a company an offer in play waits. -/
theorem covered_step {store : Store} (consistent : store.Consistent) {request : Request}
    {read : List Outsider} (reading : store.reset = some read) {world : World}
    (worldMem : world ∈ store.orders)
    (demoOrder : store.demoIds.contains world.order.clientId = true)
    (free : (world.notified request).any store.isLocked = false) {offer : Offer}
    (mem : offer ∈ (world.step request).tables.offers)
    (active : isActiveOffer offer.status = true)
    (outside : store.demoIds.contains offer.companyId = false) :
    ⟨offer.companyId, world.order.orderNumber, world.order.title⟩ ∈ read := by
  have wellFormed := consistent.wellFormed world worldMem
  have covered := consistent.covered read reading world worldMem demoOrder
  rcases World.step_changes wellFormed request with same | ⟨middle, change, same⟩
  · rw [same.2.1] at mem
    exact covered offer mem active outside
  have before := mem
  rw [same.2.1] at mem
  rcases change.active_source wellFormed.keyed mem active with
    ⟨old, oldMem, sameCompany, oldActive⟩ | ⟨environment, editedAt, dto, isKind⟩
  · rw [← sameCompany] at outside ⊢
    exact covered old oldMem oldActive outside
  · cases request <;> cases isKind
    rcases submitOffer_cases wellFormed.keyed environment editedAt offer.companyId dto with
      unchanged | told
    · rw [unchanged] at before
      exact covered offer before active outside
    · have locked : store.isLocked world.order.clientId = true := by
        rw [isLocked, (isDemoOrder_iff consistent worldMem).mp demoOrder, reading]
        simp
      rw [List.any_eq_false] at free
      exact absurd locked (free _ told)

namespace Consistent

variable {store : Store}

theorem updateOrder (consistent : store.Consistent) {orderId : Uuid} {update : World → World}
    (updates : ∀ world ∈ store.orders, update world = world ∨ ∃ request,
      update world = world.step request ∧
        (world.notified request).any store.isLocked = false) :
    (store.updateOrder orderId update).Consistent := by
  have kept : ∀ world ∈ store.orders, (update world).WellFormed ∧
      (update world).order.id = world.order.id ∧
      (update world).order.orderNumber = world.order.orderNumber ∧
      (update world).order.title = world.order.title ∧
      (update world).order.clientId = world.order.clientId := by
    intro world mem
    have wellFormed := consistent.wellFormed world mem
    rcases updates world mem with same | ⟨request, same, -⟩ <;> rw [same]
    · exact ⟨wellFormed, rfl, rfl, rfl, rfl⟩
    · exact ⟨wellFormed.step request, order_step wellFormed request⟩
  constructor
  · intro world mem
    rcases Rows.mem_updateWhere.mp mem with ⟨old, oldMem, rfl⟩
    split
    · exact (kept old oldMem).1
    · exact consistent.wellFormed old oldMem
  · have sameIds : ((store.updateOrder orderId update).orders.map fun world =>
        world.order.id) = store.orders.map fun world => world.order.id :=
      Rows.map_updateWhere_of_mem fun world mem => (kept world mem).2.1
    rw [sameIds]
    exact consistent.orderIds
  · intro world mem
    rcases Rows.mem_updateWhere.mp mem with ⟨old, oldMem, rfl⟩
    have notCompany := consistent.clients old oldMem
    split
    · rw [(kept old oldMem).2.2.2.2]
      exact notCompany
    · exact notCompany
  · intro read reading world mem demoOrder offer offerMem active outside
    rcases Rows.mem_updateWhere.mp mem with ⟨old, oldMem, rfl⟩
    split at offerMem
    case isFalse otherId =>
      rw [if_neg otherId] at demoOrder ⊢
      exact consistent.covered read reading old oldMem demoOrder offer offerMem active outside
    case isTrue sameId =>
      rcases kept old oldMem with ⟨-, -, sameNumber, sameTitle, sameClient⟩
      rw [if_pos sameId, sameClient] at demoOrder
      rw [if_pos sameId, sameNumber, sameTitle]
      rcases updates old oldMem with same | ⟨request, same, free⟩ <;> rw [same] at offerMem
      · exact consistent.covered read reading old oldMem demoOrder offer offerMem active outside
      · exact covered_step consistent reading oldMem demoOrder free offerMem active outside

theorem deleteOrders (consistent : store.Consistent) (doomed : Order → Bool) :
    (store.deleteOrders doomed).Consistent := by
  constructor
  · intro world mem
    exact consistent.wellFormed world (List.mem_of_mem_filter mem)
  · exact consistent.orderIds.sublist (List.filter_sublist.map _)
  · intro world mem
    exact consistent.clients world (List.mem_of_mem_filter mem)
  · intro read reading world mem
    exact consistent.covered read reading world (List.mem_of_mem_filter mem)

theorem insertOrder (consistent : store.Consistent) {tables : OrderTables}
    (keyed : tables.WellKeyed)
    (client : store.demo.companies.contains tables.order.clientId = false)
    (quiet : tables.offers = [] ∨ store.reset = none) :
    (store.insertOrder tables).Consistent := by
  simp only [Store.insertOrder]
  split
  · exact consistent
  · rename_i newId
    constructor
    · intro world mem
      rcases List.mem_append.mp mem with old | new
      · exact consistent.wellFormed world old
      · rw [List.mem_singleton.mp new]
        exact World.wellFormed_of_keyed keyed
    · have unused : ∀ world ∈ store.orders, world.order.id ≠ tables.order.id := by
        simpa using newId
      rw [List.map_append]
      apply List.Nodup.append consistent.orderIds (by simp)
      simpa [World.ofTables, World.order] using unused
    · intro world mem
      rcases List.mem_append.mp mem with old | new
      · exact consistent.clients world old
      · rw [List.mem_singleton.mp new]
        exact client
    · intro read reading world mem demoOrder offer offerMem active outside
      rcases List.mem_append.mp mem with old | new
      · exact consistent.covered read reading world old demoOrder offer offerMem active outside
      · rw [List.mem_singleton.mp new] at offerMem
        rcases quiet with noOffers | noReset
        · rw [show (World.ofTables tables).tables.offers = [] from noOffers] at offerMem
          cases offerMem
        · rw [noReset] at reading
          cases reading

theorem mapOrders (consistent : store.Consistent) {next : Store} {update : World → World}
    (keeps : ∀ world ∈ store.orders,
      (update world).WellFormed ∧ (update world).order.id = world.order.id)
    (orders : next.orders = store.orders.map update)
    (clients : ∀ world ∈ store.orders,
      next.demo.companies.contains (update world).order.clientId = false)
    (noReset : next.reset = none) : next.Consistent := by
  constructor
  · intro world mem
    rw [orders] at mem
    rcases List.mem_map.mp mem with ⟨old, oldMem, rfl⟩
    exact (keeps old oldMem).1
  · have sameIds : (next.orders.map fun world => world.order.id) =
        store.orders.map fun world => world.order.id := by
      rw [orders, List.map_map]
      exact List.map_congr_left fun world mem => (keeps world mem).2
    rw [sameIds]
    exact consistent.orderIds
  · intro world mem
    rw [orders] at mem
    rcases List.mem_map.mp mem with ⟨old, oldMem, rfl⟩
    exact clients old oldMem
  · intro read reading
    rw [noReset] at reading
    cases reading

theorem dropAccounts {world : World} (wellFormed : world.WellFormed) (deleted : List Uuid) :
    (Store.dropAccounts deleted world).WellFormed := by
  refine ⟨⟨?_, ?_, ?_, wellFormed.keyed.submissionIds⟩, wellFormed.submissionsKnown⟩
  · exact wellFormed.keyed.offerIds.sublist (List.filter_sublist.map _)
  · exact wellFormed.keyed.companies.sublist (List.filter_sublist.map _)
  · intro offer mem
    exact wellFormed.keyed.orderIds offer (List.mem_of_mem_filter mem)

theorem readOutsiders (consistent : store.Consistent) :
    ({ store with reset := some store.outsiders } : Store).Consistent := by
  refine ⟨consistent.wellFormed, consistent.orderIds, consistent.clients, ?_⟩
  intro read reading world mem demoOrder offer offerMem active outside
  cases reading
  refine List.mem_flatMap.mpr ⟨world, List.mem_filter.mpr ⟨mem, demoOrder⟩, ?_⟩
  refine List.mem_map.mpr ⟨offer, List.mem_filter.mpr ⟨offerMem, ?_⟩, rfl⟩
  rw [active, show store.demoIds.contains offer.companyId = false from outside]
  rfl

theorem step (consistent : store.Consistent) (request : StoreRequest) :
    (store.step request).Consistent := by
  cases request with
  | createOrder id orderNumber now clientId dto withFiles =>
      simp only [Store.step]
      split
      case isTrue => exact consistent
      case isFalse free =>
        simp only [Bool.or_eq_true, not_or, Bool.not_eq_true] at free
        have fresh := OrdersService.createOrder_fresh id orderNumber now clientId dto
        have inserted := consistent.insertOrder (World.wellFormed_ofTables fresh).keyed
          free.1.2 (Or.inl fresh.noOffers)
        exact ⟨inserted.wellFormed, inserted.orderIds, inserted.clients, inserted.covered⟩
  | attachCreated environment elsewhere orderId fresh =>
      simp only [Store.step]
      split
      · split
        · have attached : (store.updateOrder orderId
              (·.step (.attachClientFiles environment elsewhere orderId fresh))).Consistent := by
            apply consistent.updateOrder
            intro world _
            refine Or.inr ⟨_, rfl, ?_⟩
            rw [notified_attachClientFiles]
            rfl
          exact ⟨attached.wellFormed, attached.orderIds, attached.clients, attached.covered⟩
        · exact consistent
      · exact consistent
  | rollbackCreate orderId =>
      simp only [Store.step]
      split
      · have deleted := consistent.deleteOrders (·.id == orderId)
        exact ⟨deleted.wellFormed, deleted.orderIds, deleted.clients, deleted.covered⟩
      · exact consistent
  | request orderId request =>
      apply consistent.updateOrder
      intro world _
      cases free : (world.notified request).any store.isLocked with
      | true => exact Or.inl (if_pos rfl)
      | false => exact Or.inr ⟨request, if_neg Bool.false_ne_true, free⟩
  | removeOrder environment orderId status =>
      simp only [Store.step]
      split
      · split
        · have deleted := consistent.deleteOrders (·.id == orderId)
          exact ⟨deleted.wellFormed, deleted.orderIds, deleted.clients, deleted.covered⟩
        · exact consistent
      · exact consistent
  | replaceDemoAccounts replaced demo =>
      simp only [Store.step]
      split
      case isTrue => exact consistent
      case isFalse free =>
        simp only [Bool.or_eq_true, not_or, Bool.not_eq_true, Option.isSome_eq_false_iff,
          Option.isNone_iff_eq_none, List.any_eq_false] at free
        have deleted := consistent.deleteOrders (replaced.contains ·.clientId)
        apply @mapOrders _ deleted _ (Store.dropAccounts replaced)
        · intro world mem
          exact ⟨dropAccounts (deleted.wellFormed world mem) replaced, rfl⟩
        · rfl
        · intro world mem
          exact free.2 world (List.mem_of_mem_filter mem)
        · exact free.1
  | readOutsiders =>
      simp only [Store.step]
      split
      · exact consistent
      · exact consistent.readOutsiders
  | deleteDemoOrders environment =>
      simp only [Store.step]
      split
      · have deleted := consistent.deleteOrders (store.demoIds.contains ·.clientId)
        apply @mapOrders _ deleted _ (·.step (.resetDemo store.demoIds))
        · intro world mem
          have wellFormed := deleted.wellFormed world mem
          exact ⟨wellFormed.step _, (order_step wellFormed _).1⟩
        · rfl
        · intro world mem
          rw [(order_step (deleted.wellFormed world mem) _).2.2.2]
          exact deleted.clients world mem
        · rfl
      · exact consistent
  | abandonReset =>
      refine ⟨consistent.wellFormed, consistent.orderIds, consistent.clients, ?_⟩
      intro read reading
      cases reading
  | seedDemoOrder tables =>
      simp only [Store.step]
      split
      case isTrue => exact consistent
      case isFalse free =>
        simp only [Bool.or_eq_true, not_or, Bool.not_eq_true, Option.isSome_eq_false_iff,
          Option.isNone_iff_eq_none, bne_eq_false_iff_eq] at free
        apply consistent.insertOrder tables.property
        · rw [free.2]
          simpa using store.demo.apart
        · exact Or.inr free.1

theorem initial (demo : DemoUserIds) : (Store.initial demo).Consistent := by
  constructor
  · intro world mem
    cases mem
  · exact List.nodup_nil
  · intro world mem
    cases mem
  · intro read reading
    cases reading

end Consistent

section

variable {store : Store} {request : StoreRequest}

theorem deletionsTold_of_kept
    (kept : ∀ world ∈ store.orders, ∃ other ∈ (store.step request).orders,
      other.order.id = world.order.id) : store.DeletionsTold request := by
  intro world mem gone
  rcases kept world mem with ⟨other, otherMem, sameId⟩
  exact absurd sameId (gone other otherMem)

theorem deletionsTold_of_quiet {doomed : Order → Bool}
    (kept : ∀ world ∈ store.orders, doomed world.order = false →
      ∃ other ∈ (store.step request).orders, other.order.id = world.order.id)
    (quiet : ∀ world ∈ store.orders, doomed world.order = true →
      ∀ offer ∈ world.tables.offers, isActiveOffer offer.status = true →
        store.demoIds.contains offer.companyId = true) : store.DeletionsTold request := by
  intro world mem gone offer offerMem active outside
  cases isDoomed : doomed world.order with
  | false =>
      rcases kept world mem isDoomed with ⟨other, otherMem, sameId⟩
      exact absurd sameId (gone other otherMem)
  | true =>
      rw [quiet world mem isDoomed offer offerMem active] at outside
      cases outside

theorem mem_deleteOrders {doomed : Order → Bool} {world : World} (mem : world ∈ store.orders)
    (spared : doomed world.order = false) : world ∈ (store.deleteOrders doomed).orders := by
  refine List.mem_filter.mpr ⟨mem, ?_⟩
  simp [spared]

theorem mem_insertOrder {tables : OrderTables} {world : World} (mem : world ∈ store.orders) :
    world ∈ (store.insertOrder tables).orders := by
  simp only [insertOrder]
  split
  · exact mem
  · exact List.mem_append_left _ mem

theorem mem_updateOrder {orderId : Uuid} {update : World → World} {world : World}
    (mem : world ∈ store.orders) (kept : (update world).order.id = world.order.id) :
    ∃ other ∈ (store.updateOrder orderId update).orders, other.order.id = world.order.id := by
  refine ⟨_, Rows.mem_updateWhere.mpr ⟨world, mem, rfl⟩, ?_⟩
  split
  · exact kept
  · rfl

theorem removeOrder_told (consistent : store.Consistent) {environment : Environment}
    {orderId : Uuid} {status : OrderStatus} :
    store.DeletionsTold (.removeOrder environment orderId status) := by
  cases found : store.orders.find? (·.order.id == orderId) with
  | none =>
      apply deletionsTold_of_kept
      intro world mem
      exact ⟨world, by simpa only [step, found] using mem, rfl⟩
  | some target =>
      have targetMem := List.mem_of_find?_eq_some found
      have targetId : target.order.id = orderId := by simpa using List.find?_some found
      cases removed : (OrdersService.remove orderId status).run target.tables with
      | error error =>
          apply deletionsTold_of_kept
          intro world mem
          exact ⟨world, by simpa only [step, found, removed] using mem, rfl⟩
      | ok result =>
          rcases result with ⟨drafts, next⟩
          rcases OrdersService.run_remove_eq_ok.mp removed with ⟨_, _, _, isDrafts, _⟩
          intro world mem gone offer offerMem active outside
          simp only [step, found, removed] at gone ⊢
          cases doomed : world.order.id == orderId with
          | false => exact absurd rfl (gone world (mem_deleteOrders mem doomed))
          | true =>
              have isTarget : world = target :=
                Rows.eq_of_key consistent.orderIds mem targetMem
                  ((beq_iff_eq.mp doomed).trans targetId.symm)
              subst isTarget
              apply told_lt (List.filter_true _).symm (fun _ _ => rfl) (Or.inl rfl)
              rw [isDrafts]
              exact List.mem_map.mpr ⟨offer, List.mem_filter.mpr ⟨offerMem, active⟩, rfl⟩

theorem deleteDemoOrders_told (consistent : store.Consistent) {environment : Environment} :
    store.DeletionsTold (.deleteDemoOrders environment) := by
  cases reading : store.reset with
  | none =>
      apply deletionsTold_of_kept
      intro world mem
      exact ⟨world, by simpa only [step, reading] using mem, rfl⟩
  | some read =>
      intro world mem gone offer offerMem active outside
      simp only [step, reading] at gone ⊢
      cases doomed : store.demoIds.contains world.order.clientId with
      | false =>
          have spared : world ∈ (store.deleteOrders (store.demoIds.contains ·.clientId)).orders :=
            mem_deleteOrders mem doomed
          exact absurd (order_step (consistent.wellFormed world mem) _).1
            (gone _ (List.mem_map_of_mem spared))
      | true =>
          have covered := consistent.covered read reading world mem doomed offer offerMem active
            outside
          refine told_lt rfl ?_ (Or.inr rfl) (List.mem_map.mpr ⟨_, covered, rfl⟩)
          intro notice sameUser
          rw [sameUser, outside]
          rfl

theorem deletionsTold (consistent : store.Consistent) (isProtected : store.Protected request) :
    store.DeletionsTold request := by
  cases request with
  | createOrder id orderNumber now clientId dto withFiles =>
      apply deletionsTold_of_kept
      intro world mem
      refine ⟨world, ?_, rfl⟩
      simp only [step]
      split
      · exact mem
      · exact mem_insertOrder mem
  | attachCreated environment elsewhere orderId fresh =>
      apply deletionsTold_of_kept
      intro world mem
      simp only [step]
      split
      · split
        · exact mem_updateOrder mem (order_step (consistent.wellFormed world mem) _).1
        · exact ⟨world, mem, rfl⟩
      · exact ⟨world, mem, rfl⟩
  | rollbackCreate orderId =>
      by_cases creating : store.creating.contains orderId
      · apply @deletionsTold_of_quiet store _ (·.id == orderId)
        · intro world mem spared
          simp only [step, if_pos creating]
          exact ⟨world, mem_deleteOrders mem spared, rfl⟩
        · intro world mem doomed
          exact isProtected creating world mem (beq_iff_eq.mp doomed)
      · apply deletionsTold_of_kept
        intro world mem
        exact ⟨world, by simpa only [step, if_neg creating] using mem, rfl⟩
  | request orderId request =>
      apply deletionsTold_of_kept
      intro world mem
      apply mem_updateOrder mem
      split
      · rfl
      · exact (order_step (consistent.wellFormed world mem) request).1
  | removeOrder environment orderId status => exact removeOrder_told consistent
  | replaceDemoAccounts replaced demo =>
      by_cases busy : (store.reset.isSome ||
          store.orders.any (demo.companies.contains ·.order.clientId)) = true
      · apply deletionsTold_of_kept
        intro world mem
        exact ⟨world, by simpa only [step, if_pos busy] using mem, rfl⟩
      · have free : store.reset = none := by
          simp only [Bool.or_eq_true, not_or, Bool.not_eq_true, Option.isSome_eq_false_iff,
            Option.isNone_iff_eq_none] at busy
          exact busy.1
        apply @deletionsTold_of_quiet store _ (replaced.contains ·.clientId)
        · intro world mem spared
          simp only [step, if_neg busy]
          exact ⟨_, List.mem_map_of_mem (mem_deleteOrders mem spared), rfl⟩
        · intro world mem doomed
          exact isProtected free world mem doomed
  | readOutsiders =>
      apply deletionsTold_of_kept
      intro world mem
      refine ⟨world, ?_, rfl⟩
      simp only [step]
      split <;> exact mem
  | deleteDemoOrders environment => exact deleteDemoOrders_told consistent
  | abandonReset => exact deletionsTold_of_kept fun world mem => ⟨world, mem, rfl⟩
  | seedDemoOrder tables =>
      apply deletionsTold_of_kept
      intro world mem
      refine ⟨world, ?_, rfl⟩
      simp only [step]
      split
      · exact mem
      · exact mem_insertOrder mem

end

end Store

/-- In every run whose steps meet the condition, every deletion is told to every company outside
the demo with an offer in play on the deleted order. -/
theorem deletions_are_told (demo : DemoUserIds) (requests : List StoreRequest)
    (isProtected : Runs.Along Store.step Store.Protected (Store.initial demo) requests) :
    Runs.Along Store.step Store.DeletionsTold (Store.initial demo) requests :=
  Runs.Along.consequence
    (fun _ request _ (consistent : Store.Consistent _) => consistent.step request)
    (fun _ _ isProtected consistent => Store.deletionsTold consistent isProtected) isProtected
    (Store.Consistent.initial demo)

def exampleDemoUsers : DemoUserIds := { client := ⟨8⟩, companies := [], apart := by decide }

def exampleOffered (withFiles : Bool) : List StoreRequest :=
  [.createOrder ⟨1⟩ 1 exampleMoment ⟨9⟩ exampleOrder withFiles,
    .request ⟨1⟩ (exampleSubmission ⟨2⟩ ⟨11⟩ 100)]

theorem deletions_are_told_owner :
    Runs.Along Store.step Store.DeletionsTold (Store.initial exampleDemoUsers)
      (exampleOffered false ++ [.removeOrder (exampleEnvironment ⟨11⟩) ⟨1⟩ .waiting,
        .readOutsiders, .deleteDemoOrders (exampleEnvironment ⟨11⟩)]) :=
  deletions_are_told exampleDemoUsers _ ⟨trivial, trivial, trivial, trivial, trivial, trivial⟩

/-- A submission to an order of the demo client waits for the reset. -/
example :
    (Runs.run Store.step (Store.initial exampleDemoUsers)
      [.createOrder ⟨1⟩ 1 exampleMoment ⟨8⟩ exampleOrder false, .readOutsiders,
        .request ⟨1⟩ (exampleSubmission ⟨2⟩ ⟨11⟩ 100)]).orders.map
          (·.tables.offers.length) = [0] := by
  decide +kernel

/-- A company's offer vanishes untold when the files of a new order cannot be stored. -/
theorem deletions_untold :
    ¬Runs.Along Store.step Store.DeletionsTold (Store.initial exampleDemoUsers)
      (exampleOffered true ++ [.rollbackCreate ⟨1⟩]) := by
  decide +kernel

end MyBuild
