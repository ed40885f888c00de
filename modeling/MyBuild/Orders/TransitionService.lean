import MyBuild.Library.Rows
import MyBuild.Orders.StateMachine

/-!
# One transaction for one transition

The machine decides what should happen; this service is the only place where the
decision reaches the rows.  It locks the order, finds the offer the command is about,
builds the event from the rows as they are under the lock, and writes the status, the
offers, the terms of the deal and the notifications in one commit.

The reading half never changes the rows, so what a transition that returned has done is
one statement, `run_eq_ok_iff`, and every later result about transitions starts from it.
-/

namespace MyBuild

/-- What the calling code intends.  For the submitted work and its acceptance the offer is not
passed: the service finds the executor itself. -/
inductive OrderTransitionCommand where
  | offerSubmitted (orderId offerId : Uuid) (offerStatusBefore : Option OfferStatus)
  | offerWithdrawn (orderId offerId : Uuid)
  | offerRejected (orderId offerId : Uuid)
  | offerAccepted (orderId offerId : Uuid) (seenOfferEditedAt : Option String)
  | workSubmitted (orderId : Uuid)
  | workConfirmed (orderId : Uuid) (completionComment : Option String)
  | workDisputed (orderId : Uuid) (correctionComment : String)

namespace OrderTransitionCommand

def orderId : OrderTransitionCommand → Uuid
  | offerSubmitted id .. | offerWithdrawn id _ | offerRejected id _ | offerAccepted id ..
  | workSubmitted id | workConfirmed id _ | workDisputed id _ => id

def offerId : OrderTransitionCommand → Option Uuid
  | offerSubmitted _ id _ | offerWithdrawn _ id | offerRejected _ id | offerAccepted _ id _ =>
      some id
  | workSubmitted _ | workConfirmed .. | workDisputed .. => none

end OrderTransitionCommand

structure OfferStatusUpdate where
  offerId : Uuid
  companyId : Uuid
  status : OfferStatus

structure AppliedTransition where
  offerId : Uuid
  companyId : Uuid
  fromStatus : OrderStatus
  nextStatus : OrderStatus
  offerUpdates : List OfferStatusUpdate

/-- The columns of the order a transition writes; a missing one stays as it is. -/
structure OrderUpdateInput where
  status : OrderStatus
  price : Option String
  deadline : Option Date
  correctionComment : Option String
  clientCompletionComment : Option (Option String)

/-- The effects of a transition, sorted by the table they are written to. -/
structure WriteSet where
  orderData : OrderUpdateInput
  offerUpdates : List OfferStatusUpdate
  notificationsToCreate : List NotificationDraft

namespace WriteSet

def addEffect (orderId : Uuid) (writes : WriteSet) : OrderSideEffect → WriteSet
  | .setOfferStatus offerId companyId status =>
      { writes with offerUpdates := writes.offerUpdates ++ [{ offerId, companyId, status }] }
  | .setOrderDeal price deadline =>
      { writes with
        orderData := { writes.orderData with price := some price, deadline := some deadline } }
  | .setCorrectionComment comment =>
      { writes with orderData := { writes.orderData with correctionComment := some comment } }
  | .setCompletionComment comment =>
      { writes with orderData := { writes.orderData with clientCompletionComment := some comment } }
  | .createNotification userId type title body collapseKey =>
      { writes with
        notificationsToCreate := writes.notificationsToCreate ++
          [{ userId, type, orderId := some orderId, title, body, collapseKey }] }

def ofEffects (orderId : Uuid) (nextStatus : OrderStatus) (effects : List OrderSideEffect) :
    WriteSet :=
  effects.foldl (addEffect orderId)
    { orderData :=
        { status := nextStatus, price := none, deadline := none, correctionComment := none,
          clientCompletionComment := none }
      offerUpdates := []
      notificationsToCreate := [] }

end WriteSet

/-- Add an offer to the group of its new status; the groups keep the order they appeared in. -/
def addToGroup (update : OfferStatusUpdate) :
    List (OfferStatus × List Uuid) → List (OfferStatus × List Uuid)
  | [] => [(update.status, [update.offerId])]
  | (status, ids) :: rest =>
      if status = update.status then (status, ids ++ [update.offerId]) :: rest
      else (status, ids) :: addToGroup update rest

def groupOfferIdsByStatus (updates : List OfferStatusUpdate) : List (OfferStatus × List Uuid) :=
  updates.foldl (fun grouped update => addToGroup update grouped) []

/-- The offer in a new status.  The client's rejection is counted as well. -/
def Offer.withStatus (now : Date) (status : OfferStatus) (offer : Offer) : Offer :=
  { offer with
    status
    rejectionCount := if status = .rejected then offer.rejectionCount + 1 else offer.rejectionCount
    updatedAt := now }

def updateOffers (now : Date) (status : OfferStatus) (ids : List Uuid) (offers : List Offer) :
    List Offer :=
  Rows.updateWhere (·.id ∈ ids) (Offer.withStatus now status) offers

/-- The order with the columns of `data` written; an amount that is no number is refused. -/
def Order.update (order : Order) (now : Date) (data : OrderUpdateInput) :
    Except ApiException Order := do
  let price ← match data.price with
    | none => pure order.price
    | some text =>
        match Decimal.ofText? text with
        | some price => pure (some price)
        | none => throw (.internal "Invalid Decimal")
  return { order with
    status := data.status
    price
    deadline := data.deadline <|> order.deadline
    correctionComment := data.correctionComment <|> order.correctionComment
    clientCompletionComment := data.clientCompletionComment.getD order.clientCompletionComment
    updatedAt := now }

namespace OrderTransitionService

/-- The offer of the command, or the executor of the order. -/
def resolveOffer (command : OrderTransitionCommand) : OrderTx Offer := do
  let tables ← get
  match command.offerId with
  | some offerId =>
      match tables.offers.find? (·.id == offerId) with
      | some offer => return offer
      | none => throw (.notFound "Предложение не найдено")
  | none =>
      match tables.offers.find? (isExecutorOffer ·.status) with
      | some offer => return offer
      | none => throw (.conflict "У заказа нет компании-исполнителя")

def otherSentOffers (tables : OrderTables) (offer : Offer) : List Offer :=
  tables.offers.filter fun other => other.status == .sent && other.id != offer.id

def buildEvent (environment : Environment) (command : OrderTransitionCommand) (offer : Offer)
    (tables : OrderTables) : OrderEvent :=
  let owner : OfferOwner := { offerId := offer.id, companyId := offer.companyId }
  match command with
  | .offerSubmitted _ _ offerStatusBefore =>
      .offerSubmitted owner offerStatusBefore offer.rejectionCount
        (((environment.users offer.companyId).companyName).getD "Компания")
  | .offerWithdrawn .. =>
      .offerWithdrawn owner offer.status (otherSentOffers tables offer).length
  | .offerRejected .. =>
      .offerRejected owner offer.status (otherSentOffers tables offer).length
  | .offerAccepted _ _ seenOfferEditedAt =>
      .offerAccepted owner offer.status offer.proposedPrice.toText offer.proposedDeadline
        (utcCalendarDate environment.now) (offer.editedAt.map Date.toISOString) seenOfferEditedAt
        ((otherSentOffers tables offer).map fun rival =>
          { offerId := rival.id, companyId := rival.companyId })
  | .workSubmitted _ => .workSubmitted owner offer.status
  | .workConfirmed _ completionComment => .workConfirmed owner offer.status completionComment
  | .workDisputed _ correctionComment => .workDisputed owner offer.status correctionComment

/-- Write the effects: the offers, the order, then the notifications. -/
def applyEffects (environment : Environment) (orderId : Uuid) (nextStatus : OrderStatus)
    (effects : List OrderSideEffect) : OrderTx (List OfferStatusUpdate) := do
  let writes := WriteSet.ofEffects orderId nextStatus effects
  let tables ← get
  let offers := (groupOfferIdsByStatus writes.offerUpdates).foldl
    (fun offers group => updateOffers environment.now group.1 group.2 offers) tables.offers
  let order ← liftM (tables.order.update environment.now writes.orderData)
  set { tables with order, offers }
  dropSupersededNotifications writes.notificationsToCreate
  createNotifications environment writes.notificationsToCreate
  return writes.offerUpdates

def contextOf (order : Order) : OrderStateContext :=
  { orderId := order.id
    orderNumber := order.orderNumber
    title := order.title
    clientId := order.clientId
    status := order.status }

def run (environment : Environment) (command : OrderTransitionCommand) :
    OrderTx AppliedTransition := do
  let order ← lockOrder command.orderId
  let offer ← resolveOffer command
  let tables ← get
  let result ← liftM (OrderStateMachine.transition (contextOf order)
    (buildEvent environment command offer tables))
  let offerUpdates ← applyEffects environment order.id result.nextStatus result.effects
  return {
    offerId := offer.id
    companyId := offer.companyId
    fromStatus := result.fromStatus
    nextStatus := result.nextStatus
    offerUpdates }

/-- The offer `resolveOffer` finds in these rows. -/
def resolved? (command : OrderTransitionCommand) (tables : OrderTables) : Option Offer :=
  match command.offerId with
  | some offerId => tables.offers.find? (·.id == offerId)
  | none => tables.offers.find? (isExecutorOffer ·.status)

theorem run_resolveOffer_eq_ok {command : OrderTransitionCommand} {tables next : OrderTables}
    {offer : Offer} :
    (resolveOffer command).run tables = .ok (offer, next) ↔
      resolved? command tables = some offer ∧ next = tables := by
  simp only [resolveOffer, resolved?]
  rw [Transaction.run_get_bind]
  split
  all_goals
    split
    case h_1 found =>
      rw [Transaction.run_pure_eq_ok, Prod.mk.injEq]
      simp only [found, Option.some.injEq, eq_comm]
    case h_2 missing => simp only [missing, Transaction.run_throw, reduceCtorEq, false_and]

theorem run_resolveOffer_error {command : OrderTransitionCommand} {tables : OrderTables}
    {error : ApiException} (thrown : (resolveOffer command).run tables = .error error) :
    error.isRefusal = true := by
  simp only [resolveOffer] at thrown
  rw [Transaction.run_get_bind] at thrown
  split at thrown <;> split at thrown
  all_goals cases thrown
  all_goals rfl

def writeOffers (now : Date) (updates : List OfferStatusUpdate) (offers : List Offer) :
    List Offer :=
  (groupOfferIdsByStatus updates).foldl
    (fun offers group => updateOffers now group.1 group.2 offers) offers

theorem run_applyEffects_ok {environment : Environment} {orderId : Uuid}
    {nextStatus : OrderStatus} {effects : List OrderSideEffect} {tables next : OrderTables}
    {updates : List OfferStatusUpdate}
    (returned : (applyEffects environment orderId nextStatus effects).run tables =
      .ok (updates, next)) :
    updates = (WriteSet.ofEffects orderId nextStatus effects).offerUpdates ∧
    ∃ order, tables.order.update environment.now
        (WriteSet.ofEffects orderId nextStatus effects).orderData = .ok order ∧
      ({ tables with
        order
        offers := writeOffers environment.now
          (WriteSet.ofEffects orderId nextStatus effects).offerUpdates tables.offers } :
        OrderTables).SameOrderRows next := by
  simp only [applyEffects] at returned
  simp only [Transaction.run_get_bind] at returned
  rcases Transaction.run_bind_eq_ok.mp returned with ⟨order, afterUpdate, updated, wrote⟩
  rcases Transaction.run_liftM_eq_ok.mp updated with ⟨updated, rfl⟩
  rcases Transaction.run_bind_eq_ok.mp wrote with ⟨_, afterSet, wasSet, notified⟩
  rw [Transaction.run_set] at wasSet
  rw [← bind_assoc] at notified
  rcases Transaction.run_bind_eq_ok.mp notified with ⟨_, afterNotify, ranNotify, ranPure⟩
  rw [Transaction.run_pure_eq_ok] at ranPure
  cases wasSet
  cases ranPure
  exact ⟨rfl, order, updated, sameOrderRows_of_notify ranNotify⟩

theorem run_applyEffects_of_update {environment : Environment} {orderId : Uuid}
    {nextStatus : OrderStatus} {effects : List OrderSideEffect} {tables : OrderTables}
    {order : Order}
    (updated : tables.order.update environment.now
      (WriteSet.ofEffects orderId nextStatus effects).orderData = .ok order) :
    ∃ outcome, (applyEffects environment orderId nextStatus effects).run tables = .ok outcome := by
  simp only [applyEffects]
  simp only [Transaction.run_get_bind]
  rw [Transaction.run_bind_of_ok (Transaction.run_liftM_eq_ok.mpr ⟨updated, rfl⟩)]
  exact ⟨_, rfl⟩

/-- What a transition that returned has found and decided. -/
theorem run_decided {environment : Environment} {command : OrderTransitionCommand}
    {tables next : OrderTables} {applied : AppliedTransition}
    (returned : (run environment command).run tables = .ok (applied, next)) :
    command.orderId = tables.order.id ∧
      ∃ offer result, resolved? command tables = some offer ∧
        OrderStateMachine.transition (contextOf tables.order)
          (buildEvent environment command offer tables) = .ok result ∧
        (applyEffects environment tables.order.id result.nextStatus result.effects).run tables =
          .ok (applied.offerUpdates, next) ∧
        applied.offerId = offer.id ∧ applied.companyId = offer.companyId ∧
        applied.fromStatus = result.fromStatus ∧ applied.nextStatus = result.nextStatus := by
  simp only [run] at returned
  rcases Transaction.run_bind_eq_ok.mp returned with ⟨order, _, ranLock, afterLock⟩
  rcases run_lockOrder_eq_ok.mp ranLock with ⟨sameId, rfl, rfl⟩
  rcases Transaction.run_bind_eq_ok.mp afterLock with ⟨offer, _, ranResolve, afterResolve⟩
  rcases run_resolveOffer_eq_ok.mp ranResolve with ⟨resolved, rfl⟩
  rw [Transaction.run_get_bind] at afterResolve
  rcases Transaction.run_bind_eq_ok.mp afterResolve with ⟨result, _, ranMachine, afterMachine⟩
  rcases Transaction.run_liftM_eq_ok.mp ranMachine with ⟨decision, rfl⟩
  rcases Transaction.run_bind_eq_ok.mp afterMachine with ⟨updates, written, ranEffects, ranPure⟩
  rw [Transaction.run_pure_eq_ok] at ranPure
  cases ranPure
  exact ⟨sameId, offer, result, resolved, decision, ranEffects, rfl, rfl, rfl, rfl⟩

/-- What a transition that returned has found, decided and written. -/
theorem run_ok {environment : Environment} {command : OrderTransitionCommand}
    {tables next : OrderTables} {applied : AppliedTransition}
    (returned : (run environment command).run tables = .ok (applied, next)) :
    command.orderId = tables.order.id ∧
      ∃ offer result order, resolved? command tables = some offer ∧
        OrderStateMachine.transition (contextOf tables.order)
          (buildEvent environment command offer tables) = .ok result ∧
        tables.order.update environment.now
          (WriteSet.ofEffects tables.order.id result.nextStatus result.effects).orderData =
            .ok order ∧
        applied.offerUpdates =
          (WriteSet.ofEffects tables.order.id result.nextStatus result.effects).offerUpdates ∧
        ({ tables with
          order
          offers := writeOffers environment.now applied.offerUpdates tables.offers } :
          OrderTables).SameOrderRows next := by
  rcases run_decided returned with ⟨sameId, offer, result, resolved, decision, ranEffects, -⟩
  rcases run_applyEffects_ok ranEffects with ⟨updates, order, updated, same⟩
  rw [← updates] at same
  exact ⟨sameId, offer, result, order, resolved, decision, updated, updates, same⟩

/-- A transition returns when the offer is there, the machine allows the event and the amount
it writes is a number. -/
theorem run_of_allowed {environment : Environment} {command : OrderTransitionCommand}
    {tables : OrderTables} {offer : Offer} {result : OrderTransitionResult} {order : Order}
    (sameId : command.orderId = tables.order.id)
    (resolved : resolved? command tables = some offer)
    (allowed : OrderStateMachine.transition (contextOf tables.order)
      (buildEvent environment command offer tables) = .ok result)
    (updated : tables.order.update environment.now
      (WriteSet.ofEffects tables.order.id result.nextStatus result.effects).orderData =
        .ok order) :
    ∃ outcome, (run environment command).run tables = .ok outcome := by
  rcases run_applyEffects_of_update updated with ⟨⟨updates, next⟩, wrote⟩
  simp only [run]
  rw [Transaction.run_bind_of_ok (run_lockOrder_eq_ok.mpr ⟨sameId, rfl, rfl⟩),
    Transaction.run_bind_of_ok (run_resolveOffer_eq_ok.mpr ⟨resolved, rfl⟩),
    Transaction.run_get_bind,
    Transaction.run_bind_of_ok (Transaction.run_liftM_eq_ok.mpr ⟨allowed, rfl⟩),
    Transaction.run_bind_of_ok wrote]
  exact ⟨_, rfl⟩

end OrderTransitionService

end MyBuild
