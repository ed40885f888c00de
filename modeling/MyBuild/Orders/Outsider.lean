import MyBuild.Orders.View

/-!
# What an outsider learns about an order

A user who neither owns an order nor has an offer in play on it sees the task, its own
offer and whether the order still accepts offers, and nothing else.  This is a statement
about two orders: where they agree on these, the answers are the same.
-/

namespace MyBuild

/-- The viewer does not own the order and has no offer in play on it. -/
structure OrderRow.IsOutsider (viewer : Uuid) (order : OrderRow) : Prop where
  notOwner : order.clientId ≠ viewer
  noActiveOffer : ∀ offer ∈ order.offers, offer.companyId = viewer →
    isActiveOffer offer.status = false

def OrderRow.ownOffer (viewer : Uuid) (order : OrderRow) : Option OfferRow :=
  order.offers.find? (·.companyId == viewer)

def OrderDetailRow.clientFiles (order : OrderDetailRow) : List OrderFileDto :=
  order.files.filter (·.ownerType == .client)

/-- The orders are the same in a list, to a viewer that sees the task only. -/
structure OrderRow.SameTask (viewer : Uuid) (first second : OrderRow) : Prop where
  id : first.id = second.id
  orderNumber : first.orderNumber = second.orderNumber
  title : first.title = second.title
  category : first.category = second.category
  objectType : first.objectType = second.objectType
  clientBudget : first.clientBudget = second.clientBudget
  createdAt : first.createdAt = second.createdAt
  ownOffer : first.ownOffer viewer = second.ownOffer viewer

/-- The orders have the same task, the same offer of the viewer and the same files of the client,
and both or neither accept offers. -/
structure OrderDetailRow.SameTask (viewer : Uuid) (first second : OrderDetailRow) : Prop
    extends OrderRow.SameTask viewer first.toOrderRow second.toOrderRow where
  description : first.description = second.description
  address : first.address = second.address
  squareMeters : first.squareMeters = second.squareMeters
  desiredStartDate : first.desiredStartDate = second.desiredStartDate
  clientFiles : first.clientFiles = second.clientFiles
  accepts : acceptsOffers first.status = acceptsOffers second.status

theorem canTransition_offerSubmitted (status : OrderStatus) (offerStatus : Option OfferStatus) :
    canTransition status .offerSubmitted offerStatus =
      (acceptsOffers status &&
        offerStatus.all fun offerStatus =>
          (offerPreconditions .offerSubmitted).contains offerStatus) := by
  cases offerStatus <;> cases status <;> rfl

namespace OrderRow.IsOutsider

variable {viewer : Uuid} {order : OrderRow}

/-- The flags of an outsider: none of them is set. -/
theorem resolveVisibility_eq (outsider : order.IsOutsider viewer) :
    resolveVisibility order viewer =
      { isOwner := false
        ownOffer := order.ownOffer viewer
        executorOffer := order.offers.find? (isExecutorOffer ·.status)
        seesProgress := false
        isParty := false } := by
  have notOwner : (order.clientId == viewer) = false := by simpa using outsider.notOwner
  have noneActive : (order.ownOffer viewer).any (isActiveOffer ·.status) = false := by
    cases own : order.ownOffer viewer with
    | none => rfl
    | some offer =>
        exact outsider.noActiveOffer offer (List.mem_of_find?_eq_some own)
          (by simpa using List.find?_some own)
  have noneExecutes : (order.ownOffer viewer).any (isExecutorOffer ·.status) = false := by
    cases own : order.ownOffer viewer with
    | none => rfl
    | some offer =>
        rw [own] at noneActive
        exact isExecutorOffer_of_inactive noneActive
  have own : order.offers.find? (·.companyId == viewer) = order.ownOffer viewer := rfl
  simp only [resolveVisibility, own, notOwner, noneActive, noneExecutes, Bool.or_false]

theorem toOrderListItem_eq (outsider : order.IsOutsider viewer) :
    toOrderListItem order viewer =
      { id := order.id
        orderNumber := order.orderNumber
        title := order.title
        status := .waiting
        category := order.category
        objectType := order.objectType
        clientBudget := toMoney order.clientBudget
        price := none
        deadline := none
        contractorName := none
        createdAt := order.createdAt.toISOString } := by
  simp only [toOrderListItem]
  rw [outsider.resolveVisibility_eq]
  rfl

end OrderRow.IsOutsider

theorem visibleFiles_outsider {viewer : Uuid} {order : OrderDetailRow}
    (outsider : order.IsOutsider viewer) :
    visibleFiles order (resolveVisibility order.toOrderRow viewer) =
      if acceptsOffers order.status then order.clientFiles else [] := by
  rw [outsider.resolveVisibility_eq]
  have sees : companySeesTaskFiles order.status
      ((order.ownOffer viewer).map fun offer => offer.status) = acceptsOffers order.status := by
    cases own : order.ownOffer viewer with
    | none => rfl
    | some offer =>
        have inactive := outsider.noActiveOffer offer (List.mem_of_find?_eq_some own)
          (by simpa using List.find?_some own)
        simp [companySeesTaskFiles, isExecutorOffer_of_inactive inactive]
  simp only [visibleFiles, Bool.false_eq_true, if_false, sees]
  cases acceptsOffers order.status <;> rfl

/-- A user who neither owns an order nor has an offer in play on it gets the same answers for two
orders that agree on the task, on the user's offer, on the files of the client and on whether they
accept offers. -/
theorem outsider_sees_only_task {viewer : Uuid} {first second : OrderDetailRow}
    (firstOutsider : first.IsOutsider viewer) (secondOutsider : second.IsOutsider viewer)
    (same : first.SameTask viewer second) :
    toOrderDetail first viewer = toOrderDetail second viewer ∧
      toOrderListItem first.toOrderRow viewer = toOrderListItem second.toOrderRow viewer := by
  have items : toOrderListItem first.toOrderRow viewer =
      toOrderListItem second.toOrderRow viewer := by
    rw [firstOutsider.toOrderListItem_eq, secondOutsider.toOrderListItem_eq, same.id,
      same.orderNumber, same.title, same.category, same.objectType, same.clientBudget,
      same.createdAt]
  refine ⟨?_, items⟩
  have files : visibleFiles first (resolveVisibility first.toOrderRow viewer) =
      visibleFiles second (resolveVisibility second.toOrderRow viewer) := by
    rw [visibleFiles_outsider firstOutsider, visibleFiles_outsider secondOutsider, same.accepts,
      same.clientFiles]
  have offers : visibleOffers first.toOrderRow (resolveVisibility first.toOrderRow viewer) =
      visibleOffers second.toOrderRow (resolveVisibility second.toOrderRow viewer) := by
    rw [firstOutsider.resolveVisibility_eq, secondOutsider.resolveVisibility_eq]
    simp [visibleOffers, same.ownOffer]
  simp only [toOrderDetail]
  simp only [items, files, offers]
  rw [firstOutsider.resolveVisibility_eq, secondOutsider.resolveVisibility_eq]
  simp [same.ownOffer, same.description, same.address, same.squareMeters, same.desiredStartDate,
    same.createdAt, canTransition_offerSubmitted, same.accepts]

/-- An order in work, on which company 2 executes and company 3 was not chosen. -/
def outsiderExample : OrderDetailRow :=
  let moment := Date.epoch
  let offer (id companyId : Uuid) (status : OfferStatus) : OfferRow :=
    { id, orderId := ⟨1⟩, companyId, status, comment := none, proposedPrice := ⟨100⟩
      proposedDeadline := moment, createdAt := moment, editedAt := none, updatedAt := moment
      rejectionCount := 0, companyName := some "Строитель" }
  { id := ⟨1⟩, orderNumber := 1, clientId := ⟨9⟩, title := "Ремонт", status := .inProgress
    category := .planImplementation, objectType := .house, clientBudget := none
    price := some ⟨100⟩, deadline := some moment, createdAt := moment
    offers := [offer ⟨11⟩ ⟨2⟩ .accepted, offer ⟨12⟩ ⟨3⟩ .notAccepted]
    description := "", address := "", squareMeters := ⟨100⟩, verifiedSquareMeters := none
    desiredStartDate := none, clientCompletionComment := none, correctionComment := none
    updatedAt := moment
    client :=
      { id := ⟨9⟩, firstName := "Анна", lastName := none, city := none, country := none
        email := "", phone := "" }
    files := [], submissions := [] }

theorem outsider_sees_only_task_completed :
    let completed := { outsiderExample with
      status := .completed
      verifiedSquareMeters := some ⟨90⟩
      clientCompletionComment := some "Спасибо"
      updatedAt := ⟨1, by decide⟩
      offers := outsiderExample.offers.drop 1 }
    toOrderDetail outsiderExample ⟨3⟩ = toOrderDetail completed ⟨3⟩ ∧
      toOrderListItem outsiderExample.toOrderRow ⟨3⟩ =
        toOrderListItem completed.toOrderRow ⟨3⟩ :=
  outsider_sees_only_task ⟨by decide, by decide⟩ ⟨by decide, by decide⟩
    ⟨⟨rfl, rfl, rfl, rfl, rfl, rfl, rfl, rfl⟩, rfl, rfl, rfl, rfl, rfl, rfl⟩

end MyBuild
