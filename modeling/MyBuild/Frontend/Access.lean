import MyBuild.Frontend.Actions
import MyBuild.Orders.Coupling
import MyBuild.Orders.Detail

/-!
# Who looks at the order, on both sides

The server knows how a user is related to an order and masks its answer accordingly.  The
page knows only the masked answer, and works the relation out again from what was left in
it: the client is there for the parties of the deal alone, and of the offers a company is
shown its own.
-/

namespace MyBuild

variable {order : OrderDetailRow} {viewer : Uuid}

/-- The page takes for the owner whoever the server does. -/
theorem isOwner_toOrderDetail (named : order.client.id = order.clientId) :
    (resolveOrderDetailAccess (toOrderDetail order viewer) (some viewer)).isOwner =
      (resolveVisibility order.toOrderRow viewer).isOwner := by
  have shown : (toOrderDetail order viewer).client =
      if (resolveVisibility order.toOrderRow viewer).isParty then some order.client else none := rfl
  simp only [resolveOrderDetailAccess, shown, Option.isSome_some, Bool.true_and]
  by_cases isOwner : order.clientId = viewer
  · simp [resolveVisibility, isOwner, named]
  · cases (resolveVisibility order.toOrderRow viewer).isParty <;>
      simp [resolveVisibility, isOwner, named]

/-- Whoever is not the owner finds its own offer in the answer, if it has one. -/
theorem ownOffer_toOrderDetail
    (notOwner : (resolveVisibility order.toOrderRow viewer).isOwner = false) :
    (toOrderDetail order viewer).offers.find? (some ·.companyId == some viewer) =
      (resolveVisibility order.toOrderRow viewer).ownOffer.map toOfferDto := by
  simp only [toOrderDetail, visibleOffers, notOwner, Bool.false_eq_true, if_false]
  cases own : (resolveVisibility order.toOrderRow viewer).ownOffer with
  | none => rfl
  | some offer =>
      have isViewer : offer.companyId = viewer := by
        simpa using List.find?_some own
      simp [toOfferDto, isViewer]

/-- A rule about the status of the own offer comes out alike, or the owner needs none. -/
theorem owner_or_ownOffer (rule : OfferStatus → Bool) :
    ((resolveVisibility order.toOrderRow viewer).isOwner ||
        ((toOrderDetail order viewer).offers.find? (some ·.companyId == some viewer)).any
          (rule ·.status)) =
      ((resolveVisibility order.toOrderRow viewer).isOwner ||
        (resolveVisibility order.toOrderRow viewer).ownOffer.any (rule ·.status)) := by
  cases isOwner : (resolveVisibility order.toOrderRow viewer).isOwner with
  | true => rfl
  | false =>
      rw [ownOffer_toOrderDetail isOwner, Option.any_map]
      rfl

/-- From the masked answer the page comes to the flags the server has computed from the
rows. -/
theorem access_eq_visibility (order : OrderDetailRow) (viewer : Uuid)
    (named : order.client.id = order.clientId) :
    let access := resolveOrderDetailAccess (toOrderDetail order viewer) (some viewer)
    let view := resolveVisibility order.toOrderRow viewer
    access.isOwner = view.isOwner ∧ access.isParty = view.isParty ∧
      access.seesRealStatus = view.seesProgress := by
  intro access view
  have isOwner : access.isOwner = view.isOwner := isOwner_toOrderDetail named
  have isParty : access.isParty = (access.isOwner ||
      ((toOrderDetail order viewer).offers.find? (some ·.companyId == some viewer)).any
        (isExecutorOffer ·.status)) := rfl
  have seesRealStatus : access.seesRealStatus = (access.isOwner ||
      ((toOrderDetail order viewer).offers.find? (some ·.companyId == some viewer)).any
        (isActiveOffer ·.status)) := rfl
  refine ⟨isOwner, ?_, ?_⟩
  · rw [isParty, isOwner]
    exact owner_or_ownOffer isExecutorOffer
  · rw [seesRealStatus, isOwner]
    exact owner_or_ownOffer isActiveOffer

/-- A company whose offer waits for the answer. -/
theorem access_eq_visibility_offered :
    let order := OrdersService.detailRow (exampleEnvironment ⟨11⟩).users
      (reached ⟨1⟩ 7 Date.epoch ⟨2⟩ exampleOrder [exampleSubmission ⟨3⟩ ⟨11⟩ 100]).tables
    let access := resolveOrderDetailAccess (toOrderDetail order ⟨3⟩) (some ⟨3⟩)
    let view := resolveVisibility order.toOrderRow ⟨3⟩
    access.isOwner = view.isOwner ∧ access.isParty = view.isParty ∧
      access.seesRealStatus = view.seesProgress :=
  access_eq_visibility _ ⟨3⟩ rfl

end MyBuild
