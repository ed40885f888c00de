import MyBuild.Orders.Transitions

/-!
# Offers of the companies

Submitting an offer is an upsert: a company has one offer on an order, and sending it
again writes the terms over the old ones.  The row is written before the transition is
checked, in the same transaction, so a refused event takes the new terms with it.
-/

namespace MyBuild

structure CreateOfferDto where
  orderId : Uuid
  proposedPrice : Decimal
  proposedDeadline : Date
  comment : Option String

/-- The offer with the terms of a new submission written over the old ones. -/
def Offer.edit (editedAt now : Date) (dto : CreateOfferDto) (offer : Offer) : Offer :=
  { offer with
    status := .sent
    proposedPrice := dto.proposedPrice
    proposedDeadline := dto.proposedDeadline
    comment := dto.comment
    editedAt := some editedAt
    updatedAt := now }

def editOffers (editedAt now : Date) (companyId : Uuid) (dto : CreateOfferDto)
    (offers : List Offer) : List Offer :=
  Rows.updateWhere (·.companyId = companyId) (Offer.edit editedAt now dto) offers

def Offer.create (environment : Environment) (orderId companyId : Uuid) (dto : CreateOfferDto) :
    Offer :=
  { id := environment.offerId
    orderId
    companyId
    status := .sent
    comment := dto.comment
    proposedPrice := dto.proposedPrice
    proposedDeadline := dto.proposedDeadline
    createdAt := environment.now
    editedAt := none
    updatedAt := environment.now
    rejectionCount := 0 }

@[simp]
theorem Offer.edit_id (editedAt now : Date) (dto : CreateOfferDto) (offer : Offer) :
    (offer.edit editedAt now dto).id = offer.id := rfl

@[simp]
theorem Offer.edit_companyId (editedAt now : Date) (dto : CreateOfferDto) (offer : Offer) :
    (offer.edit editedAt now dto).companyId = offer.companyId := rfl

@[simp]
theorem Offer.edit_status (editedAt now : Date) (dto : CreateOfferDto) (offer : Offer) :
    (offer.edit editedAt now dto).status = .sent := rfl

@[simp]
theorem Offer.create_id (environment : Environment) (orderId companyId : Uuid)
    (dto : CreateOfferDto) :
    (Offer.create environment orderId companyId dto).id = environment.offerId := rfl

@[simp]
theorem Offer.create_companyId (environment : Environment) (orderId companyId : Uuid)
    (dto : CreateOfferDto) :
    (Offer.create environment orderId companyId dto).companyId = companyId := rfl

@[simp]
theorem Offer.create_status (environment : Environment) (orderId companyId : Uuid)
    (dto : CreateOfferDto) :
    (Offer.create environment orderId companyId dto).status = .sent := rfl

namespace OffersService

def offerNotFound : String := "Предложение не найдено"

/-- Write the offer of the company on the order: over the existing row, or as a new one. -/
def upsertOffer (environment : Environment) (editedAt : Date) (orderId companyId : Uuid)
    (dto : CreateOfferDto) : OrderTx Offer := do
  let tables ← get
  match tables.offers.find? (·.companyId == companyId) with
  | some existing =>
      set { tables with
        offers := editOffers editedAt environment.now companyId dto tables.offers }
      return existing.edit editedAt environment.now dto
  | none =>
      if tables.offers.any (·.id == environment.offerId) then
        throw (.internal "Unique constraint failed on the fields: (`id`)")
      else
        set { tables with
          offers := tables.offers ++ [Offer.create environment orderId companyId dto] }
        return Offer.create environment orderId companyId dto

/-- Send or update an offer.  `editedAt` is the reading of the clock taken before the request
waits for the order. -/
def submit (environment : Environment) (editedAt : Date) (companyId : Uuid)
    (dto : CreateOfferDto) : OrderTx Offer := do
  let order ← lockOrder dto.orderId
  let tables ← get
  let existing := tables.offers.find? (·.companyId == companyId)
  let created ← upsertOffer environment editedAt order.id companyId dto
  let _ ← OrderTransitionService.run environment
    (.offerSubmitted order.id created.id (existing.map Offer.status))
  return created

/-- The order takes a submission of the company: it accepts offers, and what the company has sent
before may be sent again. -/
def takesSubmission (tables : OrderTables) (companyId : Uuid) : Bool :=
  let existing := tables.offers.find? (·.companyId == companyId)
  canTransition tables.order.status .offerSubmitted (existing.map Offer.status) &&
    !existing.any fun offer => isFinallyRejected (some offer.status) offer.rejectionCount

inductive OfferActor where
  | company (companyId : Uuid)
  | client (clientId : Uuid)

/-- The actor has to do with the offer: a company with its own, a client with any on its order. -/
def OfferActor.related (tables : OrderTables) (offer : Offer) : OfferActor → Bool
  | .company companyId => offer.companyId == companyId
  | .client clientId => tables.order.clientId == clientId

def findOffer (offerId : Uuid) (actor : OfferActor) : OrderTx Offer := do
  let tables ← get
  match tables.offers.find? fun offer => offer.id == offerId && actor.related tables offer with
  | some offer => return offer
  | none => throw (.notFound offerNotFound)

/-- Withdrawal and rejection: find the offer, carry out the transition, read the row again. -/
def leaveSelection (environment : Environment) (offerId : Uuid) (actor : OfferActor)
    (event : Uuid → Uuid → OrderTransitionCommand) : OrderTx Offer := do
  let offer ← findOffer offerId actor
  let _ ← OrderTransitionService.run environment (event offer.orderId offerId)
  let tables ← get
  match tables.offers.find? (·.id == offerId) with
  | some updated => return updated
  | none => throw (.notFound offerNotFound)

def withdraw (environment : Environment) (companyId offerId : Uuid) : OrderTx Offer :=
  leaveSelection environment offerId (.company companyId) .offerWithdrawn

def reject (environment : Environment) (clientId offerId : Uuid) : OrderTx Offer :=
  leaveSelection environment offerId (.client clientId) .offerRejected

variable {environment : Environment} {editedAt : Date} {orderId companyId : Uuid}
  {dto : CreateOfferDto} {tables next : OrderTables}

theorem run_upsertOffer_eq_ok {created : Offer} :
    (upsertOffer environment editedAt orderId companyId dto).run tables = .ok (created, next) ↔
      (∃ existing, tables.offers.find? (·.companyId == companyId) = some existing ∧
        created = existing.edit editedAt environment.now dto ∧
        next = { tables with
          offers := editOffers editedAt environment.now companyId dto tables.offers }) ∨
      (tables.offers.find? (·.companyId == companyId) = none ∧
        tables.offers.any (·.id == environment.offerId) = false ∧
        created = Offer.create environment orderId companyId dto ∧
        next = { tables with
          offers := tables.offers ++ [Offer.create environment orderId companyId dto] }) := by
  simp only [upsertOffer]
  rw [Transaction.run_get_bind]
  cases tables.offers.find? (·.companyId == companyId) with
  | some existing =>
      rw [Transaction.run_bind_of_ok (Transaction.run_set _ _), Transaction.run_pure_eq_ok]
      simp
  | none =>
      by_cases taken : tables.offers.any (·.id == environment.offerId)
      · rw [if_pos taken, Transaction.run_throw]
        simp [taken]
      · rw [if_neg taken, Transaction.run_bind_of_ok (Transaction.run_set _ _),
          Transaction.run_pure_eq_ok]
        simp [taken]

theorem findOffer_eq_ok_iff {offerId : Uuid} {actor : OfferActor} {offer : Offer} :
    (findOffer offerId actor).run tables = .ok (offer, next) ↔
      tables.offers.find? (fun offer => offer.id == offerId && actor.related tables offer) =
        some offer ∧ next = tables := by
  simp only [findOffer]
  rw [Transaction.run_get_bind]
  split
  case h_1 found =>
    rw [Transaction.run_pure_eq_ok]
    grind
  case h_2 missing => simp only [missing, Transaction.run_throw, reduceCtorEq, false_and]

end OffersService

end MyBuild
