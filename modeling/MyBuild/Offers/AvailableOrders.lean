import MyBuild.Orders.Outsider
import MyBuild.Orders.Refusals

/-!
# The feed of a company

Which orders a company finds in the list of those it may offer on.  The rule is written
three times: as a condition of a query, as a flag of the card, and as the refusals of the
state machine.  The three agree on every reachable order.
-/

namespace MyBuild

/-- The company has not offered yet, or what it has sent may be sent again. -/
def availability (companyId : Uuid) (offers : List Offer) : Bool :=
  !offers.any (·.companyId == companyId) ||
    offers.any (fun offer => offer.companyId == companyId && offer.status == .withdrawn) ||
    offers.any fun offer =>
      offer.companyId == companyId && offer.status == .rejected &&
        offer.rejectionCount < maxOfferRejections

/-- The condition of the feed; `search` is what the text of the query asks of the order. -/
def buildAvailableOrdersWhere (companyId : Uuid) (search : Option (Order → Bool))
    (tables : OrderTables) : Bool :=
  acceptsOffers tables.order.status && availability companyId tables.offers &&
    search.all (· tables.order)

section

variable {tables : OrderTables} {companyId : Uuid}

/-- Of the offers on an order one at most is the company's, so that every question about them is
one about this offer. -/
theorem any_own_eq (companies : (tables.offers.map Offer.companyId).Nodup)
    (asked : Offer → Bool) :
    tables.offers.any (fun offer => offer.companyId == companyId && asked offer) =
      (tables.offers.find? (·.companyId == companyId)).any asked := by
  rw [Bool.eq_iff_iff, Rows.any_find?_iff]
  · simp [List.any_eq_true]
  · intro first firstMem second secondMem firstOwn secondOwn
    simp only [beq_iff_eq] at firstOwn secondOwn
    rw [Rows.eq_of_key companies firstMem secondMem (firstOwn.trans secondOwn.symm)]

theorem availability_eq (companies : (tables.offers.map Offer.companyId).Nodup) :
    availability companyId tables.offers =
      (tables.offers.find? (·.companyId == companyId)).all fun offer =>
        offer.status == .withdrawn ||
          offer.status == .rejected && decide (offer.rejectionCount < maxOfferRejections) := by
  have present := @any_own_eq tables companyId companies fun _ => true
  have withdrawn := @any_own_eq tables companyId companies fun offer => offer.status == .withdrawn
  have rejected := @any_own_eq tables companyId companies fun offer =>
    offer.status == .rejected && decide (offer.rejectionCount < maxOfferRejections)
  simp only [Bool.and_true] at present
  simp only [← Bool.and_assoc] at rejected
  simp only [availability, present, withdrawn, rejected]
  cases tables.offers.find? (·.companyId == companyId) with
  | none => rfl
  | some offer => simp

/-- In the feed are the orders that take a submission of the company, those apart on which its
offer waits for the client. -/
theorem buildAvailableOrdersWhere_iff (companies : (tables.offers.map Offer.companyId).Nodup) :
    buildAvailableOrdersWhere companyId none tables = true ↔
      OffersService.takesSubmission tables companyId = true ∧
        ∀ offer ∈ tables.offers, offer.companyId = companyId → offer.status ≠ .sent := by
  simp only [buildAvailableOrdersWhere, availability_eq companies, OffersService.takesSubmission,
    canTransition_offerSubmitted, Option.all_none, Bool.and_true, Bool.and_eq_true]
  cases own : tables.offers.find? (·.companyId == companyId) with
  | none =>
      have absent : ∀ offer ∈ tables.offers, offer.companyId ≠ companyId := by
        simpa using own
      simp only [Option.all_none, Option.map_none, Option.any_none, and_true, Bool.not_false]
      refine ⟨fun accepts => ⟨accepts, ?_⟩, fun listed => listed.1⟩
      intro offer mem isOwn
      exact absurd isOwn (absent offer mem)
  | some offer =>
      have mem := List.mem_of_find?_eq_some own
      have isOwn : offer.companyId = companyId := by simpa using List.find?_some own
      have sole : (∀ other ∈ tables.offers, other.companyId = companyId → other.status ≠ .sent) ↔
          offer.status ≠ .sent := by
        constructor
        · intro noneSent
          exact noneSent offer mem isOwn
        · intro notSent other otherMem otherOwn
          rw [Rows.eq_of_key companies otherMem mem (otherOwn.trans isOwn.symm)]
          exact notSent
      rw [sole]
      simp only [Option.all_some, Option.map_some, Option.any_some]
      cases status : offer.status <;>
        simp [offerPreconditions, resubmittableOfferStatuses, isFinallyRejected]

end

section

variable {environment : Environment} {editedAt : Date} {companyId : Uuid} {dto : CreateOfferDto}
  {tables : OrderTables}

/-- With a fresh identifier for a new row, a submission only ever fails by being refused. -/
theorem OffersService.submit_error_isRefusal {error : ApiException}
    (freshId : tables.offers.find? (·.companyId == companyId) = none →
      ∀ offer ∈ tables.offers, offer.id ≠ environment.offerId)
    (thrown : (submit environment editedAt companyId dto).run tables = .error error) :
    error.isRefusal = true := by
  simp only [submit] at thrown
  rcases Transaction.run_bind_eq_error.mp thrown with lockFailed | ⟨_, tables, locked, afterLock⟩
  · exact run_lockOrder_error lockFailed
  rcases run_lockOrder_eq_ok.mp locked with ⟨_, _, rfl⟩
  rw [Transaction.run_get_bind] at afterLock
  rcases Transaction.run_bind_eq_error.mp afterLock with upsertFailed | ⟨_, _, _, afterUpsert⟩
  · simp only [upsertOffer, Transaction.run_get_bind] at upsertFailed
    split at upsertFailed
    case h_1 => cases upsertFailed
    case h_2 existing =>
      have unused : tables.offers.any (·.id == environment.offerId) = false := by
        simpa using freshId existing
      simp only [unused, Bool.false_eq_true, if_false] at upsertFailed
      cases upsertFailed
  · rcases Transaction.run_bind_eq_error.mp afterUpsert with refused | ⟨_, _, _, finished⟩
    · exact OrderTransitionService.run_error_isRefusal refused
    · cases finished

theorem OffersService.submit_succeeds_iff (keyed : tables.WellKeyed)
    (found : tables.order.id = dto.orderId)
    (freshId : tables.offers.find? (·.companyId == companyId) = none →
      ∀ offer ∈ tables.offers, offer.id ≠ environment.offerId) :
    Transaction.succeeds (submit environment editedAt companyId dto) tables = true ↔
      takesSubmission tables companyId = true := by
  rw [← submit_answers_iff keyed found freshId]
  exact succeeds_iff_answers fun _ => submit_error_isRefusal freshId

end

/-- Whether a company may offer is asked of the rows, not of the card. -/
theorem OrdersService.card_canSubmitOffer {users : Uuid → User} {tables : OrderTables}
    {viewer : Uuid} (notOwner : tables.order.clientId ≠ viewer)
    (companies : (tables.offers.map Offer.companyId).Nodup) :
    (card users tables viewer).canSubmitOffer =
      OffersService.takesSubmission tables viewer := by
  rcases @visibility_eq users tables viewer companies with ⟨isOwner, ownOffer, _, _⟩
  have other : (tables.order.clientId == viewer) = false := by simpa using notOwner
  simp only [card, toOrderDetail, OffersService.takesSubmission, isOwner, ownOffer, other]
  cases tables.offers.find? (·.companyId == viewer) <;> rfl

/-- Whatever requests an order has been through: the card of a company says that it may offer
exactly when its submission would be committed, and the order is in its feed exactly when the card
says so and no offer of the company waits for the client. -/
theorem feed_and_submission_agree (id : Uuid) (orderNumber : ℕ) (now : Date) (clientId : Uuid)
    (order : CreateOrderDto) (requests : List Request) (users : Uuid → User) (companyId : Uuid) :
    let tables := (reached id orderNumber now clientId order requests).tables
    let canSubmitOffer := (OrdersService.card users tables companyId).canSubmitOffer
    tables.order.clientId ≠ companyId →
      (∀ (environment : Environment) (editedAt : Date) (dto : CreateOfferDto),
        dto.orderId = tables.order.id →
          (∀ offer ∈ tables.offers, offer.id ≠ environment.offerId) →
            (canSubmitOffer = true ↔
              Transaction.succeeds (OffersService.submit environment editedAt companyId dto)
                tables = true)) ∧
        (buildAvailableOrdersWhere companyId none tables = true ↔
          canSubmitOffer = true ∧
            ¬∃ offer ∈ tables.offers, offer.companyId = companyId ∧ offer.status = .sent) := by
  intro tables canSubmitOffer notOwner
  have keyed : tables.WellKeyed :=
    (reached_coupled id orderNumber now clientId order requests).1.keyed
  have flag : canSubmitOffer = OffersService.takesSubmission tables companyId :=
    OrdersService.card_canSubmitOffer notOwner keyed.companies
  rw [flag]
  constructor
  · intro environment editedAt dto found freshId
    exact (OffersService.submit_succeeds_iff keyed found.symm fun _ => freshId).symm
  · rw [buildAvailableOrdersWhere_iff keyed.companies]
    simp only [not_exists, not_and, ne_eq]

/-- A company without an offer finds the order in its feed and may offer on it. -/
theorem feed_and_submission_agree_newcomer :
    let tables :=
      (reached ⟨1⟩ 7 Date.epoch ⟨2⟩ exampleOrder [exampleSubmission ⟨3⟩ ⟨11⟩ 100]).tables
    let environment := exampleEnvironment ⟨12⟩
    let canSubmitOffer := (OrdersService.card environment.users tables ⟨4⟩).canSubmitOffer
    (canSubmitOffer = true ↔
      Transaction.succeeds (OffersService.submit environment exampleMoment ⟨4⟩
        { orderId := ⟨1⟩, proposedPrice := ⟨200⟩, proposedDeadline := Date.epoch
          comment := none }) tables = true) ∧
      (buildAvailableOrdersWhere ⟨4⟩ none tables = true ↔
        canSubmitOffer = true ∧
          ¬∃ offer ∈ tables.offers, offer.companyId = ⟨4⟩ ∧ offer.status = .sent) := by
  have agree := feed_and_submission_agree ⟨1⟩ 7 Date.epoch ⟨2⟩ exampleOrder
    [exampleSubmission ⟨3⟩ ⟨11⟩ 100] (exampleEnvironment ⟨12⟩).users ⟨4⟩ (by decide)
  exact ⟨agree.1 (exampleEnvironment ⟨12⟩) exampleMoment _ (by decide) (by decide), agree.2⟩

end MyBuild
