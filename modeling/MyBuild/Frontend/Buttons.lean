import MyBuild.Frontend.Access
import MyBuild.Offers.AvailableOrders

/-!
# The buttons match the server

The interface decides by the card it was sent, the server by the rows.  On a reachable
order they agree: what is masked in the card is never what a button of that viewer
depends on, the executor on the card is the one the server finds, and the last round
drawn from submissions and files is the one the server takes for open.
-/

namespace MyBuild

namespace OrdersService

variable {users : Uuid → User} {tables : OrderTables} {viewer : Uuid} {today : String}

theorem card_isOwner :
    (resolveOrderDetailAccess (card users tables viewer) (some viewer)).isOwner =
      (tables.order.clientId == viewer) :=
  isOwner_toOrderDetail rfl

section

variable (isOwner : tables.order.clientId = viewer)

include isOwner

theorem card_status_of_owner : (card users tables viewer).status = tables.order.status := by
  simp [card, toOrderDetail, toOrderListItem, resolveVisibility, detailRow, isOwner]

theorem mem_card_offers_of_owner {response : OfferDto} :
    response ∈ (card users tables viewer).offers ↔
      ∃ offer ∈ tables.offers, isActiveOffer offer.status = true ∧
        response = toOfferDto (offer.toRow users) := by
  simp only [card, toOrderDetail, visibleOffers, resolveVisibility]
  simp only [detailRow, isOwner, beq_self_eq_true, if_true, List.mem_map, List.mem_filter,
    List.mem_insertionSort]
  constructor
  · rintro ⟨_, ⟨⟨offer, mem, rfl⟩, active⟩, rfl⟩
    exact ⟨offer, mem, active, rfl⟩
  · rintro ⟨offer, mem, active, rfl⟩
    exact ⟨_, ⟨⟨offer, mem, rfl⟩, active⟩, rfl⟩

theorem mem_decisions {decision : OfferDecision} :
    decision ∈ (resolveClientActions (card users tables viewer)
        (resolveOrderDetailAccess (card users tables viewer) (some viewer)) today).decisions ↔
      ∃ offer ∈ tables.offers, offer.status = .sent ∧
        decision = offerDecision (card users tables viewer) today
          (toOfferDto (offer.toRow users)) := by
  simp only [resolveClientActions, card_isOwner, isOwner, beq_self_eq_true, Bool.not_true,
    Bool.false_eq_true, if_false, List.mem_map, List.mem_filter, mem_card_offers_of_owner isOwner]
  constructor
  · rintro ⟨_, ⟨⟨offer, mem, _, rfl⟩, pending⟩, rfl⟩
    exact ⟨offer, mem, by simpa [isPendingOffer, toOfferDto, Offer.toRow] using pending, rfl⟩
  · rintro ⟨offer, mem, isSent, rfl⟩
    have active := (isActiveOffer_iff offer.status).mpr (Or.inl isSent)
    have pending : isPendingOffer offer.status = true := by simp [isPendingOffer, isSent]
    exact ⟨_, ⟨⟨offer, mem, active, rfl⟩, pending⟩, rfl⟩

/-- What the page asks of the executor's offer is true of the executor's row. -/
theorem any_executorOffer_iff (coupled : tables.Coupled) (event : OrderEventType) :
    ((card users tables viewer).offers.find? (isExecutorOffer ·.status)).any (fun offer =>
        canTransition (card users tables viewer).status event (some offer.status)) = true ↔
      ∃ offer ∈ tables.offers, isExecutorOffer offer.status = true ∧
        canTransition tables.order.status event (some offer.status) = true := by
  rw [Rows.any_find?_iff]
  · simp only [card_status_of_owner isOwner, mem_card_offers_of_owner isOwner]
    constructor
    · rintro ⟨_, ⟨offer, mem, _, rfl⟩, executes, allowed⟩
      exact ⟨offer, mem, executes, allowed⟩
    · rintro ⟨offer, mem, executes, allowed⟩
      have active := (isActiveOffer_iff offer.status).mpr (Or.inr executes)
      exact ⟨_, ⟨offer, mem, active, rfl⟩, executes, allowed⟩
  · simp only [mem_card_offers_of_owner isOwner]
    rintro _ ⟨first, firstMem, _, rfl⟩ _ ⟨second, secondMem, _, rfl⟩ firstExecutes secondExecutes
    have same : first.status = second.status :=
      coupled.executor_status firstMem firstExecutes secondMem secondExecutes
    simp only [toOfferDto, Offer.toRow, same]

end

section

variable (notOwner : tables.order.clientId ≠ viewer)

include notOwner

theorem card_ownOffer (keyed : tables.WellKeyed) :
    (card users tables viewer).offers.find? (some ·.companyId == some viewer) =
      (tables.offers.find? (·.companyId == viewer)).map fun offer =>
        toOfferDto (offer.toRow users) := by
  rcases @visibility_eq users tables viewer keyed.companies with ⟨isOwner, ownOffer, _, _⟩
  have shown := ownOffer_toOrderDetail (isOwner.trans (by simpa using notOwner))
  rw [ownOffer, Option.map_map] at shown
  exact shown

end

section

variable {own : Offer}

theorem card_of_executor (keyed : tables.WellKeyed)
    (found : tables.offers.find? (·.companyId == viewer) = some own)
    (executes : isExecutorOffer own.status = true) :
    (card users tables viewer).status = tables.order.status ∧
      (card users tables viewer).files = FilesService.listOrderFiles tables ∧
      (card users tables viewer).submissions =
        (detailRow users tables).submissions.map toSubmissionDto := by
  have active := (isActiveOffer_iff own.status).mpr (Or.inr executes)
  rcases @visibility_eq users tables viewer keyed.companies with ⟨_, _, seesProgress, isParty⟩
  rw [found, Option.any_some] at seesProgress isParty
  rw [active, Bool.or_true] at seesProgress
  rw [executes, Bool.or_true] at isParty
  simp only [card, toOrderDetail, toOrderListItem, visibleFiles, seesProgress, isParty, if_true]
  exact ⟨rfl, rfl, trivial⟩

theorem insertionSort_dedup_eq_range' {numbers : List ℕ} {count : ℕ}
    (members : ∀ number, number ∈ numbers ↔ number ∈ List.range' 1 count) :
    numbers.dedup.insertionSort (· ≤ ·) = List.range' 1 count := by
  have perm : numbers.dedup.Perm (List.range' 1 count) := by
    rw [List.perm_ext_iff_of_nodup (List.nodup_dedup _) List.nodup_range']
    simpa using members
  have sorted : (List.range' 1 count).Pairwise (· ≤ ·) :=
    (List.pairwise_lt_range' 1).imp Nat.le_of_lt
  exact List.Perm.eq_of_pairwise' (List.pairwise_insertionSort _ _) sorted
    ((List.perm_insertionSort _ _).trans perm)

theorem submissionRounds_of_executor (keyed : tables.WellKeyed) (rounds : tables.Rounds)
    (owned : tables.FilesOwned)
    (found : tables.offers.find? (·.companyId == viewer) = some own)
    (executes : isExecutorOffer own.status = true) :
    (submissionRounds (card users tables viewer)).insertionSort (· ≤ ·) =
      List.range' 1 tables.submissions.length := by
  rcases @card_of_executor users tables viewer own keyed found executes with
    ⟨_, files, submissions⟩
  apply insertionSort_dedup_eq_range'
  intro number
  rw [← rounds.numbered, files, submissions]
  simp only [detailRow, FilesService.listOrderFiles, List.mem_append, List.map_map,
    List.mem_map, List.mem_insertionSort, List.mem_filter, Function.comp_apply,
    OrderSubmission.toRow, toSubmissionDto]
  constructor
  · rintro (listed | ⟨_, ⟨⟨file, mem, rfl⟩, company⟩, rfl⟩)
    · exact listed
    · exact List.mem_map.mp (owned file mem (by simpa [toOrderFileDto] using company))
  · exact Or.inl

theorem filesByRound_of_executor (keyed : tables.WellKeyed)
    (found : tables.offers.find? (·.companyId == viewer) = some own)
    (executes : isExecutorOffer own.status = true) (round : ℕ) :
    (filesByRound (card users tables viewer) round).length =
      OrderWorkflowService.companyFiles round tables.files := by
  have files := (@card_of_executor users tables viewer own keyed found executes).2.1
  rw [filesByRound, files, FilesService.listOrderFiles, List.filter_map, List.length_map]
  exact ((List.perm_insertionSort _ _).filter _).length_eq

theorem submissionView_of_executor (keyed : tables.WellKeyed) (rounds : tables.Rounds)
    (found : tables.offers.find? (·.companyId == viewer) = some own)
    (executes : isExecutorOffer own.status = true) {submission : OrderSubmission}
    (mem : submission ∈ tables.submissions) :
    (submissionView (card users tables viewer) submission.round).submittedAt =
      submission.submittedAt.map Date.toISOString := by
  have submissions := (@card_of_executor users tables viewer own keyed found executes).2.2
  have listed : (card users tables viewer).submissions.find? (·.round == submission.round) =
      some (toSubmissionDto submission.toRow) := by
    rw [submissions]
    apply Rows.find?_eq_some_of_sole
    · simp only [detailRow, List.mem_map, List.mem_insertionSort]
      exact ⟨_, ⟨submission, mem, rfl⟩, rfl⟩
    · simp [toSubmissionDto, OrderSubmission.toRow]
    · simp only [detailRow, List.mem_map, List.mem_insertionSort]
      rintro _ ⟨_, ⟨other, otherMem, rfl⟩, rfl⟩ sameRound
      have same : other.round = submission.round := by
        simpa [toSubmissionDto, OrderSubmission.toRow] using sameRound
      rw [rounds.eq_of_round otherMem mem same]
  simp only [submissionView, listed, Option.bind_some]
  rfl

/-- The last round of the card is open and filled exactly when the round that would be handed in
is. -/
theorem open_filled_iff (keyed : tables.WellKeyed) (rounds : tables.Rounds)
    (owned : tables.FilesOwned)
    (found : tables.offers.find? (·.companyId == viewer) = some own)
    (executes : isExecutorOffer own.status = true) :
    ((resolveSubmissions (card users tables viewer)).open_.any fun view =>
        decide (0 < view.files.length)) = true ↔
      ∃ submission, OrderWorkflowService.findOpenSubmission tables.submissions =
          some submission ∧
        OrderWorkflowService.companyFiles submission.round tables.files ≠ 0 := by
  have numbers := @submissionRounds_of_executor users tables viewer own keyed rounds owned found
    executes
  simp only [resolveSubmissions, numbers, List.getLast?_map, List.getLast?_range']
  split
  case isTrue noRounds =>
    simp [List.eq_nil_of_length_eq_zero noRounds, OrderWorkflowService.findOpenSubmission,
      OrderWorkflowService.latestSubmission]
  case isFalse someRounds =>
    have listed : tables.submissions.length ∈ tables.submissions.map OrderSubmission.round := by
      rw [rounds.numbered, List.mem_range'_1]
      omega
    rcases List.mem_map.mp listed with ⟨last, lastMem, isLast⟩
    have closing := @submissionView_of_executor users tables viewer own keyed rounds found executes
      last lastMem
    have files := @filesByRound_of_executor users tables viewer own keyed found executes last.round
    have isView : (submissionView (card users tables viewer) last.round).files =
        filesByRound (card users tables viewer) last.round := rfl
    rw [Nat.add_sub_cancel_left, ← isLast, Option.map_some, Option.filter_some, closing]
    cases lastClosed : last.submittedAt with
    | none =>
        have isOpen : OrderWorkflowService.findOpenSubmission tables.submissions = some last := by
          cases opened : OrderWorkflowService.findOpenSubmission tables.submissions with
          | none =>
              exact absurd lastClosed
                (OrderWorkflowService.findOpenSubmission_eq_none_iff.mp opened last lastMem)
          | some submission =>
              rw [rounds.open_unique (OrderWorkflowService.findOpenSubmission_mem opened) lastMem
                (OrderWorkflowService.findOpenSubmission_isOpen opened) lastClosed]
        simp only [isOpen, Option.map_none, Option.isNone_none, if_true, Option.any_some,
          decide_eq_true_eq, isView, files, Option.some.injEq, exists_eq_left',
          Nat.pos_iff_ne_zero]
    | some moment =>
        simp only [Option.map_some, Option.isNone_some, Bool.false_eq_true, if_false,
          Option.any_none, false_iff]
        rintro ⟨submission, opened, _⟩
        have mem := OrderWorkflowService.findOpenSubmission_mem opened
        have isOpen := OrderWorkflowService.findOpenSubmission_isOpen opened
        have same := rounds.eq_of_round mem lastMem
          ((rounds.openLast submission mem isOpen).trans isLast.symm)
        rw [same, lastClosed] at isOpen
        cases isOpen

end

end OrdersService

/-- The page of an order, as its card has it drawn. -/
structure OrderPage where
  order : OrderDetail
  access : OrderDetailAccess
  client : OrderClientActions
  company : OrderCompanyActions

def orderPage (order : OrderDetail) (viewerId : Uuid) (today : String) : OrderPage :=
  let access := resolveOrderDetailAccess order (some viewerId)
  { order
    access
    client := resolveClientActions order access today
    company := resolveCompanyActions order access (resolveSubmissions order) (some viewerId) }

/-- Every button of the page is shown exactly when its request is not refused.  An acceptance
carries the version of the offer on the page; an upload the quota keeps out is answered before
the order is looked at. -/
structure OrderPage.MatchesServer (page : OrderPage) (environment : Environment)
    (user : AuthUser) (tables : OrderTables) : Prop where
  accept : ∀ offerId dto,
    (∀ offer ∈ page.order.offers, offer.id = offerId → dto = acceptOfferBody offer) →
    ((∃ decision ∈ page.client.decisions,
        decision.offer.id = offerId ∧ decision.canAccept = true) ↔
      refuses (OrderWorkflowController.acceptOffer environment user page.order.id offerId dto)
        tables = false)
  reject : ∀ offerId,
    (∃ decision ∈ page.client.decisions,
        decision.offer.id = offerId ∧ decision.canReject = true) ↔
      refuses (OffersController.reject environment user offerId) tables = false
  confirm : ∀ comment, page.client.canConfirmWork = true ↔
    refuses (OrderWorkflowController.confirm environment user page.order.id comment) tables =
      false
  dispute : ∀ correctionComment, page.client.canDisputeWork = true ↔
    refuses (OrderWorkflowController.dispute environment user page.order.id correctionComment)
      tables = false
  delete : showsDelete page.order page.access = true ↔
    refuses (OrdersController.remove user page.order.id) tables = false
  submitOffer : ∀ editedAt dto, dto.orderId = page.order.id →
    (page.company.canSubmitOffer = true ↔
      refuses (OffersController.submit environment user editedAt dto) tables = false)
  offerForm : page.company.showsOfferForm = page.company.canSubmitOffer
  editOffer : ∀ editedAt dto, dto.orderId = page.order.id →
    (page.company.pendingOffer.isSome = true ↔
      (∃ offer ∈ tables.offers, offer.companyId = user.id ∧ offer.status = .sent) ∧
        refuses (OffersController.submit environment user editedAt dto) tables = false)
  withdrawOffer : ∀ offerId,
    (∃ offer, page.company.pendingOffer = some offer ∧ offer.id = offerId) ↔
      refuses (OffersController.withdraw environment user offerId) tables = false
  addFiles : ∀ elsewhere reserved declaredBytes comment prepared,
    (page.company.canAddFiles = true →
      refuses (OrderWorkflowController.addFiles environment user elsewhere reserved page.order.id
        declaredBytes comment prepared) tables = false) ∧
    (Transaction.succeeds (FilesService.assertRoomForUpload elsewhere reserved page.order.id
        .company declaredBytes) tables = true →
      refuses (OrderWorkflowController.addFiles environment user elsewhere reserved page.order.id
        declaredBytes comment prepared) tables = false →
      page.company.canAddFiles = true)
  submitWork : page.company.canSubmitWork = true ↔
    refuses (OrderWorkflowController.submitWork environment user page.order.id) tables = false
  verifyArea : ∀ area, page.company.canVerifyArea = true ↔
    refuses (OrderWorkflowController.verifyArea environment user page.order.id area) tables = false

namespace OrdersService

def page (users : Uuid → User) (tables : OrderTables) (viewer : Uuid) (today : String) :
    OrderPage :=
  orderPage (card users tables viewer) viewer today

variable {users : Uuid → User} {tables : OrderTables} {viewer : Uuid} {today : String}

theorem page_company_of_owner (isOwner : tables.order.clientId = viewer) :
    (page users tables viewer today).company = nothingForCompany := by
  simp [page, orderPage, resolveCompanyActions, card_isOwner, isOwner]

theorem page_client_of_owner (isOwner : tables.order.clientId = viewer)
    (coupled : tables.Coupled) :
    ((page users tables viewer today).client.canConfirmWork = true ↔
        ∃ offer ∈ tables.offers, isExecutorOffer offer.status = true ∧
          canTransition tables.order.status .workConfirmed (some offer.status) = true) ∧
      ((page users tables viewer today).client.canDisputeWork = true ↔
        ∃ offer ∈ tables.offers, isExecutorOffer offer.status = true ∧
          canTransition tables.order.status .workDisputed (some offer.status) = true) := by
  simp only [page, orderPage, resolveClientActions, card_isOwner, isOwner, beq_self_eq_true,
    Bool.not_true, Bool.false_eq_true, if_false]
  exact ⟨any_executorOffer_iff isOwner coupled .workConfirmed,
    any_executorOffer_iff isOwner coupled .workDisputed⟩

theorem page_client_of_company (notOwner : tables.order.clientId ≠ viewer) :
    (page users tables viewer today).client.decisions = [] ∧
      (page users tables viewer today).client.canConfirmWork = false ∧
      (page users tables viewer today).client.canDisputeWork = false ∧
      (page users tables viewer today).access.isOwner = false := by
  have isOwner : (tables.order.clientId == viewer) = false := by simpa using notOwner
  simp [page, orderPage, resolveClientActions, card_isOwner, isOwner]

section

variable {own : Offer}

theorem page_company_of_executor (keyed : tables.WellKeyed)
    (notOwner : tables.order.clientId ≠ viewer)
    (found : tables.offers.find? (·.companyId == viewer) = some own)
    (executes : isExecutorOffer own.status = true) :
    (page users tables viewer today).company.canAddFiles = canUploadWork tables.order.status ∧
      (page users tables viewer today).company.canVerifyArea =
        canVerifyArea tables.order.status ∧
      (page users tables viewer today).company.canSubmitWork =
        (canTransition tables.order.status .workSubmitted (some own.status) &&
          (resolveSubmissions (card users tables viewer)).open_.any fun view =>
            decide (0 < view.files.length)) := by
  have isOwner : (tables.order.clientId == viewer) = false := by simpa using notOwner
  have status := (@card_of_executor users tables viewer own keyed found executes).1
  simp only [page, orderPage, resolveCompanyActions, card_isOwner, isOwner, Option.isNone_some,
    Bool.or_self, Bool.false_eq_true, if_false, card_ownOffer notOwner keyed, found,
    Option.map_some, status]
  simp [toOfferDto, Offer.toRow, executes]

end

theorem page_company_of_outsider (keyed : tables.WellKeyed)
    (notOwner : tables.order.clientId ≠ viewer)
    (outside : (tables.offers.find? (·.companyId == viewer)).any (isExecutorOffer ·.status) =
      false) :
    (page users tables viewer today).company.canAddFiles = false ∧
      (page users tables viewer today).company.canVerifyArea = false ∧
      (page users tables viewer today).company.canSubmitWork = false := by
  have isOwner : (tables.order.clientId == viewer) = false := by simpa using notOwner
  simp only [page, orderPage, resolveCompanyActions, card_isOwner, isOwner, Option.isNone_some,
    Bool.or_self, Bool.false_eq_true, if_false, card_ownOffer notOwner keyed]
  cases own : tables.offers.find? (·.companyId == viewer) with
  | none => simp [nothingForCompany]
  | some offer =>
      rw [own, Option.any_some] at outside
      simp [toOfferDto, Offer.toRow, outside, nothingForCompany]

theorem page_company_offer (keyed : tables.WellKeyed)
    (notOwner : tables.order.clientId ≠ viewer) :
    (page users tables viewer today).company.canSubmitOffer =
        OffersService.takesSubmission tables viewer ∧
      (page users tables viewer today).company.ownOffer =
        (tables.offers.find? (·.companyId == viewer)).map fun offer =>
          toOfferDto (offer.toRow users) := by
  have isOwner : (tables.order.clientId == viewer) = false := by simpa using notOwner
  simp only [page, orderPage, resolveCompanyActions, card_isOwner, isOwner, Option.isNone_some,
    Bool.or_self, Bool.false_eq_true, if_false, card_ownOffer notOwner keyed,
    card_canSubmitOffer notOwner keyed.companies]
  cases own : tables.offers.find? (·.companyId == viewer) with
  | none => exact ⟨rfl, rfl⟩
  | some offer =>
      simp only [Option.map_some]
      split <;> exact ⟨rfl, rfl⟩

theorem page_pendingOffer_iff (keyed : tables.WellKeyed)
    (notOwner : tables.order.clientId ≠ viewer) {response : OfferDto} :
    (page users tables viewer today).company.pendingOffer = some response ↔
      ∃ offer ∈ tables.offers, offer.companyId = viewer ∧ offer.status = .sent ∧
        response = toOfferDto (offer.toRow users) := by
  rw [OrderCompanyActions.pendingOffer, (page_company_offer keyed notOwner).2]
  simp only [Option.filter_eq_some_iff, Option.map_eq_some_iff]
  constructor
  · rintro ⟨⟨offer, found, rfl⟩, pending⟩
    have isOwn : offer.companyId = viewer := by simpa using List.find?_some found
    have isSent : offer.status = .sent := by
      simpa [isPendingOffer, toOfferDto, Offer.toRow] using pending
    exact ⟨offer, List.mem_of_find?_eq_some found, isOwn, isSent, rfl⟩
  · rintro ⟨offer, mem, rfl, isSent, rfl⟩
    refine ⟨⟨offer, Rows.find?_eq_some_of_mem keyed.companies mem, rfl⟩, ?_⟩
    simp [isPendingOffer, toOfferDto, Offer.toRow, isSent]

end OrdersService

section

variable {environment : Environment} {user : AuthUser} {users : Uuid → User}
  {tables : OrderTables}

theorem canTransition_some_iff {status : OrderStatus} {event : OrderEventType}
    {offerStatus : OfferStatus} :
    canTransition status event (some offerStatus) = true ↔
      event ∈ orderTransitions status ∧ offerStatus ∈ offerPreconditions event := by
  simp [canTransition]

/-- The offers an owner can accept are those the server lets it accept on that day. -/
theorem accept_matches (keyed : tables.WellKeyed) (isClient : user.role = some .client)
    (isOwner : tables.order.clientId = user.id) (offerId : Uuid) (dto : AcceptOfferDto)
    (sameVersion : ∀ offer ∈ (OrdersService.card users tables user.id).offers,
      offer.id = offerId → dto = acceptOfferBody offer) :
    (∃ decision ∈ (OrdersService.page users tables user.id
        (utcCalendarDate environment.now)).client.decisions,
        decision.offer.id = offerId ∧ decision.canAccept = true) ↔
      refuses (OrderWorkflowController.acceptOffer environment user tables.order.id offerId dto)
        tables = false := by
  rw [OrderWorkflowController.acceptOffer_answers_iff rfl,
    OrderTransitionCommand.exists_allowed_iff keyed rfl rfl]
  have status := @OrdersService.card_status_of_owner users tables user.id isOwner
  constructor
  · rintro ⟨decision, mem, sameId, canAccept⟩
    rcases (OrdersService.mem_decisions isOwner).mp mem with ⟨offer, offerMem, isSent, rfl⟩
    simp only [offerDecision, status, toOfferDto, Offer.toRow, Bool.and_eq_true,
      Bool.not_eq_eq_eq_not, Bool.not_true, canTransition_some_iff] at canAccept
    have version : dto = acceptOfferBody (toOfferDto (offer.toRow users)) := by
      refine sameVersion _ ((OrdersService.mem_card_offers_of_owner isOwner).mpr
        ⟨offer, offerMem, ?_, rfl⟩) sameId
      exact (isActiveOffer_iff _).mpr (Or.inl isSent)
    refine ⟨isClient, isOwner, offer, offerMem, sameId, canAccept.2.1, ?_, canAccept.1, ?_⟩
    · rintro _ ⟨⟩
      exact canAccept.2.2
    · rw [version]
      rfl
  · rintro ⟨_, _, offer, mem, sameId, listed, precondition, notExpired, _⟩
    have fits : offer.status ∈ offerPreconditions .offerAccepted := precondition offer.status rfl
    have isSent : offer.status = .sent := by simpa [offerPreconditions] using fits
    refine ⟨_, (OrdersService.mem_decisions isOwner).mpr ⟨offer, mem, isSent, rfl⟩, sameId, ?_⟩
    simp only [offerDecision, status, toOfferDto, Offer.toRow, notExpired, Bool.not_false,
      Bool.true_and]
    exact canTransition_some_iff.mpr ⟨listed, fits⟩

theorem matchesServer_of_owner (keyed : tables.WellKeyed) (coupled : tables.Coupled)
    (isClient : user.role = some .client) (isOwner : tables.order.clientId = user.id) :
    (OrdersService.page users tables user.id
      (utcCalendarDate environment.now)).MatchesServer environment user tables := by
  have status := @OrdersService.card_status_of_owner users tables user.id isOwner
  have company := @OrdersService.page_company_of_owner users tables user.id
    (utcCalendarDate environment.now) isOwner
  have notCompany : user.role ≠ some .company := by simp [isClient]
  constructor
  case accept => exact accept_matches keyed isClient isOwner
  case reject =>
    intro offerId
    rw [OffersController.reject_answers_iff keyed]
    constructor
    · rintro ⟨decision, mem, sameId, canReject⟩
      rcases (OrdersService.mem_decisions isOwner).mp mem with ⟨offer, offerMem, isSent, rfl⟩
      rw [offerDecision, status] at canReject
      exact ⟨isClient, offer, offerMem, sameId, isOwner, canReject⟩
    · rintro ⟨_, offer, mem, sameId, _, canReject⟩
      have fits := (canTransition_some_iff.mp canReject).2
      have isSent : offer.status = .sent := by simpa [offerPreconditions] using fits
      refine ⟨_, (OrdersService.mem_decisions isOwner).mpr ⟨offer, mem, isSent, rfl⟩, sameId, ?_⟩
      rw [offerDecision, status]
      exact canReject
  case confirm =>
    intro comment
    refine Iff.trans ?_ (OrderWorkflowController.confirm_answers_iff rfl).symm
    rw [coupled.work_allowed_iff rfl rfl]
    rw [(OrdersService.page_client_of_owner isOwner coupled).1]
    exact ⟨fun handedIn => ⟨isClient, isOwner, handedIn⟩, fun confirmed => confirmed.2.2⟩
  case dispute =>
    intro correctionComment
    refine Iff.trans ?_ (OrderWorkflowController.dispute_answers_iff rfl).symm
    rw [coupled.work_allowed_iff rfl rfl]
    rw [(OrdersService.page_client_of_owner isOwner coupled).2]
    exact ⟨fun handedIn => ⟨isClient, isOwner, handedIn⟩, fun disputed => disputed.2.2⟩
  case delete =>
    refine Iff.trans ?_ (OrdersController.remove_answers_iff rfl).symm
    have owns := @OrdersService.card_isOwner users tables user.id
    simp only [showsDelete, OrdersService.page, orderPage, owns, status, isOwner,
      beq_self_eq_true, Bool.true_and, isClient, true_and]
  case submitOffer =>
    intro editedAt dto _
    simp [company, nothingForCompany, OffersController.submit, refuses_behind_role, isClient]
  case offerForm => simp [company, nothingForCompany, OrderCompanyActions.showsOfferForm]
  case editOffer =>
    intro editedAt dto _
    simp [company, nothingForCompany, OrderCompanyActions.pendingOffer, OffersController.submit,
      refuses_behind_role, isClient]
  case withdrawOffer =>
    intro offerId
    simp [company, nothingForCompany, OrderCompanyActions.pendingOffer,
      OffersController.withdraw, refuses_behind_role, isClient]
  case addFiles =>
    intro elsewhere reserved declaredBytes comment prepared
    simp [company, nothingForCompany, OrderWorkflowController.addFiles, refuses_behind_role,
      isClient]
  case submitWork =>
    simp [company, nothingForCompany, OrderWorkflowController.submitWork, refuses_behind_role,
      isClient]
  case verifyArea =>
    intro area
    simp [company, nothingForCompany, OrderWorkflowController.verifyArea, refuses_behind_role,
      isClient]

theorem takesSubmission_of_sent (coupled : tables.Coupled) {own : Offer} {companyId : Uuid}
    (found : tables.offers.find? (·.companyId == companyId) = some own)
    (isSent : own.status = .sent) : OffersService.takesSubmission tables companyId = true := by
  have awaits := coupled.awaits_of_sent (List.mem_of_find?_eq_some found) isSent
  simp [OffersService.takesSubmission, found, awaits, isSent, canTransition, orderTransitions,
    offerPreconditions, isFinallyRejected]

theorem executor_matches (keyed : tables.WellKeyed) (coupled : tables.Coupled)
    (rounds : tables.Rounds) (owned : tables.FilesOwned) {viewer : Uuid} {today : String}
    (notOwner : tables.order.clientId ≠ viewer) (command : OrderTransitionCommand)
    (isCommand : command = .workSubmitted tables.order.id) :
    let executes := (tables.offers.find? (·.companyId == viewer)).any (isExecutorOffer ·.status)
    let company := (OrdersService.page users tables viewer today).company
    (company.canAddFiles = true ↔ executes = true ∧ canUploadWork tables.order.status = true) ∧
      (company.canVerifyArea = true ↔
        executes = true ∧ canVerifyArea tables.order.status = true) ∧
      (company.canSubmitWork = true ↔ executes = true ∧
        (∃ offer, command.Allowed environment tables offer) ∧
        ∃ submission, OrderWorkflowService.findOpenSubmission tables.submissions =
            some submission ∧
          OrderWorkflowService.companyFiles submission.round tables.files ≠ 0) := by
  intro executes company
  subst isCommand
  rw [coupled.work_allowed_iff rfl rfl]
  cases isExecutor : executes with
  | false =>
      rcases @OrdersService.page_company_of_outsider users tables viewer today keyed notOwner
        isExecutor with ⟨noFiles, noArea, noWork⟩
      simp [company, noFiles, noArea, noWork]
  | true =>
      rcases (Option.any_eq_true _ _).mp isExecutor with ⟨own, found, ownExecutes⟩
      rcases @OrdersService.page_company_of_executor users tables viewer today own keyed notOwner
        found ownExecutes with ⟨files, area, work⟩
      have filled := @OrdersService.open_filled_iff users tables viewer own keyed rounds owned
        found ownExecutes
      refine ⟨by simp [company, files], by simp [company, area], ?_⟩
      rw [show company.canSubmitWork = _ from work, Bool.and_eq_true, filled]
      simp only [true_and]
      refine and_congr_left fun _ => ⟨fun allowed => ?_, ?_⟩
      · exact ⟨own, List.mem_of_find?_eq_some found, ownExecutes, allowed⟩
      · rintro ⟨offer, mem, offerExecutes, allowed⟩
        rw [coupled.executor_status (List.mem_of_find?_eq_some found) ownExecutes mem
          offerExecutes]
        exact allowed

theorem matchesServer_of_company (keyed : tables.WellKeyed) (coupled : tables.Coupled)
    (rounds : tables.Rounds) (owned : tables.FilesOwned)
    (isCompany : user.role = some .company) (notOwner : tables.order.clientId ≠ user.id)
    (freshId : ∀ offer ∈ tables.offers, offer.id ≠ environment.offerId) {today : String} :
    (OrdersService.page users tables user.id today).MatchesServer environment user tables := by
  rcases @OrdersService.page_client_of_company users tables user.id today notOwner with
    ⟨noDecisions, noConfirm, noDispute, notOwned⟩
  rcases @OrdersService.page_company_offer users tables user.id today keyed notOwner with
    ⟨canSubmitOffer, ownOffer⟩
  rcases @executor_matches environment users tables keyed coupled rounds owned user.id today
    notOwner _ rfl with ⟨canAddFiles, canVerifyArea, canSubmitWork⟩
  constructor
  case accept =>
    intro offerId dto _
    simp [noDecisions, OrderWorkflowController.acceptOffer, refuses_behind_role, isCompany]
  case reject =>
    intro offerId
    simp [noDecisions, OffersController.reject, refuses_behind_role, isCompany]
  case confirm =>
    intro comment
    simp [noConfirm, OrderWorkflowController.confirm, refuses_behind_role, isCompany]
  case dispute =>
    intro correctionComment
    simp [noDispute, OrderWorkflowController.dispute, refuses_behind_role, isCompany]
  case delete =>
    simp [showsDelete, notOwned, OrdersController.remove, refuses_behind_role, isCompany]
  case submitOffer =>
    intro editedAt dto found
    rw [OffersController.submit_answers_iff keyed found.symm freshId, canSubmitOffer]
    exact ⟨fun takes => ⟨isCompany, takes⟩, fun submitted => submitted.2⟩
  case offerForm =>
    rw [OrderCompanyActions.showsOfferForm, ownOffer, canSubmitOffer]
    cases own : tables.offers.find? (·.companyId == user.id) with
    | none => rfl
    | some offer =>
        by_cases isSent : offer.status = .sent
        · simp [isPendingOffer, toOfferDto, Offer.toRow, isSent,
            takesSubmission_of_sent coupled own isSent]
        · have notPending : (offer.status == .sent) = false := by simpa using isSent
          simp [isPendingOffer, toOfferDto, Offer.toRow, notPending]
  case editOffer =>
    intro editedAt dto found
    rw [OffersController.submit_answers_iff keyed found.symm freshId, Option.isSome_iff_exists]
    simp only [OrdersService.page_pendingOffer_iff keyed notOwner]
    constructor
    · rintro ⟨_, offer, mem, isOwn, isSent, rfl⟩
      have ownFound := Rows.find?_eq_some_of_mem keyed.companies mem
      rw [isOwn] at ownFound
      exact ⟨⟨offer, mem, isOwn, isSent⟩, isCompany,
        takesSubmission_of_sent coupled ownFound isSent⟩
    · rintro ⟨⟨offer, mem, isOwn, isSent⟩, _⟩
      exact ⟨_, offer, mem, isOwn, isSent, rfl⟩
  case withdrawOffer =>
    intro offerId
    rw [OffersController.withdraw_answers_iff keyed]
    simp only [OrdersService.page_pendingOffer_iff keyed notOwner, canTransition_some_iff]
    constructor
    · rintro ⟨_, ⟨offer, mem, isOwn, isSent, rfl⟩, sameId⟩
      have awaits := coupled.awaits_of_sent mem isSent
      exact ⟨isCompany, offer, mem, sameId, isOwn, by simp [awaits, orderTransitions],
        by simp [isSent, offerPreconditions]⟩
    · rintro ⟨_, offer, mem, sameId, isOwn, _, fits⟩
      have isSent : offer.status = .sent := by simpa [offerPreconditions] using fits
      exact ⟨_, ⟨offer, mem, isOwn, isSent, rfl⟩, sameId⟩
  case addFiles =>
    intro elsewhere reserved declaredBytes comment prepared
    constructor
    · intro shown
      rcases canAddFiles.mp shown with ⟨executes, uploads⟩
      exact OrderWorkflowController.addFiles_answers rfl isCompany executes uploads
    · intro admitted answers
      exact canAddFiles.mpr
        ((OrderWorkflowController.addFiles_answers_iff rfl admitted).mp answers).2
  case submitWork =>
    refine Iff.trans canSubmitWork (Iff.trans ?_
      (OrderWorkflowController.submitWork_answers_iff rfl).symm)
    exact ⟨fun shown => ⟨isCompany, shown⟩, fun answered => answered.2⟩
  case verifyArea =>
    intro area
    refine Iff.trans canVerifyArea (Iff.trans ?_
      (OrderWorkflowController.verifyArea_answers_iff rfl).symm)
    exact ⟨fun shown => ⟨isCompany, shown⟩, fun answered => answered.2⟩

end

/-- Whatever requests an order has been through: whoever has opened its page, the owner as a
client or anyone else as a company, finds on it on every day the actions the server would not
refuse, and no others. -/
theorem buttons_match_server (id : Uuid) (orderNumber : ℕ) (now : Date) (clientId : Uuid)
    (dto : CreateOrderDto) (requests : List Request) (environment : Environment) (user : AuthUser)
    (orderId : Uuid) (order : OrderDetail) :
    let tables := (reached id orderNumber now clientId dto requests).tables
    user.role = some (if tables.order.clientId = user.id then .client else .company) →
      (OrdersController.getOne user environment.users orderId).run tables = .ok (order, tables) →
        (∀ offer ∈ tables.offers, offer.id ≠ environment.offerId) →
          (orderPage order user.id (utcCalendarDate environment.now)).MatchesServer environment
            user tables := by
  intro tables matching opened freshId
  rcases reached_coupled id orderNumber now clientId dto requests with ⟨wellFormed, coupled⟩
  have isCard : order = OrdersService.card environment.users tables user.id := by
    rcases Transaction.run_bind_eq_ok.mp opened with ⟨access, read, _, answered⟩
    rcases OrdersService.run_getDetail_eq_ok.mp answered with ⟨_, isDetail, unchanged⟩
    rw [isDetail, ← unchanged]
    rfl
  subst isCard
  by_cases isOwner : tables.order.clientId = user.id
  · rw [if_pos isOwner] at matching
    exact matchesServer_of_owner wellFormed.keyed coupled matching isOwner
  · rw [if_neg isOwner] at matching
    exact matchesServer_of_company wellFormed.keyed coupled
      (reached_rounds id orderNumber now clientId dto requests)
      (reached_filesOwned id orderNumber now clientId dto requests) matching isOwner freshId

theorem buttons_match_server_offered :
    let tables := (reached ⟨1⟩ 7 Date.epoch ⟨2⟩ exampleOrder
      [exampleSubmission ⟨3⟩ ⟨11⟩ 100, exampleSubmission ⟨4⟩ ⟨12⟩ 200]).tables
    let environment := exampleEnvironment ⟨13⟩
    (OrdersService.page environment.users tables ⟨3⟩
      (utcCalendarDate environment.now)).MatchesServer environment ⟨⟨3⟩, some .company⟩ tables :=
  buttons_match_server ⟨1⟩ 7 Date.epoch ⟨2⟩ exampleOrder
    [exampleSubmission ⟨3⟩ ⟨11⟩ 100, exampleSubmission ⟨4⟩ ⟨12⟩ 200] (exampleEnvironment ⟨13⟩)
    ⟨⟨3⟩, some .company⟩ ⟨1⟩ _ (by decide) rfl (by decide)

end MyBuild
