import MyBuild.Orders.TransitionService

/-!
# What a transition does to the rows

The effects of the machine travel as a list and are written group by group.  Here the
two are put together: `Allowed` is everything a transition is checked for, `after` the
rows it leaves, and a transition of the service returns exactly when it is allowed.
-/

namespace MyBuild

def Order.withStatus (now : Date) (status : OrderStatus) (order : Order) : Order :=
  { order with status, updatedAt := now }

@[simp]
theorem Order.withStatus_status (now : Date) (status : OrderStatus) (order : Order) :
    (order.withStatus now status).status = status := rfl

@[simp]
theorem updateOffers_nil (now : Date) (status : OfferStatus) (offers : List Offer) :
    updateOffers now status [] offers = offers := by
  exact Rows.updateWhere_eq_self (by simp)

namespace OrderTransitionCommand

def type : OrderTransitionCommand → OrderEventType
  | offerSubmitted .. => .offerSubmitted
  | offerWithdrawn .. => .offerWithdrawn
  | offerRejected .. => .offerRejected
  | offerAccepted .. => .offerAccepted
  | workSubmitted _ => .workSubmitted
  | workConfirmed .. => .workConfirmed
  | workDisputed .. => .workDisputed

/-- The offer status the precondition is checked against. -/
def checkedStatus (offer : Offer) : OrderTransitionCommand → Option OfferStatus
  | offerSubmitted _ _ offerStatusBefore => offerStatusBefore
  | _ => some offer.status

/-- The refusals that depend on the terms of the offer do not apply. -/
def TermsHold (environment : Environment) (offer : Offer) : OrderTransitionCommand → Prop
  | offerSubmitted _ _ offerStatusBefore =>
      isFinallyRejected offerStatusBefore offer.rejectionCount = false
  | offerAccepted _ _ seenOfferEditedAt =>
      isOfferExpired offer.proposedDeadline.toISOString (utcCalendarDate environment.now) = false ∧
        offer.editedAt.map Date.toISOString = seenOfferEditedAt
  | _ => True

structure Allowed (environment : Environment) (command : OrderTransitionCommand)
    (tables : OrderTables) (offer : Offer) : Prop where
  sameOrder : command.orderId = tables.order.id
  resolved : OrderTransitionService.resolved? command tables = some offer
  listed : command.type ∈ orderTransitions tables.order.status
  precondition : ∀ offerStatus, command.checkedStatus offer = some offerStatus →
    offerStatus ∈ offerPreconditions command.type
  terms : command.TermsHold environment offer

def leave (now : Date) (status : OfferStatus) (offer : Offer) (tables : OrderTables) :
    OrderTables :=
  { tables with
    order := tables.order.withStatus now
      (if 0 < (OrderTransitionService.otherSentOffers tables offer).length then
        .awaitingConfirmation else .waiting)
    offers := updateOffers now status [offer.id] tables.offers }

/-- The rows after the transition, notifications apart. -/
def after (now : Date) (offer : Offer) (tables : OrderTables) :
    OrderTransitionCommand → OrderTables
  | offerSubmitted .. =>
      { tables with
        order := tables.order.withStatus now .awaitingConfirmation
        offers := updateOffers now .sent [offer.id] tables.offers }
  | offerWithdrawn .. => leave now .withdrawn offer tables
  | offerRejected .. => leave now .rejected offer tables
  | offerAccepted .. =>
      { tables with
        order :=
          { tables.order.withStatus now .inProgress with
            price := some offer.proposedPrice
            deadline := some offer.proposedDeadline }
        offers := updateOffers now .notAccepted
          ((OrderTransitionService.otherSentOffers tables offer).map Offer.id)
          (updateOffers now .accepted [offer.id] tables.offers) }
  | workSubmitted _ =>
      { tables with
        order := tables.order.withStatus now .awaitingCompletionConfirmation
        offers := updateOffers now .workSubmitted [offer.id] tables.offers }
  | workConfirmed _ completionComment =>
      { tables with
        order :=
          { tables.order.withStatus now .completed with
            clientCompletionComment := completionComment }
        offers := updateOffers now .completed [offer.id] tables.offers }
  | workDisputed _ correctionComment =>
      { tables with
        order :=
          { tables.order.withStatus now .completionDisputed with
            correctionComment := some correctionComment }
        offers := updateOffers now .backForOverride [offer.id] tables.offers }

end OrderTransitionCommand

namespace OrderTransitionService

variable {environment : Environment} {command : OrderTransitionCommand}
  {tables next : OrderTables} {offer : Offer} {applied : AppliedTransition}

@[simp]
theorem buildEvent_type :
    (buildEvent environment command offer tables).type = command.type := by
  cases command <;> rfl

theorem assertOfferStatus_buildEvent :
    OrderStateMachine.assertOfferStatus (buildEvent environment command offer tables) = .ok () ↔
      ∀ offerStatus, command.checkedStatus offer = some offerStatus →
        offerStatus ∈ offerPreconditions command.type := by
  rw [OrderStateMachine.assertOfferStatus_eq_ok_iff, buildEvent_type]
  cases command <;> rfl

theorem assertTerms_buildEvent :
    OrderStateMachine.assertTerms (buildEvent environment command offer tables) = .ok () ↔
      command.TermsHold environment offer := by
  cases command with
  | offerSubmitted _ _ offerStatusBefore =>
      simp [buildEvent, OrderStateMachine.assertTerms, OrderTransitionCommand.TermsHold]
  | offerAccepted _ _ seenOfferEditedAt =>
      simp only [buildEvent, OrderStateMachine.assertTerms, OrderTransitionCommand.TermsHold]
      split
      · simp_all
      · split <;> simp_all
  | _ => simp [buildEvent, OrderStateMachine.assertTerms, OrderTransitionCommand.TermsHold]

/-- The losing offers all join one group, behind the group of the accepted one. -/
theorem foldl_addToGroup_rivals (rivals : List Offer) (accepted lost : List Uuid) :
    (rivals.map fun rival : Offer =>
        ({ offerId := rival.id, companyId := rival.companyId, status := .notAccepted } :
          OfferStatusUpdate)).foldl (fun grouped update => addToGroup update grouped)
        [(.accepted, accepted), (.notAccepted, lost)] =
      [(.accepted, accepted), (.notAccepted, lost ++ rivals.map Offer.id)] := by
  induction rivals generalizing lost with
  | nil => simp
  | cons rival rivals ih => simp [addToGroup, ih]

theorem writeOffers_accept (now : Date) (rivals offers : List Offer) :
    writeOffers now
        ({ offerId := offer.id, companyId := offer.companyId, status := .accepted } ::
          rivals.map fun rival =>
            { offerId := rival.id, companyId := rival.companyId, status := .notAccepted })
        offers =
      updateOffers now .notAccepted (rivals.map Offer.id)
        (updateOffers now .accepted [offer.id] offers) := by
  cases rivals with
  | nil => simp [writeOffers, groupOfferIdsByStatus, addToGroup]
  | cons rival rivals =>
      simp [writeOffers, groupOfferIdsByStatus, addToGroup, foldl_addToGroup_rivals]

theorem foldl_addEffect_rivals (orderId : Uuid) (body : String) (rivals : List Offer)
    (writes : WriteSet) :
    let result := ((rivals.map fun rival : Offer =>
        ({ offerId := rival.id, companyId := rival.companyId } : OfferOwner)).flatMap fun rival =>
          [setOfferStatus rival .notAccepted,
            notify rival.companyId .offerNotAccepted body
              (some (notificationKeys.offer rival.offerId))]).foldl
        (WriteSet.addEffect orderId) writes
    result.orderData = writes.orderData ∧
      result.offerUpdates = writes.offerUpdates ++ rivals.map (fun rival =>
        { offerId := rival.id, companyId := rival.companyId, status := .notAccepted }) ∧
      result.notificationsToCreate = writes.notificationsToCreate ++ rivals.map fun rival =>
        { userId := rival.companyId
          type := .offerNotAccepted
          orderId := some orderId
          title := notificationTypeLabels .offerNotAccepted
          body
          collapseKey := some (notificationKeys.offer rival.id) } := by
  induction rivals generalizing writes with
  | nil => simp
  | cons rival rivals ih =>
      simp only [List.map_cons, List.flatMap_cons, List.foldl_append, List.foldl_cons,
        List.foldl_nil, setOfferStatus, notify, WriteSet.addEffect] at ih ⊢
      rcases ih _ with ⟨sameData, added, told⟩
      refine ⟨sameData, added.trans ?_, told.trans ?_⟩
      · simp
      · simp

/-- What the handlers' effects write: the rows of `after`. -/
theorem written_eq_after {result : OrderTransitionResult}
    (handled : handlerOf command.type (contextOf tables.order)
      (buildEvent environment command offer tables) = .ok (result.nextStatus, result.effects)) :
    tables.order.update environment.now
        (WriteSet.ofEffects tables.order.id result.nextStatus result.effects).orderData =
          .ok (command.after environment.now offer tables).order ∧
      writeOffers environment.now
        (WriteSet.ofEffects tables.order.id result.nextStatus result.effects).offerUpdates
        tables.offers = (command.after environment.now offer tables).offers := by
  rcases result with ⟨fromStatus, nextStatus, effects⟩
  cases command with
  | offerAccepted orderId offerId seenOfferEditedAt =>
      simp only [OrderTransitionCommand.type, handlerOf, buildEvent, offerAccepted,
        Except.ok.injEq, Prod.mk.injEq] at handled
      rcases handled with ⟨rfl, rfl⟩
      have rivals := foldl_addEffect_rivals tables.order.id
        (orderRef tables.order.orderNumber tables.order.title ++
          ": клиент выбрал другое предложение")
        (otherSentOffers tables offer)
      simp only [WriteSet.ofEffects, List.foldl_append, List.foldl_cons, List.foldl_nil,
        setOfferStatus, notify, WriteSet.addEffect, contextOf, List.nil_append] at rivals ⊢
      rw [(rivals _).1, (rivals _).2.1]
      constructor
      · simp [Order.update, Decimal.ofText?_toText, OrderTransitionCommand.after,
          Order.withStatus, bind, Except.bind, pure, Except.pure]
      · exact writeOffers_accept environment.now (otherSentOffers tables offer) tables.offers
  | _ =>
      cases handled
      exact ⟨rfl, rfl⟩

/-- A transition that returned was allowed, and left the rows of `after`. -/
theorem run_ok_after
    (returned : (run environment command).run tables = .ok (applied, next)) :
    ∃ offer, command.Allowed environment tables offer ∧
      (command.after environment.now offer tables).SameOrderRows next := by
  rcases run_ok returned with
    ⟨sameOrder, offer, result, order, resolved, decision, updated, updates, same⟩
  rcases OrderStateMachine.transition_eq_ok_iff.mp decision with
    ⟨listed, statusFits, termsFit, handled, _⟩
  rw [buildEvent_type] at listed handled
  rcases written_eq_after handled with ⟨orderWritten, offersWritten⟩
  rw [updated] at orderWritten
  cases orderWritten
  rw [updates, offersWritten] at same
  refine ⟨offer, ⟨sameOrder, resolved, listed, assertOfferStatus_buildEvent.mp statusFits,
    assertTerms_buildEvent.mp termsFit⟩, ?_⟩
  cases command <;> exact same

theorem run_returns_iff :
    (∃ outcome, (run environment command).run tables = .ok outcome) ↔
      ∃ offer, command.Allowed environment tables offer := by
  constructor
  · rintro ⟨⟨applied, next⟩, returned⟩
    rcases run_ok_after returned with ⟨offer, allowed, _⟩
    exact ⟨offer, allowed⟩
  · rintro ⟨offer, allowed⟩
    rcases handlerOf_total (contextOf tables.order)
      (buildEvent environment command offer tables) with ⟨⟨nextStatus, effects⟩, handled⟩
    let result : OrderTransitionResult := ⟨tables.order.status, nextStatus, effects⟩
    have decision : OrderStateMachine.transition (contextOf tables.order)
        (buildEvent environment command offer tables) = .ok result := by
      refine OrderStateMachine.transition_eq_ok_iff.mpr ⟨?_,
        assertOfferStatus_buildEvent.mpr allowed.precondition,
        assertTerms_buildEvent.mpr allowed.terms, handled, rfl⟩
      rw [buildEvent_type]
      exact allowed.listed
    rw [buildEvent_type] at handled
    have written : tables.order.update environment.now
        (WriteSet.ofEffects tables.order.id result.nextStatus result.effects).orderData =
          .ok (command.after environment.now offer tables).order := (written_eq_after handled).1
    exact run_of_allowed allowed.sameOrder allowed.resolved decision written

/-- A transition is only ever refused as not found or as a conflict. -/
theorem run_error_isRefusal {error : ApiException}
    (thrown : (run environment command).run tables = .error error) :
    error.isRefusal = true := by
  simp only [run] at thrown
  rcases Transaction.run_bind_eq_error.mp thrown with lockFailed | ⟨order, _, locked, thrown⟩
  · exact run_lockOrder_error lockFailed
  rcases run_lockOrder_eq_ok.mp locked with ⟨sameOrder, rfl, rfl⟩
  rcases Transaction.run_bind_eq_error.mp thrown with notFound | ⟨offer, _, found, thrown⟩
  · exact run_resolveOffer_error notFound
  rcases run_resolveOffer_eq_ok.mp found with ⟨resolved, rfl⟩
  rw [Transaction.run_get_bind] at thrown
  rcases Transaction.run_bind_eq_error.mp thrown with refused | ⟨result, _, decided, thrown⟩
  · rw [Transaction.run_liftM_eq_error] at refused
    exact OrderStateMachine.transition_error_isRefusal refused
  rcases Transaction.run_liftM_eq_ok.mp decided with ⟨decision, rfl⟩
  rcases OrderStateMachine.transition_eq_ok_iff.mp decision with ⟨_, _, _, handled, _⟩
  rw [buildEvent_type] at handled
  rcases run_applyEffects_of_update (written_eq_after handled).1 with ⟨⟨updates, next⟩, wrote⟩
  rw [Transaction.run_bind_of_ok wrote] at thrown
  cases thrown

end OrderTransitionService

end MyBuild
