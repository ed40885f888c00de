import MyBuild.Orders.Notification

/-!
# The order state machine

A pure function from the order's snapshot and an event to the next status and the
effects to write.  Which events a status allows is the table of `Shared.Offers`;
the handlers here say what each of them does.  A refusal is one of the conflict
exceptions, checked in a fixed order: the status of the order, the status of the
offer, the cap on rejections, the offer's deadline, and the version of the offer the
client saw.
-/

namespace MyBuild

/-- The snapshot of the order a transition is decided on. -/
structure OrderStateContext where
  orderId : Uuid
  orderNumber : ℕ
  title : String
  clientId : Uuid
  status : OrderStatus

structure OfferOwner where
  offerId : Uuid
  companyId : Uuid
  deriving DecidableEq

/-- An event with all it carries.  A submitted offer comes with the status it had before it was
written, `none` when the request creates it. -/
inductive OrderEvent where
  | offerSubmitted (offer : OfferOwner) (offerStatus : Option OfferStatus) (rejectionCount : ℕ)
      (companyName : String)
  | offerWithdrawn (offer : OfferOwner) (offerStatus : OfferStatus) (otherActiveOffers : ℕ)
  | offerRejected (offer : OfferOwner) (offerStatus : OfferStatus) (otherActiveOffers : ℕ)
  | offerAccepted (offer : OfferOwner) (offerStatus : OfferStatus) (proposedPrice : String)
      (proposedDeadline : Date) (today : String) (offerEditedAt seenOfferEditedAt : Option String)
      (otherOffers : List OfferOwner)
  | workSubmitted (offer : OfferOwner) (offerStatus : OfferStatus)
  | workConfirmed (offer : OfferOwner) (offerStatus : OfferStatus)
      (completionComment : Option String)
  | workDisputed (offer : OfferOwner) (offerStatus : OfferStatus) (correctionComment : String)

namespace OrderEvent

def type : OrderEvent → OrderEventType
  | offerSubmitted .. => .offerSubmitted
  | offerWithdrawn .. => .offerWithdrawn
  | offerRejected .. => .offerRejected
  | offerAccepted .. => .offerAccepted
  | workSubmitted .. => .workSubmitted
  | workConfirmed .. => .workConfirmed
  | workDisputed .. => .workDisputed

def offerStatus : OrderEvent → Option OfferStatus
  | offerSubmitted _ status .. => status
  | offerWithdrawn _ status _ | offerRejected _ status _ | offerAccepted _ status ..
  | workSubmitted _ status | workConfirmed _ status _ | workDisputed _ status _ => some status

end OrderEvent

inductive OrderSideEffect where
  | setOfferStatus (offerId companyId : Uuid) (status : OfferStatus)
  | setOrderDeal (price : String) (deadline : Date)
  | setCorrectionComment (comment : String)
  | setCompletionComment (comment : Option String)
  | createNotification (userId : Uuid) (type : NotificationType) (title body : String)
      (collapseKey : Option String)

structure OrderTransitionResult where
  fromStatus : OrderStatus
  nextStatus : OrderStatus
  effects : List OrderSideEffect

/-- The next status and the effects of an event the status allows. -/
abbrev TransitionHandler :=
  OrderStateContext → OrderEvent → Except ApiException (OrderStatus × List OrderSideEffect)

def setOfferStatus (offer : OfferOwner) (status : OfferStatus) : OrderSideEffect :=
  .setOfferStatus offer.offerId offer.companyId status

def notify (userId : Uuid) (type : NotificationType) (body : String)
    (collapseKey : Option String) : OrderSideEffect :=
  .createNotification userId type (notificationTypeLabels type) body collapseKey

def unexpected (event : OrderEvent) : ApiException :=
  .internal ("Обработчик перехода вызван с событием " ++ reprStr event.type)

def offerSubmitted : TransitionHandler
  | context, .offerSubmitted offer _ _ companyName =>
      .ok (.awaitingConfirmation,
        [setOfferStatus offer .sent,
          notify context.clientId .offerReceived
            (orderRef context.orderNumber context.title ++ ": предложение от «" ++ companyName ++
              "»")
            (some (notificationKeys.offer offer.offerId))])
  | _, event => .error (unexpected event)

/-- Who is told that an offer left the selection. -/
inductive NoticeTarget where
  | client
  | company

/-- An offer left the selection: the order looks for an executor again when it was the last. -/
def offerLeftSelection (offerStatus : OfferStatus) (addressee : NoticeTarget)
    (type : NotificationType) (body : String) : TransitionHandler
  | context, .offerWithdrawn offer _ otherActiveOffers =>
      .ok (leave context offer otherActiveOffers)
  | context, .offerRejected offer _ otherActiveOffers =>
      .ok (leave context offer otherActiveOffers)
  | _, event => .error (unexpected event)
where
  leave (context : OrderStateContext) (offer : OfferOwner) (otherActiveOffers : ℕ) :
      OrderStatus × List OrderSideEffect :=
    (if 0 < otherActiveOffers then .awaitingConfirmation else .waiting,
      [setOfferStatus offer offerStatus,
        notify (match addressee with | .client => context.clientId | .company => offer.companyId)
          type (orderRef context.orderNumber context.title ++ ": " ++ body)
          (some (notificationKeys.offer offer.offerId))])

/-- The client accepted an offer: it gives the deal its terms, and every rival loses. -/
def offerAccepted : TransitionHandler
  | context, .offerAccepted offer _ proposedPrice proposedDeadline _ _ _ otherOffers =>
      .ok (.inProgress,
        [setOfferStatus offer .accepted,
          .setOrderDeal proposedPrice proposedDeadline,
          notify offer.companyId .offerAccepted
            (orderRef context.orderNumber context.title ++
              ": ваше предложение принято, можно приступать")
            (some (notificationKeys.offer offer.offerId))] ++
        otherOffers.flatMap fun rival =>
          [setOfferStatus rival .notAccepted,
            notify rival.companyId .offerNotAccepted
              (orderRef context.orderNumber context.title ++ ": клиент выбрал другое предложение")
              (some (notificationKeys.offer rival.offerId))])
  | _, event => .error (unexpected event)

def workSubmitted : TransitionHandler
  | context, .workSubmitted offer _ =>
      .ok (.awaitingCompletionConfirmation,
        [setOfferStatus offer .workSubmitted,
          notify context.clientId .workSubmitted
            (orderRef context.orderNumber context.title ++
              ": работа сдана и ждёт вашего подтверждения") none])
  | _, event => .error (unexpected event)

def workConfirmed : TransitionHandler
  | context, .workConfirmed offer _ completionComment =>
      .ok (.completed,
        [setOfferStatus offer .completed,
          .setCompletionComment completionComment,
          notify offer.companyId .workConfirmed
            (orderRef context.orderNumber context.title ++ ": клиент принял работу") none])
  | _, event => .error (unexpected event)

def workDisputed : TransitionHandler
  | context, .workDisputed offer _ correctionComment =>
      .ok (.completionDisputed,
        [setOfferStatus offer .backForOverride,
          .setCorrectionComment correctionComment,
          notify offer.companyId .workDisputed
            (orderRef context.orderNumber context.title ++
              ": клиент отправил работу на доработку") none])
  | _, event => .error (unexpected event)

def handlerFor : OrderStatus → OrderEventType → Option TransitionHandler
  | .waiting, .offerSubmitted => some offerSubmitted
  | .awaitingConfirmation, .offerSubmitted => some offerSubmitted
  | .awaitingConfirmation, .offerWithdrawn =>
      some (offerLeftSelection .withdrawn .client .offerWithdrawn
        "компания отозвала своё предложение")
  | .awaitingConfirmation, .offerRejected =>
      some (offerLeftSelection .rejected .company .offerRejected "ваше предложение отклонено")
  | .awaitingConfirmation, .offerAccepted => some offerAccepted
  | .inProgress, .workSubmitted => some workSubmitted
  | .awaitingCompletionConfirmation, .workConfirmed => some workConfirmed
  | .awaitingCompletionConfirmation, .workDisputed => some workDisputed
  | .completionDisputed, .workSubmitted => some workSubmitted
  | _, _ => none

namespace OrderStateMachine

def assertOfferStatus (event : OrderEvent) : Except ApiException Unit :=
  match event.offerStatus with
  | some offerStatus =>
      if offerStatus ∈ offerPreconditions event.type then .ok ()
      else .error (.invalidOfferStatus offerStatus event.type)
  | none => .ok ()

/-- The refusals that depend on what the event carries. -/
def assertTerms : OrderEvent → Except ApiException Unit
  | .offerSubmitted _ offerStatus rejectionCount _ =>
      if isFinallyRejected offerStatus rejectionCount then .error .offerFinallyRejected else .ok ()
  | .offerAccepted _ _ _ proposedDeadline today offerEditedAt seenOfferEditedAt _ =>
      if isOfferExpired proposedDeadline.toISOString today then .error .offerExpired
      else if offerEditedAt ≠ seenOfferEditedAt then .error .offerChanged
      else .ok ()
  | _ => .ok ()

/-- Compute a transition, or refuse it. -/
def transition (context : OrderStateContext) (event : OrderEvent) :
    Except ApiException OrderTransitionResult := do
  match handlerFor context.status event.type with
  | none => throw (.invalidStateTransition context.status event.type)
  | some handler =>
      if !canTransition context.status event.type none then
        throw (.invalidStateTransition context.status event.type)
      assertOfferStatus event
      assertTerms event
      let (nextStatus, effects) ← handler context event
      return { fromStatus := context.status, nextStatus, effects }

end OrderStateMachine

def handlerOf : OrderEventType → TransitionHandler
  | .offerSubmitted => offerSubmitted
  | .offerWithdrawn =>
      offerLeftSelection .withdrawn .client .offerWithdrawn "компания отозвала своё предложение"
  | .offerRejected =>
      offerLeftSelection .rejected .company .offerRejected "ваше предложение отклонено"
  | .offerAccepted => offerAccepted
  | .workSubmitted => workSubmitted
  | .workConfirmed => workConfirmed
  | .workDisputed => workDisputed

/-- There is a handler for every event of the transition table and for no other. -/
theorem handlerFor_eq (status : OrderStatus) (event : OrderEventType) :
    handlerFor status event =
      if event ∈ orderTransitions status then some (handlerOf event) else none := by
  cases status <;> cases event <;> rfl

/-- Dispatched by its own type, an event never reaches `unexpected`. -/
theorem handlerOf_total (context : OrderStateContext) (event : OrderEvent) :
    ∃ outcome, handlerOf event.type context event = .ok outcome := by
  cases event <;> exact ⟨_, rfl⟩

namespace OrderStateMachine

variable {context : OrderStateContext} {event : OrderEvent} {result : OrderTransitionResult}

theorem transition_eq_ok_iff :
    transition context event = .ok result ↔
      event.type ∈ orderTransitions context.status ∧ assertOfferStatus event = .ok () ∧
        assertTerms event = .ok () ∧
        handlerOf event.type context event = .ok (result.nextStatus, result.effects) ∧
        result.fromStatus = context.status := by
  simp only [transition]
  rw [handlerFor_eq]
  by_cases allowed : event.type ∈ orderTransitions context.status
  · rcases handlerOf_total context event with ⟨⟨nextStatus, effects⟩, handled⟩
    rcases result with ⟨fromStatus, next, written⟩
    cases assertOfferStatus event with
    | error _ => simp [allowed, canTransition, bind, Except.bind]
    | ok _ =>
        cases assertTerms event with
        | error _ => simp [allowed, canTransition, bind, Except.bind]
        | ok _ =>
            simp [allowed, handled, canTransition, bind, Except.bind, pure, Except.pure]
            grind
  · simp [allowed, throw, throwThe, MonadExceptOf.throw]

theorem assertOfferStatus_eq_ok_iff :
    assertOfferStatus event = .ok () ↔
      ∀ offerStatus, event.offerStatus = some offerStatus →
        offerStatus ∈ offerPreconditions event.type := by
  simp only [assertOfferStatus]
  cases event.offerStatus with
  | none => simp
  | some offerStatus =>
      by_cases allowed : offerStatus ∈ offerPreconditions event.type <;> simp [allowed]

theorem assertOfferStatus_error {error : ApiException}
    (thrown : assertOfferStatus event = .error error) : error.isRefusal = true := by
  simp only [assertOfferStatus] at thrown
  split at thrown
  · split at thrown
    · cases thrown
    · cases thrown
      rfl
  · cases thrown

theorem assertTerms_error {error : ApiException} (thrown : assertTerms event = .error error) :
    error.isRefusal = true := by
  simp only [assertTerms] at thrown
  split at thrown
  · split at thrown <;> cases thrown
    rfl
  · split at thrown
    · cases thrown
      rfl
    · split at thrown <;> cases thrown
      rfl
  · cases thrown

theorem transition_error_isRefusal {error : ApiException}
    (thrown : transition context event = .error error) : error.isRefusal = true := by
  simp only [transition] at thrown
  rw [handlerFor_eq] at thrown
  by_cases allowed : event.type ∈ orderTransitions context.status
  · rcases handlerOf_total context event with ⟨⟨nextStatus, effects⟩, handled⟩
    cases statusCheck : assertOfferStatus event with
    | error refusal =>
        simp [allowed, statusCheck, canTransition, bind, Except.bind] at thrown
        rw [← thrown]
        exact assertOfferStatus_error statusCheck
    | ok _ =>
        cases termsCheck : assertTerms event with
        | error refusal =>
            simp [allowed, statusCheck, termsCheck, canTransition, bind, Except.bind] at thrown
            rw [← thrown]
            exact assertTerms_error termsCheck
        | ok _ =>
            simp [allowed, statusCheck, termsCheck, handled, canTransition, bind, Except.bind,
              pure, Except.pure] at thrown
  · rw [if_neg allowed] at thrown
    cases thrown
    rfl

end OrderStateMachine

end MyBuild
