import Mathlib.Data.List.Forall2
import MyBuild.Orders.TransitionService

/-!
# Who is told of a transition

Each handler of the state machine builds its own list of effects.  Read as a whole, the
list pairs every offer whose status it sets with one notification, to the party that did
not act: the company of the offer when the client acted or the offer lost, and the client
when a company acted.
-/

namespace MyBuild

structure StatusChange where
  offer : OfferOwner
  status : OfferStatus
  deriving DecidableEq

/-- A notification without its texts. -/
structure NoticeOf where
  userId : Uuid
  type : NotificationType
  collapseKey : Option String
  deriving DecidableEq

def StatusChange.toUpdate (change : StatusChange) : OfferStatusUpdate :=
  { offerId := change.offer.offerId, companyId := change.offer.companyId, status := change.status }

def NotificationDraft.toNotice (draft : NotificationDraft) : NoticeOf :=
  { userId := draft.userId, type := draft.type, collapseKey := draft.collapseKey }

namespace OrderSideEffect

def statusChange? : OrderSideEffect → Option StatusChange
  | setOfferStatus offerId companyId status => some ⟨⟨offerId, companyId⟩, status⟩
  | _ => none

def notice? : OrderSideEffect → Option NoticeOf
  | createNotification userId type _ _ collapseKey => some ⟨userId, type, collapseKey⟩
  | _ => none

end OrderSideEffect

/-- The offers whose status the effects set, in order. -/
def statusChanges (effects : List OrderSideEffect) : List StatusChange :=
  effects.filterMap (·.statusChange?)

/-- The notifications the effects create, in order. -/
def noticesOf (effects : List OrderSideEffect) : List NoticeOf :=
  effects.filterMap (·.notice?)

/-- The company of the offer brings the event about, and not the client. -/
def OrderEventType.companyActs : OrderEventType → Bool
  | .offerSubmitted | .offerWithdrawn | .workSubmitted => true
  | .offerRejected | .offerAccepted | .workConfirmed | .workDisputed => false

/-- The event is about the offer itself and not about the work. -/
def OrderEventType.aboutOffer : OrderEventType → Bool
  | .offerSubmitted | .offerWithdrawn | .offerRejected | .offerAccepted => true
  | .workSubmitted | .workConfirmed | .workDisputed => false

namespace OrderEvent

def offer : OrderEvent → OfferOwner
  | offerSubmitted offer .. | offerWithdrawn offer .. | offerRejected offer ..
  | offerAccepted offer .. | workSubmitted offer _ | workConfirmed offer ..
  | workDisputed offer .. => offer

/-- The offers that lose when the event goes through. -/
def rivals : OrderEvent → List OfferOwner
  | offerAccepted _ _ _ _ _ _ _ otherOffers => otherOffers
  | _ => []

end OrderEvent

/-- The status the event gives its offer. -/
def OrderEventType.offerStatus : OrderEventType → OfferStatus
  | .offerSubmitted => .sent
  | .offerWithdrawn => .withdrawn
  | .offerRejected => .rejected
  | .offerAccepted => .accepted
  | .workSubmitted => .workSubmitted
  | .workConfirmed => .completed
  | .workDisputed => .backForOverride

/-- What its addressee reads about an offer that has come into the status. -/
def noticeType : OfferStatus → NotificationType
  | .sent => .offerReceived
  | .withdrawn => .offerWithdrawn
  | .rejected => .offerRejected
  | .accepted => .offerAccepted
  | .notAccepted => .offerNotAccepted
  | .workSubmitted => .workSubmitted
  | .completed => .workConfirmed
  | .backForOverride => .workDisputed

/-- The notification tells the party that did not act of the change. -/
structure Tells (context : OrderStateContext) (event : OrderEventType) (change : StatusChange)
    (notice : NoticeOf) : Prop where
  addressee : notice.userId =
    if event.companyActs then context.clientId else change.offer.companyId
  type : notice.type = noticeType change.status
  key : notice.collapseKey =
    if event.aboutOffer then some (notificationKeys.offer change.offer.offerId) else none

variable {context : OrderStateContext} {event : OrderEvent} {result : OrderTransitionResult}

theorem exists_change_of_tells {changes : List StatusChange} {notices : List NoticeOf}
    {type : OrderEventType} {notice : NoticeOf}
    (tells : List.Forall₂ (Tells context type) changes notices) (mem : notice ∈ notices) :
    ∃ change ∈ changes, Tells context type change notice := by
  induction tells with
  | nil => cases mem
  | cons pair rest ih =>
      rcases List.mem_cons.mp mem with rfl | later
      · exact ⟨_, List.mem_cons_self, pair⟩
      · rcases ih later with ⟨change, changeMem, told⟩
        exact ⟨change, List.mem_cons_of_mem _ changeMem, told⟩

theorem statusChanges_append (first second : List OrderSideEffect) :
    statusChanges (first ++ second) = statusChanges first ++ statusChanges second :=
  List.filterMap_append

theorem noticesOf_append (first second : List OrderSideEffect) :
    noticesOf (first ++ second) = noticesOf first ++ noticesOf second :=
  List.filterMap_append

/-- The rows of `WriteSet` are the effects, table by table. -/
theorem foldl_addEffect (orderId : Uuid) (effects : List OrderSideEffect) (writes : WriteSet) :
    (effects.foldl (WriteSet.addEffect orderId) writes).orderData.status =
        writes.orderData.status ∧
      (effects.foldl (WriteSet.addEffect orderId) writes).offerUpdates =
        writes.offerUpdates ++ (statusChanges effects).map StatusChange.toUpdate ∧
      (effects.foldl (WriteSet.addEffect orderId) writes).notificationsToCreate.map
          NotificationDraft.toNotice =
        writes.notificationsToCreate.map NotificationDraft.toNotice ++ noticesOf effects := by
  induction effects generalizing writes with
  | nil => simp [statusChanges, noticesOf]
  | cons effect effects ih =>
      rcases ih (writes.addEffect orderId effect) with ⟨status, updates, notices⟩
      rw [List.foldl_cons, status, updates, notices]
      cases effect <;> simp [WriteSet.addEffect, statusChanges, noticesOf,
        OrderSideEffect.statusChange?, OrderSideEffect.notice?, StatusChange.toUpdate,
        NotificationDraft.toNotice]

/-- Every rival in turn loses and is told so. -/
def rivalEffects (context : OrderStateContext) (rivals : List OfferOwner) :
    List OrderSideEffect :=
  rivals.flatMap fun rival =>
    [setOfferStatus rival .notAccepted,
      notify rival.companyId .offerNotAccepted
        (orderRef context.orderNumber context.title ++ ": клиент выбрал другое предложение")
        (some (notificationKeys.offer rival.offerId))]

theorem statusChanges_rivals (rivals : List OfferOwner) :
    statusChanges (rivalEffects context rivals) =
      rivals.map fun rival => ⟨rival, .notAccepted⟩ := by
  induction rivals with
  | nil => rfl
  | cons rival rivals ih =>
      rw [rivalEffects, List.flatMap_cons, statusChanges_append, ← rivalEffects, ih]
      rfl

theorem noticesOf_rivals (rivals : List OfferOwner) :
    noticesOf (rivalEffects context rivals) =
      rivals.map fun rival =>
        ⟨rival.companyId, .offerNotAccepted, some (notificationKeys.offer rival.offerId)⟩ := by
  induction rivals with
  | nil => rfl
  | cons rival rivals ih =>
      rw [rivalEffects, List.flatMap_cons, noticesOf_append, ← rivalEffects, ih]
      rfl

/-- A handler sets its own offer, and on an accept every rival, and nothing else. -/
theorem statusChanges_handled {nextStatus : OrderStatus} {effects : List OrderSideEffect}
    (handled : handlerOf event.type context event = .ok (nextStatus, effects)) :
    statusChanges effects =
      ⟨event.offer, event.type.offerStatus⟩ ::
        event.rivals.map fun rival => ⟨rival, .notAccepted⟩ := by
  cases event with
  | offerAccepted offer offerStatus price deadline today editedAt seen rivals =>
      cases handled
      exact congrArg _ (statusChanges_rivals rivals)
  | _ =>
      cases handled
      rfl

theorem tells_handled {nextStatus : OrderStatus} {effects : List OrderSideEffect}
    (handled : handlerOf event.type context event = .ok (nextStatus, effects)) :
    List.Forall₂ (Tells context event.type) (statusChanges effects) (noticesOf effects) := by
  rw [statusChanges_handled handled]
  cases event with
  | offerAccepted offer offerStatus price deadline today editedAt seen rivals =>
      have notices : noticesOf effects =
          ⟨offer.companyId, .offerAccepted, some (notificationKeys.offer offer.offerId)⟩ ::
            noticesOf (rivalEffects context rivals) := by
        cases handled
        rfl
      rw [notices, noticesOf_rivals]
      refine .cons ⟨rfl, rfl, rfl⟩ ?_
      rw [List.forall₂_map_left_iff, List.forall₂_map_right_iff]
      apply List.forall₂_same.mpr
      intro rival _
      exact ⟨rfl, rfl, rfl⟩
  | _ =>
      cases handled
      exact .cons ⟨rfl, rfl, rfl⟩ .nil

end MyBuild
