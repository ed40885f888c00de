import MyBuild.Shared.Enums
import MyBuild.Shared.Values

/-!
# The rules both sides of an order share

Which statuses accept offers, work, files and deletion, who counts as the executor
of an order, and which event is allowed in which status.  The server decides by
these tables and the interface shows its buttons by the same ones.
-/

namespace MyBuild

def offerEligibleOrderStatuses : List OrderStatus := [.waiting, .awaitingConfirmation]

def resubmittableOfferStatuses : List OfferStatus := [.withdrawn, .rejected]

def executingOfferStatuses : List OfferStatus := [.accepted, .workSubmitted, .backForOverride]

def executorOfferStatuses : List OfferStatus := executingOfferStatuses ++ [.completed]

def activeOfferStatuses : List OfferStatus := .sent :: executorOfferStatuses

def isExecutorOffer (status : OfferStatus) : Bool := executorOfferStatuses.contains status

/-- The offer is still in play: it waits for the client's choice or was accepted. -/
def isActiveOffer (status : OfferStatus) : Bool := activeOfferStatuses.contains status

def acceptsOffers (status : OrderStatus) : Bool := offerEligibleOrderStatuses.contains status

/-- Whether a company with this offer (`none`: no offer) sees what the client attached. -/
def companySeesTaskFiles (orderStatus : OrderStatus) : Option OfferStatus → Bool
  | some offerStatus => isExecutorOffer offerStatus || acceptsOffers orderStatus
  | none => acceptsOffers orderStatus

def isPendingOffer (status : OfferStatus) : Bool := status == .sent

/-- After this many rejections a rejection is final. -/
def maxOfferRejections : ℕ := 2

def isFinallyRejected (status : Option OfferStatus) (rejectionCount : ℕ) : Bool :=
  status == some .rejected && maxOfferRejections ≤ rejectionCount

def utcCalendarDate (moment : Date) : String :=
  String.ofList (moment.toISOString.toList.take 10)

/-- The last day of the offer has passed; both dates are compared as texts. -/
def isOfferExpired (proposedDeadline today : String) : Bool :=
  decide (proposedDeadline.toList.take 10 < today.toList)

def deletableOrderStatuses : List OrderStatus := [.waiting, .awaitingConfirmation]

def canDeleteOrder (status : OrderStatus) : Bool := deletableOrderStatuses.contains status

def workUploadOrderStatuses : List OrderStatus := [.inProgress, .completionDisputed]

def areaVerifiableOrderStatuses : List OrderStatus :=
  [.inProgress, .awaitingCompletionConfirmation, .completionDisputed]

def canUploadWork (status : OrderStatus) : Bool := workUploadOrderStatuses.contains status

def canVerifyArea (status : OrderStatus) : Bool := areaVerifiableOrderStatuses.contains status

/-- The transition table: which events are allowed in which status. -/
def orderTransitions : OrderStatus → List OrderEventType
  | .waiting => [.offerSubmitted]
  | .awaitingConfirmation =>
      [.offerSubmitted, .offerWithdrawn, .offerRejected, .offerAccepted]
  | .inProgress => [.workSubmitted]
  | .awaitingCompletionConfirmation => [.workConfirmed, .workDisputed]
  | .completionDisputed => [.workSubmitted]
  | .completed => []

def offerPreconditions : OrderEventType → List OfferStatus
  | .offerSubmitted => .sent :: resubmittableOfferStatuses
  | .offerWithdrawn => [.sent]
  | .offerRejected => [.sent]
  | .offerAccepted => [.sent]
  | .workSubmitted => [.accepted, .backForOverride]
  | .workConfirmed => [.workSubmitted]
  | .workDisputed => [.workSubmitted]

/-- Whether an event is allowed; without an offer status only the order's status decides. -/
def canTransition (status : OrderStatus) (event : OrderEventType) :
    Option OfferStatus → Bool
  | none => (orderTransitions status).contains event
  | some offerStatus =>
      (orderTransitions status).contains event && (offerPreconditions event).contains offerStatus

theorem isActiveOffer_iff (status : OfferStatus) :
    isActiveOffer status = true ↔ status = .sent ∨ isExecutorOffer status = true := by
  cases status <;> decide

theorem isExecutorOffer_of_inactive {status : OfferStatus}
    (inactive : isActiveOffer status = false) : isExecutorOffer status = false := by
  cases status <;> revert inactive <;> decide

theorem isActiveOffer_of_mem_precondition {event : OrderEventType} {status : OfferStatus}
    (notSubmitted : event ≠ .offerSubmitted) (allowed : status ∈ offerPreconditions event) :
    isActiveOffer status = true := by
  cases event <;> cases status <;> first | rfl | exact absurd rfl notSubmitted |
    exact absurd allowed (by decide)

end MyBuild
