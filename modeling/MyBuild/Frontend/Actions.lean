import Mathlib.Data.List.Dedup
import Mathlib.Data.List.Sort
import MyBuild.Shared.Types

/-!
# What the page of an order offers

The interface decides from the answer of the server alone: who looks at the order, which
rounds the work has, and which actions there are for the client and for the company.
-/

namespace MyBuild

structure OrderDetailAccess where
  isOwner : Bool
  isParty : Bool
  seesRealStatus : Bool
  clientFiles : List OrderFileDto

def resolveOrderDetailAccess (order : OrderDetail) (viewerId : Option Uuid) :
    OrderDetailAccess :=
  let isOwner := viewerId.isSome && order.client.map OrderClient.id == viewerId
  let ownOffer := order.offers.find? (some ·.companyId == viewerId)
  { isOwner
    isParty := isOwner || ownOffer.any (isExecutorOffer ·.status)
    seesRealStatus := isOwner || ownOffer.any (isActiveOffer ·.status)
    clientFiles := order.files.filter (·.ownerType == .client) }

structure SubmissionView where
  round : ℕ
  comment : String
  submittedAt : Option IsoDateString
  files : List OrderFileDto

structure SubmissionsView where
  latest : Option SubmissionView
  history : List SubmissionView
  open_ : Option SubmissionView

def filesByRound (order : OrderDetail) (round : ℕ) : List OrderFileDto :=
  order.files.filter fun file => file.ownerType == .company && file.submissionRound == round

/-- The numbers of the rounds, from the submissions and from the files alike. -/
def submissionRounds (order : OrderDetail) : List ℕ :=
  (order.submissions.map OrderSubmissionDto.round ++
    (order.files.filter (·.ownerType == .company)).map OrderFileDto.submissionRound).dedup

def submissionView (order : OrderDetail) (round : ℕ) : SubmissionView :=
  let submission := order.submissions.find? (·.round == round)
  { round
    comment := (submission.map OrderSubmissionDto.comment).getD ""
    submittedAt := submission.bind OrderSubmissionDto.submittedAt
    files := filesByRound order round }

def resolveSubmissions (order : OrderDetail) : SubmissionsView :=
  let views := ((submissionRounds order).insertionSort (· ≤ ·)).map (submissionView order)
  let latest := views.getLast?
  { latest
    history := views.dropLast.reverse
    open_ := latest.filter (·.submittedAt.isNone) }

structure OfferDecision where
  offer : OfferDto
  canAccept : Bool
  canReject : Bool
  expired : Bool

structure OrderClientActions where
  decisions : List OfferDecision
  executorOffer : Option OfferDto
  canConfirmWork : Bool
  canDisputeWork : Bool

def offerDecision (order : OrderDetail) (today : String) (offer : OfferDto) : OfferDecision :=
  let expired := isOfferExpired offer.proposedDeadline today
  { offer
    canAccept := !expired && canTransition order.status .offerAccepted (some offer.status)
    canReject := canTransition order.status .offerRejected (some offer.status)
    expired }

def resolveClientActions (order : OrderDetail) (access : OrderDetailAccess) (today : String) :
    OrderClientActions :=
  if !access.isOwner then
    { decisions := [], executorOffer := none, canConfirmWork := false, canDisputeWork := false }
  else
    let executorOffer := order.offers.find? (isExecutorOffer ·.status)
    { decisions := (order.offers.filter (isPendingOffer ·.status)).map (offerDecision order today)
      executorOffer
      canConfirmWork := executorOffer.any fun offer =>
        canTransition order.status .workConfirmed (some offer.status)
      canDisputeWork := executorOffer.any fun offer =>
        canTransition order.status .workDisputed (some offer.status) }

structure OrderCompanyActions where
  ownOffer : Option OfferDto
  isExecutor : Bool
  canSubmitOffer : Bool
  canAddFiles : Bool
  canSubmitWork : Bool
  canVerifyArea : Bool

def nothingForCompany : OrderCompanyActions :=
  { ownOffer := none, isExecutor := false, canSubmitOffer := false, canAddFiles := false
    canSubmitWork := false, canVerifyArea := false }

def resolveCompanyActions (order : OrderDetail) (access : OrderDetailAccess)
    (submissions : SubmissionsView) (viewerId : Option Uuid) : OrderCompanyActions :=
  if access.isOwner || viewerId.isNone then nothingForCompany
  else
    let canSubmitOffer := order.canSubmitOffer
    match order.offers.find? (some ·.companyId == viewerId) with
    | none => { nothingForCompany with canSubmitOffer }
    | some ownOffer =>
        if !isExecutorOffer ownOffer.status then
          { nothingForCompany with ownOffer := some ownOffer, canSubmitOffer }
        else
          { ownOffer := some ownOffer
            isExecutor := true
            canSubmitOffer
            canAddFiles := canUploadWork order.status
            canSubmitWork :=
              canTransition order.status .workSubmitted (some ownOffer.status) &&
                submissions.open_.any fun view => 0 < view.files.length
            canVerifyArea := canVerifyArea order.status }

/-- The form of an offer: on the company's own card to change or to send it again, on a card of
its own while the company has none. -/
def OrderCompanyActions.showsOfferForm (actions : OrderCompanyActions) : Bool :=
  match actions.ownOffer with
  | some offer =>
      isPendingOffer offer.status || (actions.canSubmitOffer && !isPendingOffer offer.status)
  | none => actions.canSubmitOffer

/-- The company's own offer, while it can be changed or withdrawn. -/
def OrderCompanyActions.pendingOffer (actions : OrderCompanyActions) : Option OfferDto :=
  actions.ownOffer.filter (isPendingOffer ·.status)

def showsDelete (order : OrderDetail) (access : OrderDetailAccess) : Bool :=
  access.isOwner && canDeleteOrder order.status

/-- What the interface sends with an acceptance: the version of the offer it shows. -/
structure AcceptOfferDto where
  offerEditedAt : Option IsoDateString

def acceptOfferBody (offer : OfferDto) : AcceptOfferDto :=
  { offerEditedAt := offer.editedAt }

end MyBuild
