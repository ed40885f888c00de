import MyBuild.Orders.Tables
import MyBuild.Shared.Types

/-!
# An order as a given user sees it

Pure functions from the rows to the answer.  What a user may see follows from how it is
related to the order, not from its role: the owner and the executor are the parties of
the deal, a company with an active offer sees the progress, everyone else the task.
-/

namespace MyBuild

structure OfferRow extends Offer where
  companyName : Option String
  deriving DecidableEq

structure OrderRow where
  id : Uuid
  orderNumber : ℕ
  clientId : Uuid
  title : String
  status : OrderStatus
  category : OrderCategory
  objectType : ObjectType
  clientBudget : Option Decimal
  price : Option Decimal
  deadline : Option Date
  createdAt : Date
  offers : List OfferRow

structure SubmissionRow where
  round : ℕ
  comment : String
  submittedAt : Option Date
  createdAt : Date

structure OrderDetailRow extends OrderRow where
  description : String
  address : String
  squareMeters : Decimal
  verifiedSquareMeters : Option Decimal
  desiredStartDate : Option Date
  clientCompletionComment : Option String
  correctionComment : Option String
  updatedAt : Date
  client : OrderClient
  files : List OrderFileDto
  submissions : List SubmissionRow

/-- What a user may see of an order. -/
structure OrderVisibility where
  isOwner : Bool
  ownOffer : Option OfferRow
  executorOffer : Option OfferRow
  seesProgress : Bool
  isParty : Bool

def resolveVisibility (order : OrderRow) (viewer : Uuid) : OrderVisibility :=
  let isOwner := order.clientId == viewer
  let ownOffer := order.offers.find? (·.companyId == viewer)
  let executorOffer := order.offers.find? (isExecutorOffer ·.status)
  let isExecutor := ownOffer.any (isExecutorOffer ·.status)
  { isOwner
    ownOffer
    executorOffer
    seesProgress := isOwner || ownOffer.any (isActiveOffer ·.status)
    isParty := isOwner || isExecutor }

def toMoney (value : Option Decimal) : Option MoneyString :=
  value.map Decimal.toText

def toIso (value : Option Date) : Option IsoDateString :=
  value.map Date.toISOString

def toOrderListItem (order : OrderRow) (viewer : Uuid) : OrderListItem :=
  let view := resolveVisibility order viewer
  { id := order.id
    orderNumber := order.orderNumber
    title := order.title
    status := if view.seesProgress then order.status else .waiting
    category := order.category
    objectType := order.objectType
    clientBudget := toMoney order.clientBudget
    price := if view.seesProgress then toMoney order.price else none
    deadline := if view.seesProgress then toIso order.deadline else none
    contractorName := if view.isParty then view.executorOffer.bind OfferRow.companyName else none
    createdAt := order.createdAt.toISOString }

def toOfferDto (offer : OfferRow) : OfferDto :=
  { id := offer.id
    orderId := offer.orderId
    companyId := offer.companyId
    companyName := offer.companyName.getD ""
    status := offer.status
    proposedPrice := offer.proposedPrice.toText
    proposedDeadline := offer.proposedDeadline.toISOString
    comment := offer.comment
    createdAt := offer.createdAt.toISOString
    editedAt := toIso offer.editedAt
    updatedAt := offer.updatedAt.toISOString
    rejectionCount := offer.rejectionCount }

/-- A list row together with what the company has sent before, from which its form is filled. -/
def toAvailableOrderItem (order : OrderRow) (viewer : Uuid) : AvailableOrderItem :=
  { toOrderListItem order viewer with
    ownOffer := (resolveVisibility order viewer).ownOffer.map toOfferDto }

def toSubmissionDto (submission : SubmissionRow) : OrderSubmissionDto :=
  { round := submission.round
    comment := submission.comment
    submittedAt := toIso submission.submittedAt
    createdAt := submission.createdAt.toISOString }

/-- The files to show: all of them to the parties, the client's own to a company that may still
offer. -/
def visibleFiles (order : OrderDetailRow) (view : OrderVisibility) : List OrderFileDto :=
  if view.isParty then order.files
  else if !companySeesTaskFiles order.status (view.ownOffer.map fun offer => offer.status) then []
  else order.files.filter (·.ownerType == .client)

/-- The offers to show: to the owner those in play, to a company its own. -/
def visibleOffers (order : OrderRow) (view : OrderVisibility) : List OfferDto :=
  if view.isOwner then (order.offers.filter (isActiveOffer ·.status)).map toOfferDto
  else (view.ownOffer.map toOfferDto).toList

def toOrderDetail (order : OrderDetailRow) (viewer : Uuid) : OrderDetail :=
  let view := resolveVisibility order.toOrderRow viewer
  { toOrderListItem order.toOrderRow viewer with
    description := order.description
    address := order.address
    squareMeters := order.squareMeters
    verifiedSquareMeters := if view.seesProgress then order.verifiedSquareMeters else none
    desiredStartDate := toIso order.desiredStartDate
    clientCompletionComment := if view.isParty then order.clientCompletionComment else none
    correctionComment := if view.isParty then order.correctionComment else none
    updatedAt := (if view.seesProgress then order.updatedAt else order.createdAt).toISOString
    client := if view.isParty then some order.client else none
    offers := visibleOffers order.toOrderRow view
    files := visibleFiles order view
    filesSizeBytes :=
      if view.isParty then some (order.files.map OrderFileDto.sizeBytes).sum else none
    submissions := if view.isParty then order.submissions.map toSubmissionDto else []
    canSubmitOffer :=
      !view.isOwner &&
      canTransition order.status .offerSubmitted (view.ownOffer.map fun offer => offer.status) &&
      !view.ownOffer.any fun offer => isFinallyRejected (some offer.status) offer.rejectionCount }

end MyBuild
