import MyBuild.Shared.Offers

/-!
# The shapes of the answers

What the server sends and the interface reads.  Amounts and dates travel as text, an
absent value is sent as `null`; the columns of the tables that never leave the server
have no field here.
-/

namespace MyBuild

abbrev IsoDateString := String

abbrev MoneyString := String

/-- A file of an order, without its place in the storage. -/
structure OrderFileDto where
  id : Uuid
  orderId : Uuid
  ownerType : FileOwnerType
  submissionRound : ℕ
  originalName : String
  mimeType : String
  sizeBytes : ℕ
  createdAt : IsoDateString
  deriving DecidableEq

structure OrderSubmissionDto where
  round : ℕ
  comment : String
  submittedAt : Option IsoDateString
  createdAt : IsoDateString
  deriving DecidableEq

structure OfferDto where
  id : Uuid
  orderId : Uuid
  companyId : Uuid
  companyName : String
  status : OfferStatus
  proposedPrice : MoneyString
  proposedDeadline : IsoDateString
  comment : Option String
  createdAt : IsoDateString
  editedAt : Option IsoDateString
  updatedAt : IsoDateString
  rejectionCount : ℕ
  deriving DecidableEq

structure OrderListItem where
  id : Uuid
  orderNumber : ℕ
  title : String
  status : OrderStatus
  category : OrderCategory
  objectType : ObjectType
  clientBudget : Option MoneyString
  price : Option MoneyString
  deadline : Option IsoDateString
  contractorName : Option String
  createdAt : IsoDateString
  deriving DecidableEq

/-- A row of the feed of available orders. -/
structure AvailableOrderItem extends OrderListItem where
  ownOffer : Option OfferDto
  deriving DecidableEq

structure OrderClient where
  id : Uuid
  firstName : String
  lastName : Option String
  city : Option String
  country : Option String
  email : String
  phone : String
  deriving DecidableEq

/-- The whole card of an order; what is in it depends on who looks. -/
structure OrderDetail extends OrderListItem where
  description : String
  address : String
  squareMeters : Decimal
  verifiedSquareMeters : Option Decimal
  desiredStartDate : Option IsoDateString
  clientCompletionComment : Option String
  correctionComment : Option String
  updatedAt : IsoDateString
  client : Option OrderClient
  offers : List OfferDto
  files : List OrderFileDto
  filesSizeBytes : Option ℕ
  submissions : List OrderSubmissionDto
  canSubmitOffer : Bool
  deriving DecidableEq

end MyBuild
