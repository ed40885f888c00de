import MyBuild.Library.Transaction
import MyBuild.Shared.Offers

/-!
# The rows of one order

The tables an order's requests read and write, cut down to the rows that belong to
one order.  A query `where orderId` reads a whole list here; a query of Prisma that
gives no order finds the first row of it.  Every request takes the order's row lock
first, so its transaction is a computation over `OrderTables` that either returns or
throws an `ApiException` and leaves the rows as they were.
-/

namespace MyBuild

structure User where
  role : Role
  email : String
  firstName : String
  lastName : Option String
  phone : String
  companyName : Option String
  city : Option String
  country : Option String
  deriving DecidableEq

structure Order where
  id : Uuid
  orderNumber : ℕ
  clientId : Uuid
  title : String
  category : OrderCategory
  objectType : ObjectType
  description : String
  address : String
  squareMeters : Decimal
  verifiedSquareMeters : Option Decimal
  clientBudget : Option Decimal
  desiredStartDate : Option Date
  price : Option Decimal
  deadline : Option Date
  status : OrderStatus
  clientCompletionComment : Option String
  correctionComment : Option String
  createdAt : Date
  updatedAt : Date
  deriving DecidableEq

/-- One company's offer on the order; `editedAt` is set when the terms are written again. -/
structure Offer where
  id : Uuid
  orderId : Uuid
  companyId : Uuid
  status : OfferStatus
  comment : Option String
  proposedPrice : Decimal
  proposedDeadline : Date
  createdAt : Date
  editedAt : Option Date
  updatedAt : Date
  rejectionCount : ℕ
  deriving DecidableEq

/-- One submission of the work; it is open while `submittedAt` is null. -/
structure OrderSubmission where
  id : Uuid
  round : ℕ
  comment : String
  submittedAt : Option Date
  createdAt : Date
  deriving DecidableEq

structure OrderFile where
  id : Uuid
  orderId : Uuid
  storageKey : String
  ownerType : FileOwnerType
  submissionRound : ℕ
  fileHash : String
  originalName : String
  mimeType : String
  sizeBytes : ℕ
  createdAt : Date
  deriving DecidableEq

structure Notification where
  id : Uuid
  userId : Uuid
  type : NotificationType
  orderId : Option Uuid
  title : String
  body : Option String
  isRead : Bool
  collapseKey : Option String
  createdAt : Date
  deriving DecidableEq

/-- The rows of one order. -/
structure OrderTables where
  order : Order
  offers : List Offer
  submissions : List OrderSubmission
  files : List OrderFile
  notifications : List Notification
  deriving DecidableEq

/-- The keys of the tables: identifiers are unique, a company has one offer on the order, and
every offer belongs to the order. -/
structure OrderTables.WellKeyed (tables : OrderTables) : Prop where
  offerIds : (tables.offers.map Offer.id).Nodup
  companies : (tables.offers.map Offer.companyId).Nodup
  orderIds : ∀ offer ∈ tables.offers, offer.orderId = tables.order.id
  submissionIds : (tables.submissions.map OrderSubmission.id).Nodup

/-- What a request takes from outside the order's rows: the profiles, the clock of its
transaction, and the identifiers the database generates for the rows it inserts. -/
structure Environment where
  users : Uuid → User
  now : Date
  offerId : Uuid
  submissionId : Uuid
  fileId : ℕ → Uuid
  notificationId : ℕ → Uuid

inductive ApiException where
  | badRequest (message : String)
  | forbidden (message : String)
  | notFound (message : String)
  | conflict (message : String)
  | invalidStateTransition (fromStatus : OrderStatus) (event : OrderEventType)
  | invalidOfferStatus (offerStatus : OfferStatus) (event : OrderEventType)
  | offerExpired
  | offerChanged
  | offerFinallyRejected
  | insufficientStorage (message : String)
  | internal (message : String)
  deriving DecidableEq, Repr

namespace ApiException

def statusCode : ApiException → ℕ
  | badRequest _ => 400
  | forbidden _ => 403
  | notFound _ => 404
  | conflict _ | invalidStateTransition _ _ | invalidOfferStatus _ _ | offerExpired
  | offerChanged | offerFinallyRejected => 409
  | insufficientStorage _ => 507
  | internal _ => 500

def message : ApiException → String
  | badRequest message | forbidden message | notFound message | conflict message
  | insufficientStorage message => message
  | invalidStateTransition _ event =>
      "Действие «" ++ orderEventLabels event ++ "» сейчас недоступно для этого заказа. " ++
        "Обновите страницу — состояние могло измениться."
  | invalidOfferStatus offerStatus event =>
      "Действие «" ++ orderEventLabels event ++ "» недоступно: " ++
        "предложение в статусе «" ++ offerStatusLabels offerStatus ++ "»."
  | offerExpired =>
      "Срок выполнения в этом предложении уже прошёл. Принять его нельзя — " ++
        "компания может обновить предложение с новым сроком."
  | offerChanged =>
      "Компания изменила предложение, пока вы его смотрели. " ++
        "Проверьте новые условия и примите заново."
  | offerFinallyRejected =>
      "Клиент дважды отклонил ваше предложение — прислать его снова нельзя."
  | internal _ => "Внутренняя ошибка сервера"

/-- Refused as forbidden, not found or conflicting with the state. -/
def isRefusal (exception : ApiException) : Bool :=
  [403, 404, 409].contains exception.statusCode

end ApiException

abbrev OrderTx (α : Type) := Transaction.Tx OrderTables ApiException α

def lockOrder (orderId : Uuid) : OrderTx Order := do
  let tables ← get
  if tables.order.id = orderId then return tables.order
  else throw (.notFound "Заказ не найден")

theorem run_lockOrder_eq_ok {orderId : Uuid} {tables next : OrderTables} {order : Order} :
    (lockOrder orderId).run tables = .ok (order, next) ↔
      orderId = tables.order.id ∧ order = tables.order ∧ next = tables := by
  simp only [lockOrder]
  rw [Transaction.run_get_bind]
  by_cases found : tables.order.id = orderId
  · rw [if_pos found, Transaction.run_pure_eq_ok, Prod.mk.injEq]
    simp [found]
  · rw [if_neg found, Transaction.run_throw]
    simp [Ne.symm found]

theorem run_lockOrder_error {orderId : Uuid} {tables : OrderTables} {error : ApiException}
    (thrown : (lockOrder orderId).run tables = .error error) : error.isRefusal = true := by
  simp only [lockOrder] at thrown
  rw [Transaction.run_get_bind] at thrown
  split at thrown
  · cases thrown
  · cases thrown
    rfl

def exampleMoment : Date := ⟨5, by decide⟩

def exampleEnvironment (offerId : Uuid) : Environment :=
  { users := fun _ =>
      { role := .company, email := "", firstName := "Анна", lastName := none, phone := ""
        companyName := none, city := none, country := none }
    now := exampleMoment
    offerId
    submissionId := ⟨50⟩
    fileId := fun index => ⟨60 + index⟩
    notificationId := fun index => ⟨70 + index⟩ }

end MyBuild
