import MyBuild.Common.Pagination
import MyBuild.Common.Validators

/-!
# The queries of the lists

Every list of the server is asked for a page, and most for something more.  What is not given has
a default or asks for nothing; what is given and does not pass its checks is answered with the
errors of all properties.
-/

namespace MyBuild

def OrderStatus.value : OrderStatus → String
  | .waiting => "WAITING"
  | .awaitingConfirmation => "AWAITING_CONFIRMATION"
  | .inProgress => "IN_PROGRESS"
  | .awaitingCompletionConfirmation => "AWAITING_COMPLETION_CONFIRMATION"
  | .completed => "COMPLETED"
  | .completionDisputed => "COMPLETION_DISPUTED"

def OrderStatus.values : List OrderStatus :=
  [.waiting, .awaitingConfirmation, .inProgress, .awaitingCompletionConfirmation, .completed,
    .completionDisputed]

def OfferStatus.value : OfferStatus → String
  | .sent => "SENT"
  | .accepted => "ACCEPTED"
  | .rejected => "REJECTED"
  | .notAccepted => "NOT_ACCEPTED"
  | .withdrawn => "WITHDRAWN"
  | .workSubmitted => "WORK_SUBMITTED"
  | .completed => "COMPLETED"
  | .backForOverride => "BACK_FOR_OVERRIDE"

def OfferStatus.values : List OfferStatus :=
  [.sent, .accepted, .rejected, .notAccepted, .withdrawn, .workSubmitted, .completed,
    .backForOverride]

def FileOwnerType.value : FileOwnerType → String
  | .client => "CLIENT"
  | .company => "COMPANY"

def FileOwnerType.values : List FileOwnerType := [.client, .company]

namespace Validator

def isInt (message : Option String) : Validator (Option ℚ) :=
  { constraint := "isInt", check := fun number => number.any (·.den == 1), message }

def min (limit : ℚ) (message : Option String) : Validator (Option ℚ) :=
  { constraint := "min", check := fun number => number.any (limit ≤ ·), message }

def isIn (values : List String) (message : Option String) : Validator String :=
  { constraint := "isIn", check := values.contains, message }

end Validator

/-- The query of a request, every name given once at most. -/
abbrev ListQuery := String → Option String

abbrev QueryErrors := List (String × ConstraintError)

/-- A query that fails no check is handed on. -/
def receive {Dto : Type} (errors : QueryErrors) (dto : Dto) : Except QueryErrors Dto :=
  if errors.isEmpty then .ok dto else .error errors

structure PaginationQueryDto where
  page : Option ℕ
  pageSize : Option ℕ
  deriving DecidableEq

/-- The text is trimmed and not empty. -/
structure SearchQueryDto extends PaginationQueryDto where
  q : Option String
  deriving DecidableEq

structure ListOrdersQueryDto extends SearchQueryDto where
  status : Option OrderStatus
  deriving DecidableEq

structure ListCompanyOffersQueryDto extends PaginationQueryDto where
  status : Option OfferStatus
  executor : Option String
  deriving DecidableEq

structure ListNotificationsQueryDto extends PaginationQueryDto where
  unread : Option String
  deriving DecidableEq

structure ListDocumentsQueryDto extends PaginationQueryDto where
  ownerType : Option FileOwnerType
  orderId : Option String
  deriving DecidableEq

def MAX_SEARCH_LENGTH : ℕ := 200

/-- The values of `?unread=` and `?executor=`. -/
def booleanValues : List String := ["true", "false", "1", "0"]

variable (platform : Platform) (query : ListQuery)

namespace PaginationQueryDto

/-- `@Type(() => Number)`; what is no number is read as none. -/
def number (name : String) (default : ℕ) : Option ℚ :=
  (query name).elim (some default) platform.number

def read : PaginationQueryDto :=
  { page := (number platform query "page" 1).map (·.num.toNat)
    pageSize := (number platform query "pageSize" DEFAULT_PAGE_SIZE).map (·.num.toNat) }

def errors : QueryErrors :=
  propertyErrors "page"
      [.isInt (some "Номер страницы — целое число"), .min 1 none,
        .max MAX_PAGE (some "Такой страницы не существует")]
      (number platform query "page" 1) ++
    propertyErrors "pageSize"
      [.isInt (some "Размер страницы — целое число"), .min 1 none, .max MAX_PAGE_SIZE none]
      (number platform query "pageSize" DEFAULT_PAGE_SIZE)

end PaginationQueryDto

namespace SearchQueryDto

def read : SearchQueryDto :=
  { PaginationQueryDto.read platform query with q := optionalText (query "q") }

def errors : QueryErrors :=
  PaginationQueryDto.errors platform query ++
    optionalErrors "q" [.maxLength platform.textLength MAX_SEARCH_LENGTH] (optionalText (query "q"))

end SearchQueryDto

def SearchQueryDto.receive : Except QueryErrors SearchQueryDto :=
  MyBuild.receive (errors platform query) (read platform query)

def ListOrdersQueryDto.receive : Except QueryErrors ListOrdersQueryDto :=
  MyBuild.receive
    (SearchQueryDto.errors platform query ++
      optionalErrors "status"
        [.isEnum (OrderStatus.values.map OrderStatus.value) (some "Неизвестный статус заказа")]
        (query "status"))
    { SearchQueryDto.read platform query with
      status := (query "status").bind fun text => OrderStatus.values.find? (·.value == text) }

def ListCompanyOffersQueryDto.receive : Except QueryErrors ListCompanyOffersQueryDto :=
  MyBuild.receive
    (PaginationQueryDto.errors platform query ++
      optionalErrors "status"
        [.isEnum (OfferStatus.values.map OfferStatus.value)
          (some "Неизвестный статус предложения")]
        (query "status") ++
      optionalErrors "executor"
        [.isIn booleanValues (some "Параметр executor принимает true или false")]
        (query "executor"))
    { PaginationQueryDto.read platform query with
      status := (query "status").bind fun text => OfferStatus.values.find? (·.value == text)
      executor := query "executor" }

def ListNotificationsQueryDto.receive : Except QueryErrors ListNotificationsQueryDto :=
  MyBuild.receive
    (PaginationQueryDto.errors platform query ++
      optionalErrors "unread"
        [.isIn booleanValues (some "Параметр unread принимает true или false")] (query "unread"))
    { PaginationQueryDto.read platform query with unread := query "unread" }

def ListDocumentsQueryDto.receive : Except QueryErrors ListDocumentsQueryDto :=
  MyBuild.receive
    (PaginationQueryDto.errors platform query ++
      optionalErrors "ownerType"
        [.isEnum (FileOwnerType.values.map FileOwnerType.value)
          (some "Владелец файла — CLIENT или COMPANY")]
        (query "ownerType") ++
      optionalErrors "orderId"
        [.isUUID platform (some "Идентификатор заказа указан неверно")] (query "orderId"))
    { PaginationQueryDto.read platform query with
      ownerType := (query "ownerType").bind fun text => FileOwnerType.values.find? (·.value == text)
      orderId := query "orderId" }

end MyBuild
