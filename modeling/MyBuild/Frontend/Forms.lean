import MyBuild.Offers.CreateOffer
import MyBuild.Orders.CreateOrder

/-!
# The forms of an order and of an offer

What the forms check before they send anything, and the bodies they send.  All values are
texts as the user has typed them; lengths are counted in UTF-16 units.
-/

namespace MyBuild

def normalizeNumber (value : String) : String :=
  String.ofList ((trim value).toList.map fun char => if char = ',' then '.' else char)

def todayIsoDate (now : Date) : String := utcCalendarDate now

/-- `/^\d{4}-\d{2}-\d{2}$/` -/
def calendarDatePattern : Regex Char :=
  .seq (.times 4 (.one (·.isDigit))) (.seq (.one (· == '-'))
    (.seq (.times 2 (.one (·.isDigit))) (.seq (.one (· == '-'))
      (.seq (.times 2 (.one (·.isDigit))) .atEnd))))

def isCalendarDate (value : String) : Bool := calendarDatePattern.test value.toList

def isPastDate (now : Date) (value : String) : Bool :=
  decide (value.toList < (todayIsoDate now).toList)

def outOfRange (value : String) (limits : LengthLimits) : Bool :=
  utf16Length value < limits.min || limits.max < utf16Length value

structure OrderFormValues where
  title : String
  category : Option OrderCategory
  objectType : Option ObjectType
  description : String
  squareMeters : String
  clientBudget : String
  desiredStartDate : String
  address : String

inductive OrderFormField where
  | title
  | category
  | objectType
  | description
  | squareMeters
  | clientBudget
  | desiredStartDate
  | address
  deriving DecidableEq

namespace OrderFormChecks

/-- A text that must be given and has limits. -/
def text (missing field : String) (limits : LengthLimits) (value : String) : Option String :=
  if (trim value).toList.isEmpty then some missing
  else if outOfRange (trim value) limits then some (lengthMessage field limits)
  else none

def title (value : String) : Option String :=
  text "Укажите название заказа" "Название заказа" OrderLimits.title value

def description (value : String) : Option String :=
  text "Опишите, что нужно сделать" "Описание работ" OrderLimits.description value

def address (value : String) : Option String :=
  text "Укажите адрес объекта" "Адрес объекта" OrderLimits.address value

def category (value : Option OrderCategory) : Option String :=
  if value.isNone then some "Выберите категорию заказа" else none

def objectType (value : Option ObjectType) : Option String :=
  if value.isNone then some "Выберите тип объекта" else none

/-- The digits between the first point of a number and the next one. -/
def decimals (value : String) : ℕ := (((value.toList.splitOn '.')[1]?).map List.length).getD 0

/-- A number too large to be read is larger than the limit. -/
def squareMeters (number : String → Option ℚ) (raw : String) : Option String :=
  let value := normalizeNumber raw
  if value.toList.isEmpty then some "Укажите площадь объекта"
  else if !numeralPattern.test value.toList then some "Площадь — число, например 100 или 62.5"
  else if OrderLimits.squareMetersMaxDecimals < decimals value then
    some "Площадь — число, не более двух знаков после запятой"
  else
    match number value with
    | none => some "Площадь не может быть больше 1 000 000 м²"
    | some parsed =>
        if parsed ≤ 0 then some "Площадь должна быть больше нуля"
        else if OrderLimits.squareMetersMax < parsed then
          some "Площадь не может быть больше 1 000 000 м²"
        else none

def clientBudget (value : String) : Option String :=
  let budget := normalizeNumber value
  if !budget.toList.isEmpty && !moneyPattern.test budget.toList then
    some "Бюджет — сумма вида 150000 или 150000.50"
  else none

def desiredStartDate (now : Date) (value : String) : Option String :=
  let date := trim value
  if !date.toList.isEmpty && !isCalendarDate date then some "Некорректная желаемая дата начала"
  else if !date.toList.isEmpty && isPastDate now date then
    some "Желаемая дата начала не может быть в прошлом"
  else none

end OrderFormChecks

open OrderFormChecks in
/-- The fields in error with their messages. -/
def validateOrderForm (number : String → Option ℚ) (now : Date) (values : OrderFormValues) :
    List (OrderFormField × String) :=
  [(.title, title values.title), (.category, category values.category),
    (.objectType, objectType values.objectType), (.description, description values.description),
    (.address, address values.address), (.squareMeters, squareMeters number values.squareMeters),
    (.clientBudget, clientBudget values.clientBudget),
    (.desiredStartDate, desiredStartDate now values.desiredStartDate)].filterMap
      fun (field, error) => error.map (field, ·)

/-- A text that is not empty. -/
def given (value : String) : Option String :=
  if value.toList.isEmpty then none else some value

def toOrderFormData (values : OrderFormValues) (files : List BrowserFile) : OrderFormData :=
  { title := trim values.title
    category := (values.category.map OrderCategory.value).getD ""
    objectType := (values.objectType.map ObjectType.value).getD ""
    description := trim values.description
    address := trim values.address
    squareMeters := normalizeNumber values.squareMeters
    clientBudget := given (normalizeNumber values.clientBudget)
    desiredStartDate := given (trim values.desiredStartDate)
    files }

structure OfferFormValues where
  proposedPrice : String
  proposedDeadline : String
  comment : String

inductive OfferFormField where
  | proposedPrice
  | proposedDeadline
  | comment
  deriving DecidableEq

namespace OfferFormChecks

def proposedPrice (value : String) : Option String :=
  let price := normalizeNumber value
  if price.toList.isEmpty then some "Укажите цену"
  else if !offerPricePattern.test price.toList then
    some "Цена — сумма больше нуля, вида 150000 или 150000.50"
  else none

def proposedDeadline (now : Date) (value : String) : Option String :=
  let deadline := trim value
  if deadline.toList.isEmpty then some "Укажите срок выполнения"
  else if !isCalendarDate deadline then some "Некорректный срок выполнения"
  else if isPastDate now deadline then some "Срок выполнения не может быть в прошлом"
  else none

def comment (value : String) : Option String :=
  if offerCommentMax < utf16Length (trim value) then
    some ("Комментарий — не более " ++ toString offerCommentMax ++ " символов")
  else none

end OfferFormChecks

open OfferFormChecks in
def validateOfferForm (now : Date) (values : OfferFormValues) : List (OfferFormField × String) :=
  [(.proposedPrice, proposedPrice values.proposedPrice),
    (.proposedDeadline, proposedDeadline now values.proposedDeadline),
    (.comment, comment values.comment)].filterMap fun (field, error) => error.map (field, ·)

def toOfferBody (orderId : String) (values : OfferFormValues) : OfferRequestBody :=
  { orderId
    proposedPrice := normalizeNumber values.proposedPrice
    proposedDeadline := trim values.proposedDeadline
    comment := given (trim values.comment) }

end MyBuild
