import MyBuild.Common.Validators
import MyBuild.Frontend.OrderFiles
import MyBuild.Orders.World

/-!
# The request that creates an order

The body as the form sends it, all of it texts and files, and the checks on its properties.
-/

namespace MyBuild

structure OrderFormData where
  title : String
  category : String
  objectType : String
  description : String
  address : String
  squareMeters : String
  clientBudget : Option String
  desiredStartDate : Option String
  files : List BrowserFile

def lengthMessage (field : String) (limits : LengthLimits) : String :=
  field ++ " — от " ++ toString limits.min ++ " до " ++ toString limits.max ++ " символов"

def textErrors (platform : Platform) (property field : String) (limits : LengthLimits)
    (value : String) : List (String × ConstraintError) :=
  propertyErrors property [.length platform.textLength limits (some (lengthMessage field limits))]
    (trim value)

namespace CreateOrderChecks

def title (platform : Platform) (value : String) : List (String × ConstraintError) :=
  textErrors platform "title" "Название заказа" OrderLimits.title value

def category (value : String) : List (String × ConstraintError) :=
  propertyErrors "category"
    [.isEnum ([.planCreation, .planImplementation].map OrderCategory.value)
      (some "Выберите категорию заказа")] value

def objectType (value : String) : List (String × ConstraintError) :=
  propertyErrors "objectType"
    [.isEnum ([.apartment, .house, .commercial, .government].map ObjectType.value)
      (some "Выберите тип объекта")] value

def description (platform : Platform) (value : String) : List (String × ConstraintError) :=
  textErrors platform "description" "Описание работ" OrderLimits.description value

def address (platform : Platform) (value : String) : List (String × ConstraintError) :=
  textErrors platform "address" "Адрес объекта" OrderLimits.address value

def squareMeters (platform : Platform) (value : String) : List (String × ConstraintError) :=
  propertyErrors "squareMeters"
    [.isNumber OrderLimits.squareMetersMaxDecimals
        (some "Площадь — число, не более двух знаков после запятой"),
      .isPositive (some "Площадь должна быть больше нуля"),
      .max OrderLimits.squareMetersMax (some "Площадь не может быть больше 1 000 000 м²")]
    (platform.number value)

def clientBudget (value : Option String) : List (String × ConstraintError) :=
  optionalErrors "clientBudget"
    [.matchesPattern (fun text => moneyPattern.test text.toList)
      (some "Бюджет — сумма вида 150000 или 150000.50")]
    (optionalText value)

def desiredStartDate (platform : Platform) (now : Date) (value : Option String) :
    List (String × ConstraintError) :=
  optionalErrors "desiredStartDate"
    [.isDateString platform (some "Некорректная желаемая дата начала"),
      .notPastDate platform now (some "Желаемая дата начала не может быть в прошлом")]
    (optionalText value)

end CreateOrderChecks

open CreateOrderChecks in
def createOrderErrors (platform : Platform) (now : Date) (body : OrderFormData) :
    List (String × ConstraintError) :=
  title platform body.title ++ category body.category ++ objectType body.objectType ++
    description platform body.description ++ address platform body.address ++
    squareMeters platform body.squareMeters ++ clientBudget body.clientBudget ++
    desiredStartDate platform now body.desiredStartDate

end MyBuild
