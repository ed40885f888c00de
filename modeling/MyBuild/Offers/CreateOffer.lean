import MyBuild.Common.Validators
import MyBuild.Offers.Service

/-!
# The request that sends an offer

The body as the form sends it, and the checks on its properties.
-/

namespace MyBuild

structure OfferRequestBody where
  orderId : String
  proposedPrice : String
  proposedDeadline : String
  comment : Option String

namespace CreateOfferChecks

def orderId (platform : Platform) (value : String) : List (String × ConstraintError) :=
  propertyErrors "orderId" [.isUUID platform (some "Некорректный заказ")] value

def proposedPrice (value : String) : List (String × ConstraintError) :=
  propertyErrors "proposedPrice"
    [.matchesPattern (fun text => offerPricePattern.test text.toList)
      (some "Цена — сумма больше нуля, вида 150000 или 150000.50")] value

def proposedDeadline (platform : Platform) (now : Date) (value : String) :
    List (String × ConstraintError) :=
  propertyErrors "proposedDeadline"
    [.isDateString platform (some "Некорректный срок выполнения"),
      .notPastDate platform now (some "Срок выполнения не может быть в прошлом")] value

def comment (platform : Platform) (value : Option String) : List (String × ConstraintError) :=
  optionalErrors "comment"
    [{ Validator.maxLength platform.textLength offerCommentMax with
        message := some ("Комментарий — не более " ++ toString offerCommentMax ++ " символов") }]
    (optionalText value)

end CreateOfferChecks

open CreateOfferChecks in
def createOfferErrors (platform : Platform) (now : Date) (body : OfferRequestBody) :
    List (String × ConstraintError) :=
  orderId platform body.orderId ++ proposedPrice body.proposedPrice ++
    proposedDeadline platform now body.proposedDeadline ++ comment platform body.comment

end MyBuild
