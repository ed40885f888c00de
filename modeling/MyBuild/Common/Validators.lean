import MyBuild.Common.NotPastDate
import MyBuild.Shared.FormRules
import MyBuild.Shared.Text

/-!
# Checks on the properties of a request

A property passes when none of its checks fails.  Where the code gives a check a message of
its own, the message is kept; the other checks answer with the text of the library.

How long a text is to the library, what it takes for a date or an identifier, and how the
language reads a number, is asked of a platform.
-/

namespace MyBuild

structure Validator (Value : Type*) where
  constraint : String
  check : Value → Bool
  message : Option String

structure ConstraintError where
  constraint : String
  message : Option String
  deriving DecidableEq

/-- `U+FE0E` and `U+FE0F`: they choose how the character before them is drawn. -/
def isPresentationSelector (char : Char) : Bool := [0xFE0E, 0xFE0F].contains char.toNat

/-- The characters of a text, a pair of surrogates counted once and a presentation selector not
at all. -/
def characterCount (text : String) : ℕ := text.toList.countP (!isPresentationSelector ·)

/-- The length of a text as the validation library counts it, with what is documented of it. -/
structure TextLength where
  count : String → ℕ
  documented : ∀ text, count text = characterCount text

def TextLength.plain : TextLength := { count := characterCount, documented := fun _ => rfl }

/-- The answers of the validation library and of the language. -/
structure Platform where
  textLength : TextLength
  isDateString : String → Bool
  isUUID : String → Bool
  number : String → Option ℚ
  engine : String → Option Date

/-- What is documented of the answers: a date `YYYY-MM-DD` needs a month 01 to 12 and a day 01
to 31, and numerals are read as numbers. -/
structure Platform.Documented (platform : Platform) : Prop where
  isDateString : ∀ {text : String} {year month date : List Char},
    Numerals.OfWidth 4 year → Numerals.OfWidth 2 month → Numerals.OfWidth 2 date →
      text.toList = year ++ '-' :: (month ++ '-' :: date) →
        (platform.isDateString text = true ↔
          (1 ≤ Numerals.value month ∧ Numerals.value month ≤ 12) ∧
            (1 ≤ Numerals.value date ∧ Numerals.value date ≤ 31))
  number : ReadsNumerals platform.number

theorem characterCount_le_length (text : String) : characterCount text ≤ text.toList.length :=
  List.countP_le_length

namespace Validator

variable {Value : Type*}

def isNotEmpty (message : Option String) : Validator String :=
  { constraint := "isNotEmpty", check := fun text => !text.toList.isEmpty, message }

def maxLength (textLength : TextLength) (limit : ℕ) : Validator String :=
  { constraint := "maxLength", check := fun text => textLength.count text ≤ limit, message := none }

def length (textLength : TextLength) (limits : LengthLimits) (message : Option String) :
    Validator String :=
  { constraint := "isLength"
    check := fun text =>
      limits.min ≤ textLength.count text && textLength.count text ≤ limits.max
    message }

def isEnum (values : List String) (message : Option String) : Validator String :=
  { constraint := "isEnum", check := values.contains, message }

def isUUID (platform : Platform) (message : Option String) : Validator String :=
  { constraint := "isUuid", check := platform.isUUID, message }

def isDateString (platform : Platform) (message : Option String) : Validator String :=
  { constraint := "isDateString", check := platform.isDateString, message }

def notPastDate (platform : Platform) (now : Date) (message : Option String) : Validator String :=
  { constraint := "isNotPastDate", check := isNotPastDate platform.engine now, message }

/-- A finite number whose decimal form has so many places at most. -/
def isNumber (maxDecimalPlaces : ℕ) (message : Option String) : Validator (Option ℚ) :=
  { constraint := "isNumber"
    check := fun number => number.any fun number => (number * 10 ^ maxDecimalPlaces).den == 1
    message }

def isPositive (message : Option String) : Validator (Option ℚ) :=
  { constraint := "isPositive", check := fun number => number.any (0 < ·), message }

def max (limit : ℚ) (message : Option String) : Validator (Option ℚ) :=
  { constraint := "max", check := fun number => number.any (· ≤ limit), message }

def matchesPattern (test : String → Bool) (message : Option String) : Validator String :=
  { constraint := "matches", check := test, message }

def validate (validators : List (Validator Value)) (value : Value) : List ConstraintError :=
  (validators.filter (!·.check value)).map fun validator =>
    { constraint := validator.constraint, message := validator.message }

theorem validate_eq_nil {validators : List (Validator Value)} {value : Value} :
    validate validators value = [] ↔ ∀ validator ∈ validators, validator.check value = true := by
  simp [validate]

end Validator

/-- The errors of one property. -/
def propertyErrors {Value : Type*} (property : String) (validators : List (Validator Value))
    (value : Value) : List (String × ConstraintError) :=
  (Validator.validate validators value).map (property, ·)

@[simp]
theorem propertyErrors_eq_nil {Value : Type*} {property : String}
    {validators : List (Validator Value)} {value : Value} :
    propertyErrors property validators value = [] ↔
      ∀ validator ∈ validators, validator.check value = true := by
  simp [propertyErrors, Validator.validate_eq_nil]

/-- A text without the white space around it; an empty one is no text. -/
def optionalText (value : Option String) : Option String :=
  value.bind fun text => if (trim text).toList.isEmpty then none else some (trim text)

/-- A property that may be left out is checked only when it is there. -/
def optionalErrors (property : String) (validators : List (Validator String)) :
    Option String → List (String × ConstraintError)
  | none => []
  | some value => propertyErrors property validators value

end MyBuild
