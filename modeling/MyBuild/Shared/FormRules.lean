import MyBuild.Library.Numerals
import MyBuild.Library.Regex
import MyBuild.Shared.Enums
import Mathlib.Algebra.Order.Field.Rat

/-!
# Limits shared by the forms and the requests

The lengths, the patterns of amounts and the bounds of an area, which the forms and the
requests take from one place.  A number is the exact value of its decimal form.
-/

namespace MyBuild

structure LengthLimits where
  min : ℕ
  max : ℕ

namespace OrderLimits

def title : LengthLimits := ⟨3, 200⟩

def description : LengthLimits := ⟨10, 5000⟩

def address : LengthLimits := ⟨5, 300⟩

def squareMetersMax : ℚ := 1000000

def squareMetersMaxDecimals : ℕ := 2

end OrderLimits

def offerCommentMax : ℕ := 2000

/-- `/^\d{1,10}(\.\d{1,2})?$/` -/
def moneyPattern : Regex Char :=
  .seq (.between 1 10 (.one (·.isDigit)))
    (.seq (.optional (.seq (.one (· == '.')) (.between 1 2 (.one (·.isDigit))))) .atEnd)

/-- What a point in an expression does not stand for. -/
def isLineTerminator (char : Char) : Bool := ['\n', '\r', '\u2028', '\u2029'].contains char

/-- `/^(?=.*[1-9])\d{1,10}(\.\d{1,2})?$/` -/
def offerPricePattern : Regex Char :=
  .seq (.ahead (.seq (.star (.one (!isLineTerminator ·)))
      (.one fun char => '1' ≤ char && char ≤ '9')))
    moneyPattern

def OrderCategory.value : OrderCategory → String
  | .planCreation => "PLAN_CREATION"
  | .planImplementation => "PLAN_IMPLEMENTATION"

def ObjectType.value : ObjectType → String
  | .apartment => "APARTMENT"
  | .house => "HOUSE"
  | .commercial => "COMMERCIAL"
  | .government => "GOVERNMENT"

/-- Digits, and perhaps a point with more digits after it. -/
structure IsNumeral (text : List Char) (whole fraction : List Char) : Prop where
  spelled : text = whole ++ (if fraction.isEmpty then [] else '.' :: fraction)
  nonempty : whole ≠ []
  wholeDigits : ∀ digit ∈ whole, digit.isDigit = true
  fractionDigits : ∀ digit ∈ fraction, digit.isDigit = true

def numeralValue (whole fraction : List Char) : ℚ :=
  Numerals.value (whole ++ fraction) / 10 ^ fraction.length

/-- How the language reads a numeral: exactly up to fifteen digits, and a larger numeral never
as a smaller number.  What is too large for a number is read as none. -/
structure ReadsNumerals (number : String → Option ℚ) : Prop where
  exact : ∀ {text whole fraction}, IsNumeral text.toList whole fraction →
    Numerals.value (whole ++ fraction) < 10 ^ 15 → fraction.length ≤ 15 →
      number text = some (numeralValue whole fraction)
  monotone : ∀ {text whole fraction other otherWhole otherFraction},
    IsNumeral text.toList whole fraction → IsNumeral other.toList otherWhole otherFraction →
      numeralValue whole fraction ≤ numeralValue otherWhole otherFraction →
        ∀ upper, number other = some upper → ∃ lower, number text = some lower ∧ lower ≤ upper

section Numerals

variable {text whole fraction : List Char}

/-- `/^\d+(\.\d+)?$/` -/
def numeralPattern : Regex Char :=
  .seq (.plus (.one (·.isDigit)))
    (.seq (.optional (.seq (.one (· == '.')) (.plus (.one (·.isDigit))))) .atEnd)

theorem numeralPattern_test :
    numeralPattern.test text = true ↔ ∃ whole fraction, IsNumeral text whole fraction := by
  simp only [numeralPattern, Regex.test_iff, Regex.mem_remainders_seq,
    Regex.mem_remainders_plus_one, Regex.mem_remainders_optional, Regex.mem_remainders_one,
    Regex.mem_remainders_atEnd]
  constructor
  · rintro ⟨_, middle, ⟨whole, nonempty, wholeDigits, rfl⟩, _,
      ⟨_, ⟨point, isPoint, rfl⟩, fraction, some, fractionDigits, rfl⟩ | rfl, rfl, rfl⟩
    · refine ⟨whole, fraction, ?_, nonempty, wholeDigits, fractionDigits⟩
      simp [some, beq_iff_eq.mp isPoint]
    · exact ⟨whole, [], by simp, nonempty, wholeDigits, by simp⟩
  · rintro ⟨whole, fraction, spelled, nonempty, wholeDigits, fractionDigits⟩
    cases fraction with
    | nil =>
        exact ⟨[], [], ⟨whole, nonempty, wholeDigits, by simpa using spelled⟩, [], Or.inr rfl, rfl,
          rfl⟩
    | cons digit fraction =>
        refine ⟨[], '.' :: digit :: fraction,
          ⟨whole, nonempty, wholeDigits, by simpa using spelled⟩,
          [], Or.inl ⟨digit :: fraction, ⟨'.', by simp, rfl⟩, digit :: fraction, by simp,
            fractionDigits, by simp⟩, rfl, rfl⟩

end Numerals

end MyBuild
