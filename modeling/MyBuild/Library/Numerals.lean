import Mathlib.Algebra.GroupWithZero.Nat
import Mathlib.Data.Nat.Notation
import Mathlib.Order.Basic

/-!
# Numbers written with as many digits

Numerals of one length are ordered as texts the way their numbers are, and a text that begins
with pieces of fixed lengths is compared piece by piece.
-/

namespace Numerals

variable {first second firstRest secondRest digits : List Char} {digit : Char}

theorem append_lt_append_iff (sameLength : first.length = second.length) :
    first ++ firstRest < second ++ secondRest ↔
      first < second ∨ (first = second ∧ firstRest < secondRest) := by
  induction first generalizing second with
  | nil =>
      have empty : second = [] := List.eq_nil_of_length_eq_zero sameLength.symm
      simp [empty]
  | cons head first ih =>
      cases second with
      | nil => simp at sameLength
      | cons other second =>
          have shorter : first.length = second.length := by simpa using sameLength
          simp only [List.cons_append, List.cons_lt_cons_iff, ih shorter, List.cons.injEq]
          constructor
          · rintro (less | ⟨same, less | ⟨rest, less⟩⟩)
            · exact Or.inl (Or.inl less)
            · exact Or.inl (Or.inr ⟨same, less⟩)
            · exact Or.inr ⟨⟨same, rest⟩, less⟩
          · rintro ((less | ⟨same, less⟩) | ⟨⟨same, rest⟩, less⟩)
            · exact Or.inl less
            · exact Or.inr ⟨same, Or.inl less⟩
            · exact Or.inr ⟨same, Or.inr ⟨rest, less⟩⟩

def value (digits : List Char) : ℕ := Nat.ofDigitChars 10 digits 0

theorem value_cons :
    value (digit :: digits) = (digit.toNat - '0'.toNat) * 10 ^ digits.length + value digits := by
  rw [value, Nat.ofDigitChars_cons, Nat.ofDigitChars_eq_ofDigitChars_zero, value]
  simp [Nat.mul_comm]

theorem toNat_of_isDigit (isDigit : digit.isDigit = true) :
    '0'.toNat ≤ digit.toNat ∧ digit.toNat - '0'.toNat ≤ 9 := by
  simp only [Char.isDigit, Bool.and_eq_true, decide_eq_true_eq] at isDigit
  have lower : '0'.toNat ≤ digit.toNat := isDigit.1
  have upper : digit.toNat ≤ 57 := isDigit.2
  have zero : '0'.toNat = 48 := rfl
  omega

theorem value_lt (all : ∀ digit ∈ digits, digit.isDigit = true) :
    value digits < 10 ^ digits.length := by
  induction digits with
  | nil => simp [value]
  | cons digit digits ih =>
      rw [List.forall_mem_cons] at all
      have rest := ih all.2
      have bound := Nat.mul_le_mul_right (10 ^ digits.length) (toNat_of_isDigit all.1).2
      rw [value_cons, List.length_cons, Nat.pow_succ]
      omega

theorem char_lt_iff {letter other : Char} : letter < other ↔ letter.toNat < other.toNat := by
  exact Iff.rfl

/-- A numeral of so many digits. -/
structure OfWidth (width : ℕ) (digits : List Char) : Prop where
  length : digits.length = width
  isDigit : ∀ digit ∈ digits, digit.isDigit = true

/-- Between numerals of one width, the texts are ordered and told apart as the numbers are. -/
theorem lt_iff_and_eq_iff {width : ℕ} (firstShape : OfWidth width first)
    (secondShape : OfWidth width second) :
    (first < second ↔ value first < value second) ∧
      (first = second ↔ value first = value second) := by
  induction width generalizing first second with
  | zero =>
      have firstEmpty : first = [] := List.eq_nil_of_length_eq_zero firstShape.length
      have secondEmpty : second = [] := List.eq_nil_of_length_eq_zero secondShape.length
      simp [firstEmpty, secondEmpty]
  | succ width ih =>
      rcases List.exists_cons_of_length_eq_add_one firstShape.length with ⟨digit, first, rfl⟩
      rcases List.exists_cons_of_length_eq_add_one secondShape.length with ⟨other, second, rfl⟩
      have firstDigits := List.forall_mem_cons.mp firstShape.isDigit
      have secondDigits := List.forall_mem_cons.mp secondShape.isDigit
      have firstLength : first.length = width := by simpa using firstShape.length
      have secondLength : second.length = width := by simpa using secondShape.length
      have rest := ih ⟨firstLength, firstDigits.2⟩ ⟨secondLength, secondDigits.2⟩
      have firstBound := value_lt firstDigits.2
      have secondBound := value_lt secondDigits.2
      have place := toNat_of_isDigit firstDigits.1
      have otherPlace := toNat_of_isDigit secondDigits.1
      rw [List.cons_lt_cons_iff, List.cons.injEq, rest.1, rest.2, char_lt_iff, value_cons,
        value_cons, firstLength, secondLength, ← Char.toNat_inj]
      rw [firstLength] at firstBound
      rw [secondLength] at secondBound
      rcases Nat.lt_trichotomy digit.toNat other.toNat with less | same | greater
      · have gap := Nat.mul_le_mul_right (10 ^ width)
          (show digit.toNat - '0'.toNat + 1 ≤ other.toNat - '0'.toNat by omega)
        rw [Nat.add_mul] at gap
        omega
      · rw [same]
        omega
      · have gap := Nat.mul_le_mul_right (10 ^ width)
          (show other.toNat - '0'.toNat + 1 ≤ digit.toNat - '0'.toNat by omega)
        rw [Nat.add_mul] at gap
        omega

/-- Three numerals one after another, with the same mark between them, are compared in turn. -/
theorem three_lt_iff {mark : Char} {width middleWidth lastWidth : ℕ}
    {middle last otherMiddle otherLast : List Char} (firstShape : OfWidth width first)
    (secondShape : OfWidth width second) (middleShape : OfWidth middleWidth middle)
    (otherMiddleShape : OfWidth middleWidth otherMiddle) (lastShape : OfWidth lastWidth last)
    (otherLastShape : OfWidth lastWidth otherLast) :
    first ++ mark :: (middle ++ mark :: last) <
        second ++ mark :: (otherMiddle ++ mark :: otherLast) ↔
      value first < value second ∨ (value first = value second ∧
        (value middle < value otherMiddle ∨
          (value middle = value otherMiddle ∧ value last < value otherLast))) := by
  have firstOrder := lt_iff_and_eq_iff firstShape secondShape
  have middleOrder := lt_iff_and_eq_iff middleShape otherMiddleShape
  have lastOrder := lt_iff_and_eq_iff lastShape otherLastShape
  rw [append_lt_append_iff (firstShape.length.trans secondShape.length.symm),
    List.cons_lt_cons_self,
    append_lt_append_iff (middleShape.length.trans otherMiddleShape.length.symm),
    List.cons_lt_cons_self, firstOrder.1, firstOrder.2, middleOrder.1, middleOrder.2, lastOrder.1]

end Numerals
