import Mathlib.Data.Int.Notation
import Mathlib.Data.List.Basic
import Mathlib.Data.List.TakeWhile
import Mathlib.Tactic.IntervalCases

/-!
# Identifiers, amounts and dates

The scalar types of the tables.  Identifiers are the 128-bit values Postgres
compares; amounts and areas carry at most two decimal places; a date is the time
value of a JavaScript `Date`.  Amounts and dates travel as text, so both come with
the text the source renders them to.
-/

namespace MyBuild

/-- A `uuid` column: the value the database compares. -/
structure Uuid where
  value : BitVec 128
  deriving DecidableEq, Repr

namespace Uuid

/-- The digits of one group of the canonical spelling, starting at a given hexadecimal place. -/
def group (id : Uuid) (start length : ℕ) : List Char :=
  (List.range length).map fun index =>
    Nat.digitChar (id.value.toNat / 16 ^ (31 - (start + index)) % 16)

def toText (id : Uuid) : String :=
  String.ofList (id.group 0 8 ++ '-' :: id.group 8 4 ++ '-' :: id.group 12 4 ++
    '-' :: id.group 16 4 ++ '-' :: id.group 20 12)

end Uuid

/-- A number with at most two decimal places: a `Decimal(12, 2)` column, or an area. -/
structure Decimal where
  hundredths : ℕ
  deriving DecidableEq, Repr

namespace Decimal

def fractionDigits (fraction : ℕ) : List Char :=
  if fraction = 0 then []
  else if fraction % 10 = 0 then ['.', Nat.digitChar (fraction / 10)]
  else ['.', Nat.digitChar (fraction / 10), Nat.digitChar (fraction % 10)]

/-- `Decimal.toString()` of the source: no trailing zeros and no point without digits after it. -/
def toText (amount : Decimal) : String :=
  String.ofList
    (Nat.toDigits 10 (amount.hundredths / 100) ++ fractionDigits (amount.hundredths % 100))

def digits? (digits : List Char) : Option ℕ :=
  if !digits.isEmpty && digits.all Char.isDigit then some (Nat.ofDigitChars 10 digits 0) else none

/-- The amount a text denotes, as the database reads a `Decimal(12, 2)` from a string. -/
def ofText? (text : String) : Option Decimal :=
  match text.toList.dropWhile (· != '.') with
  | [] => (digits? text.toList).map fun whole => ⟨100 * whole⟩
  | [_, tenths] =>
      (digits? (text.toList.takeWhile (· != '.') ++ [tenths])).map fun value => ⟨10 * value⟩
  | [_, tenths, hundredths] =>
      (digits? (text.toList.takeWhile (· != '.') ++ [tenths, hundredths])).map fun value => ⟨value⟩
  | _ => none

theorem ne_point_of_isDigit {digit : Char} (isDigit : digit.isDigit) : (digit != '.') = true := by
  rw [bne_iff_ne]
  rintro rfl
  simp at isDigit

theorem toDigits_isDigit {number : ℕ} {digit : Char} (mem : digit ∈ Nat.toDigits 10 number) :
    digit.isDigit :=
  Nat.isDigit_of_mem_toDigits (by omega) (by omega) mem

theorem digits?_toDigits (number : ℕ) : digits? (Nat.toDigits 10 number) = some number := by
  have allDigits : (Nat.toDigits 10 number).all Char.isDigit = true :=
    List.all_eq_true.mpr fun digit mem => toDigits_isDigit mem
  simp [digits?, allDigits, Nat.toDigits_ne_nil]

theorem digitChar_isDigit {place : ℕ} (bound : place < 10) : (Nat.digitChar place).isDigit := by
  interval_cases place <;> rfl

theorem digits?_append_digitChar {digits : List Char} {value place : ℕ}
    (read : digits? digits = some value) (bound : place < 10) :
    digits? (digits ++ [Nat.digitChar place]) = some (10 * value + place) := by
  simp only [digits?] at read ⊢
  split at read
  case isFalse => simp at read
  case isTrue valid =>
    simp only [Option.some.injEq] at read
    simp only [Bool.and_eq_true] at valid
    have allDigits : (digits ++ [Nat.digitChar place]).all Char.isDigit = true := by
      simp [valid.2, digitChar_isDigit bound]
    rw [if_pos (by simp [allDigits]), Nat.ofDigitChars_append, read,
      Nat.ofDigitChars_cons_digitChar_of_lt_ten bound, Nat.ofDigitChars_nil]

theorem dropWhile_toDigits_append (number : ℕ) (rest : List Char) :
    (Nat.toDigits 10 number ++ '.' :: rest).dropWhile (· != '.') = '.' :: rest := by
  rw [List.dropWhile_append_of_pos fun digit mem => ne_point_of_isDigit (toDigits_isDigit mem)]
  simp

theorem takeWhile_toDigits_append (number : ℕ) (rest : List Char) :
    (Nat.toDigits 10 number ++ '.' :: rest).takeWhile (· != '.') = Nat.toDigits 10 number := by
  rw [List.takeWhile_append_of_pos fun digit mem => ne_point_of_isDigit (toDigits_isDigit mem)]
  simp

/-- An amount survives its text: what `toString()` writes, the column reads back unchanged. -/
theorem ofText?_toText (amount : Decimal) : ofText? amount.toText = some amount := by
  rcases amount with ⟨hundredths⟩
  have whole := digits?_toDigits (hundredths / 100)
  simp only [toText, fractionDigits]
  by_cases noFraction : hundredths % 100 = 0
  · have noPoint : (Nat.toDigits 10 (hundredths / 100)).dropWhile (· != '.') = [] :=
      List.dropWhile_eq_nil_iff.mpr fun digit mem => ne_point_of_isDigit (toDigits_isDigit mem)
    simp only [noFraction, if_pos, List.append_nil, ofText?, String.toList_ofList, noPoint, whole,
      Option.map_some, Option.some.injEq, mk.injEq]
    omega
  · have tenths := digits?_append_digitChar whole
      (show hundredths % 100 / 10 < 10 by omega)
    by_cases noHundredths : hundredths % 100 % 10 = 0
    · simp only [noFraction, noHundredths, if_false, if_true, ofText?, String.toList_ofList,
        dropWhile_toDigits_append, takeWhile_toDigits_append, tenths, Option.map_some,
        Option.some.injEq, mk.injEq]
      omega
    · have both := digits?_append_digitChar tenths (show hundredths % 100 % 10 < 10 by omega)
      rw [List.append_assoc] at both
      simp only [noFraction, noHundredths, if_false, ofText?, String.toList_ofList,
        dropWhile_toDigits_append, takeWhile_toDigits_append, List.cons_append, List.nil_append]
        at both ⊢
      simp only [both, Option.map_some, Option.some.injEq, mk.injEq]
      omega

example : toText ⟨15000050⟩ = "150000.5" := by decide

end Decimal

/-- A JavaScript `Date`: milliseconds since the epoch, within the range a time value may have. -/
structure Date where
  time : ℤ
  inRange : -8640000000000000 ≤ time ∧ time ≤ 8640000000000000
  deriving DecidableEq

namespace Date

def epoch : Date := ⟨0, by decide⟩

/-- The year, month and day of a day number, the epoch being day 0. -/
def civilFromDays (days : ℤ) : ℤ × ℕ × ℕ :=
  let shifted := days + 719468
  let era := shifted / 146097
  let dayOfEra := (shifted % 146097).toNat
  let yearOfEra :=
    (dayOfEra - dayOfEra / 1460 + dayOfEra / 36524 - dayOfEra / 146096) / 365
  let dayOfYear := dayOfEra - (365 * yearOfEra + yearOfEra / 4 - yearOfEra / 100)
  let shiftedMonth := (5 * dayOfYear + 2) / 153
  let day := dayOfYear - (153 * shiftedMonth + 2) / 5 + 1
  let month := if shiftedMonth < 10 then shiftedMonth + 3 else shiftedMonth - 9
  (yearOfEra + era * 400 + if month ≤ 2 then 1 else 0, month, day)

def padded (width number : ℕ) : List Char :=
  let digits := Nat.toDigits 10 number
  List.replicate (width - digits.length) '0' ++ digits

/-- Years 0 to 9999 have four digits, the others a sign and six. -/
def yearText (year : ℤ) : List Char :=
  if 0 ≤ year ∧ year ≤ 9999 then padded 4 year.toNat
  else (if year < 0 then '-' else '+') :: padded 6 year.natAbs

def toISOString (date : Date) : String :=
  let civil := civilFromDays (date.time / 86400000)
  let millisecond := (date.time % 86400000).toNat
  String.ofList (yearText civil.1 ++ '-' :: padded 2 civil.2.1 ++ '-' :: padded 2 civil.2.2 ++
    'T' :: padded 2 (millisecond / 3600000) ++ ':' :: padded 2 (millisecond / 60000 % 60) ++
    ':' :: padded 2 (millisecond / 1000 % 60) ++ '.' :: padded 3 (millisecond % 1000) ++ ['Z'])

example : toISOString ⟨1790640000123, by decide⟩ = "2026-09-29T00:00:00.123Z" := by decide

end Date

end MyBuild
