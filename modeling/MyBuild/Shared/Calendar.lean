import Mathlib.Tactic.IntervalCases
import MyBuild.Library.Calendar
import MyBuild.Library.Numerals
import MyBuild.Shared.Offers

/-!
# The calendar of a date

The UTC day of a moment and its year, month and date, and what the first ten characters of its
ISO text say about them.  A year outside 0 to 9999 is written with a sign and six digits, so
the date does not fit into ten characters there.
-/

namespace MyBuild

namespace Date

def millisecondsPerDay : ℤ := 86400000

/-- The UTC day of a moment, the epoch being on day 0. -/
def day (date : Date) : ℤ := date.time / millisecondsPerDay

def getUTCFullYear (date : Date) : ℤ := (civilFromDays date.day).1

/-- Months are counted from 0. -/
def getUTCMonth (date : Date) : ℕ := (civilFromDays date.day).2.1 - 1

def getUTCDate (date : Date) : ℕ := (civilFromDays date.day).2.2

def month (date : Date) : ℤ := 12 * date.getUTCFullYear + date.getUTCMonth

section Civil

theorem exists_dayOfEra {dayOfEra : ℕ} (bound : dayOfEra < 146097) :
    ∃ century quarter year rest, century ≤ 3 ∧ quarter ≤ 24 ∧ year ≤ 3 ∧
      dayOfEra = 36524 * century + 1461 * quarter + 365 * year + rest ∧
        (rest ≤ 364 ∨ rest = 365 ∧ year = 3 ∧ (quarter = 24 → century = 3)) := by
  by_cases last : dayOfEra = 146096
  · exact ⟨3, 24, 3, 365, by omega⟩
  · by_cases leap : dayOfEra % 36524 % 1461 = 1460
    · exact ⟨dayOfEra / 36524, dayOfEra % 36524 / 1461, 3, 365, by omega⟩
    · exact ⟨dayOfEra / 36524, dayOfEra % 36524 / 1461, dayOfEra % 36524 % 1461 / 365,
        dayOfEra % 36524 % 1461 % 365, by omega⟩

theorem yearOfEra_eq {dayOfEra century quarter year rest : ℕ} (centuries : century ≤ 3)
    (quarters : quarter ≤ 24) (years : year ≤ 3)
    (parts : dayOfEra = 36524 * century + 1461 * quarter + 365 * year + rest)
    (inYear : rest ≤ 364 ∨ rest = 365 ∧ year = 3 ∧ (quarter = 24 → century = 3)) :
    (dayOfEra - dayOfEra / 1460 + dayOfEra / 36524 - dayOfEra / 146096) / 365 =
      100 * century + 4 * quarter + year := by
  by_cases last : dayOfEra = 146096
  · have place : century = 3 ∧ quarter = 24 ∧ year = 3 := by omega
    rcases place with ⟨rfl, rfl, rfl⟩
    simp [last]
  · have centuryPart : dayOfEra / 36524 = century := by omega
    have eraPart : dayOfEra / 146096 = 0 := by omega
    rw [centuryPart, eraPart]
    by_cases late : 1460 ≤ 24 * century + quarter + 365 * year + rest
    · have leapPart : dayOfEra / 1460 = 25 * century + quarter + 1 := by omega
      rw [leapPart]
      omega
    · have leapPart : dayOfEra / 1460 = 25 * century + quarter := by omega
      rw [leapPart]
      omega

theorem monthOfYear_spec {dayOfYear : ℕ} (bound : dayOfYear ≤ 365) :
    (5 * dayOfYear + 2) / 153 ≤ 11 ∧
      (153 * ((5 * dayOfYear + 2) / 153) + 2) / 5 ≤ dayOfYear ∧
        dayOfYear < (153 * ((5 * dayOfYear + 2) / 153 + 1) + 2) / 5 := by
  omega

theorem yearStart_parts {century quarter year rest : ℕ} (centuries : century ≤ 3)
    (quarters : quarter ≤ 24) (years : year ≤ 3)
    (inYear : rest ≤ 364 ∨ rest = 365 ∧ year = 3 ∧ (quarter = 24 → century = 3)) :
    Calendar.yearStart (100 * century + 4 * quarter + year) =
        36524 * century + 1461 * quarter + 365 * year ∧
      (rest : ℤ) < Calendar.yearStart (100 * century + 4 * quarter + year + 1) -
        Calendar.yearStart (100 * century + 4 * quarter + year) := by
  have next := Calendar.yearStart_succ (100 * century + 4 * quarter + year)
  have quarterPart : (100 * century + 4 * quarter + year : ℤ) / 4 = 25 * century + quarter := by
    omega
  have centuryPart : (100 * century + 4 * quarter + year : ℤ) / 100 = century := by omega
  have cyclePart : (100 * century + 4 * quarter + year : ℤ) / 400 = 0 := by omega
  have start : Calendar.yearStart (100 * century + 4 * quarter + year) =
      36524 * century + 1461 * quarter + 365 * year := by
    simp only [Calendar.yearStart, quarterPart, centuryPart, cyclePart]
    omega
  refine ⟨start, ?_⟩
  rcases inYear with short | ⟨leap, rfl, whole⟩
  · omega
  · rw [start]
    simp only [Calendar.yearStart]
    by_cases last : quarter = 24
    · rw [last, whole last, leap]
      decide
    · have nextQuarter : (100 * century + 4 * quarter + (3 : ℕ) + 1 : ℤ) / 4 =
          25 * century + quarter + 1 := by
        omega
      have nextCentury : (100 * century + 4 * quarter + (3 : ℕ) + 1 : ℤ) / 100 = century := by omega
      have nextCycle : (100 * century + 4 * quarter + (3 : ℕ) + 1 : ℤ) / 400 = 0 := by omega
      rw [nextQuarter, nextCentury, nextCycle]
      omega

theorem exists_era (days : ℤ) :
    ∃ (era : ℤ) (dayOfEra : ℕ), dayOfEra < 146097 ∧ days + 719468 = 146097 * era + dayOfEra ∧
      (days + 719468) / 146097 = era ∧ ((days + 719468) % 146097).toNat = dayOfEra :=
  ⟨(days + 719468) / 146097, ((days + 719468) % 146097).toNat, by omega, by omega, rfl, rfl⟩

/-- Every day lies in a year that begins in March. -/
theorem exists_marchYear (days : ℤ) :
    ∃ (year : ℤ) (dayOfYear : ℕ), dayOfYear ≤ 365 ∧
      days + 719468 = Calendar.yearStart year + dayOfYear ∧
        days + 719468 < Calendar.yearStart (year + 1) ∧
          civilFromDays days =
            (year + if (5 * dayOfYear + 2) / 153 < 10 then 0 else 1,
              if (5 * dayOfYear + 2) / 153 < 10 then (5 * dayOfYear + 2) / 153 + 3
                else (5 * dayOfYear + 2) / 153 - 9,
              dayOfYear - (153 * ((5 * dayOfYear + 2) / 153) + 2) / 5 + 1) := by
  rcases exists_era days with ⟨era, dayOfEra, bound, split, eraPart, dayPart⟩
  rcases exists_dayOfEra bound with
    ⟨century, quarter, year, rest, centuries, quarters, years, parts, inYear⟩
  rcases yearStart_parts centuries quarters years inYear with ⟨start, inside⟩
  have inEra := Calendar.yearStart_add_era (100 * century + 4 * quarter + year) era
  have nextInEra := Calendar.yearStart_add_era (100 * century + 4 * quarter + year + 1) era
  have next : (100 * century + 4 * quarter + year + 400 * era + 1 : ℤ) =
      100 * century + 4 * quarter + year + 1 + 400 * era := by
    omega
  refine ⟨100 * century + 4 * quarter + year + 400 * era, rest, by omega, by omega, ?_, ?_⟩
  · rw [next]
    omega
  · have quarterPart : (100 * century + 4 * quarter + year) / 4 = 25 * century + quarter := by
      omega
    have centuryPart : (100 * century + 4 * quarter + year) / 100 = century := by omega
    have dayOfYear : dayOfEra - (365 * (100 * century + 4 * quarter + year) +
        (25 * century + quarter) - century) = rest := by
      omega
    simp only [civilFromDays, eraPart, dayPart,
      yearOfEra_eq centuries quarters years parts inYear, quarterPart, centuryPart, dayOfYear]
    by_cases early : (5 * rest + 2) / 153 < 10
    · have laterMonth : ¬(5 * rest + 2) / 153 + 3 ≤ 2 := by omega
      simp only [early, laterMonth, if_true, if_false, Prod.mk.injEq, and_true]
      push_cast
      omega
    · have month := (monthOfYear_spec (show rest ≤ 365 by omega)).1
      have january : (5 * rest + 2) / 153 - 9 ≤ 2 := by omega
      simp only [early, january, if_true, if_false, Prod.mk.injEq, and_true]
      push_cast
      omega

/-- The date of a day lies in its month, and the day is the one it stands for. -/
theorem civilFromDays_spec (days : ℤ) :
    (1 ≤ (civilFromDays days).2.1 ∧ (civilFromDays days).2.1 ≤ 12) ∧
      (1 ≤ (civilFromDays days).2.2 ∧ (civilFromDays days).2.2 ≤ 31) ∧
        Calendar.dayOf (12 * (civilFromDays days).1 + ((civilFromDays days).2.1 - 1 : ℕ))
          (civilFromDays days).2.2 = days ∧
        days < Calendar.monthFirstDay
          (12 * (civilFromDays days).1 + ((civilFromDays days).2.1 - 1 : ℕ) + 1) := by
  rcases exists_marchYear days with ⟨year, dayOfYear, bound, same, inside, civil⟩
  have spec := monthOfYear_spec bound
  rw [civil]
  generalize (5 * dayOfYear + 2) / 153 = month at spec
  rcases spec with ⟨months, afterStart, beforeNext⟩
  by_cases early : month < 10
  · simp only [early, if_true, Int.add_zero]
    have current : (12 * year + ((month + 3 - 1 : ℕ) : ℤ) - 2) / 12 = year := by omega
    have currentMonth : (12 * year + ((month + 3 - 1 : ℕ) : ℤ) - 2) % 12 = month := by omega
    have next : (12 * year + ((month + 3 - 1 : ℕ) : ℤ) + 1 - 2) / 12 = year := by omega
    have nextMonth : (12 * year + ((month + 3 - 1 : ℕ) : ℤ) + 1 - 2) % 12 = month + 1 := by omega
    simp only [Calendar.dayOf, Calendar.monthFirstDay, current, currentMonth, next, nextMonth,
      Calendar.monthStart]
    omega
  · simp only [early, if_false]
    have current : (12 * (year + 1) + ((month - 9 - 1 : ℕ) : ℤ) - 2) / 12 = year := by omega
    have currentMonth : (12 * (year + 1) + ((month - 9 - 1 : ℕ) : ℤ) - 2) % 12 = month := by omega
    by_cases january : month = 10
    · have next : (12 * (year + 1) + ((month - 9 - 1 : ℕ) : ℤ) + 1 - 2) / 12 = year := by omega
      have nextMonth : (12 * (year + 1) + ((month - 9 - 1 : ℕ) : ℤ) + 1 - 2) % 12 = month + 1 := by
        omega
      simp only [Calendar.dayOf, Calendar.monthFirstDay, current, currentMonth, next, nextMonth,
        Calendar.monthStart]
      omega
    · have next : (12 * (year + 1) + ((month - 9 - 1 : ℕ) : ℤ) + 1 - 2) / 12 = year + 1 := by omega
      have nextMonth : (12 * (year + 1) + ((month - 9 - 1 : ℕ) : ℤ) + 1 - 2) % 12 = 0 := by omega
      simp only [Calendar.dayOf, Calendar.monthFirstDay, current, currentMonth, next, nextMonth,
        Calendar.monthStart]
      omega

end Civil

section Places

variable {date deadline now : Date}

theorem getUTCMonth_lt : date.getUTCMonth < 12 := by
  have months := (civilFromDays_spec date.day).1
  simp only [getUTCMonth]
  omega

theorem getUTCDate_bounds : 1 ≤ date.getUTCDate ∧ date.getUTCDate ≤ 31 :=
  (civilFromDays_spec date.day).2.1

theorem dayOf_month : Calendar.dayOf date.month date.getUTCDate = date.day :=
  (civilFromDays_spec date.day).2.2.1

theorem day_lt_nextMonth : date.day < Calendar.monthFirstDay (date.month + 1) :=
  (civilFromDays_spec date.day).2.2.2

theorem day_lt_iff : deadline.day < now.day ↔
    deadline.month < now.month ∨
      (deadline.month = now.month ∧ deadline.getUTCDate < now.getUTCDate) := by
  have positive : (1 : ℤ) ≤ deadline.getUTCDate := by
    exact_mod_cast getUTCDate_bounds.1
  have nowPositive : (1 : ℤ) ≤ now.getUTCDate := by
    exact_mod_cast getUTCDate_bounds.1
  have order := Calendar.dayOf_lt_iff positive (dayOf_month.trans_lt day_lt_nextMonth) nowPositive
    (dayOf_month.trans_lt day_lt_nextMonth)
  rwa [dayOf_month, dayOf_month, Int.ofNat_lt] at order

/-- A moment that a `Date` can hold lies in a year of at most six digits. -/
theorem getUTCFullYear_bounds :
    -1000000 < date.getUTCFullYear ∧ date.getUTCFullYear < 1000000 := by
  have range := date.inRange
  have monthBound := @getUTCMonth_lt date
  have positive := (@getUTCDate_bounds date).1
  have place := @dayOf_month date
  have inside := @day_lt_nextMonth date
  simp only [Calendar.dayOf] at place
  simp only [day, millisecondsPerDay] at place inside
  constructor
  · by_contra early
    have before : date.month + 1 ≤ -11999988 := by
      simp only [month]
      omega
    have bound := Calendar.monthFirstDay_mono before
    have known : Calendar.monthFirstDay (-11999988) < -100000000 := by decide
    omega
  · by_contra late
    have after : 12000000 ≤ date.month := by
      simp only [month]
      omega
    have bound := Calendar.monthFirstDay_mono after
    have known : 100000000 < Calendar.monthFirstDay 12000000 := by decide
    omega

end Places

section Texts

variable {date deadline now : Date}

theorem padded_spec {width number : ℕ} (positive : 0 < width) (bound : number < 10 ^ width) :
    Numerals.OfWidth width (padded width number) ∧
      Numerals.value (padded width number) = number := by
  have short : (Nat.toDigits 10 number).length ≤ width :=
    (Nat.length_toDigits_le_iff (by omega) positive).mpr bound
  refine ⟨⟨?_, ?_⟩, ?_⟩
  · simp [padded]
    omega
  · intro digit mem
    simp only [padded, List.mem_append, List.mem_replicate] at mem
    rcases mem with ⟨_, rfl⟩ | mem
    · rfl
    · exact Decimal.toDigits_isDigit mem
  · simp only [padded, Numerals.value, Nat.ofDigitChars_append, Nat.ofDigitChars_replicate_zero,
      Nat.mul_zero, Nat.ofDigitChars_ten_toDigits]

/-- Numbers written in the same width compare as texts the way they compare as numbers. -/
theorem padded_lt_and_eq {width first second : ℕ} (positive : 0 < width)
    (firstBound : first < 10 ^ width) (secondBound : second < 10 ^ width) :
    (padded width first < padded width second ↔ first < second) ∧
      (padded width first = padded width second ↔ first = second) := by
  have left := padded_spec positive firstBound
  have right := padded_spec positive secondBound
  have order := Numerals.lt_iff_and_eq_iff left.1 right.1
  rwa [left.2, right.2] at order

theorem padded_year (lower : 0 ≤ date.getUTCFullYear) (upper : date.getUTCFullYear ≤ 9999) :
    Numerals.OfWidth 4 (padded 4 date.getUTCFullYear.toNat) ∧
      Numerals.value (padded 4 date.getUTCFullYear.toNat) = date.getUTCFullYear.toNat :=
  padded_spec (by omega) (by omega)

theorem padded_month :
    Numerals.OfWidth 2 (padded 2 (date.getUTCMonth + 1)) ∧
      Numerals.value (padded 2 (date.getUTCMonth + 1)) = date.getUTCMonth + 1 := by
  have bound := @getUTCMonth_lt date
  exact padded_spec (by omega) (by omega)

theorem padded_date :
    Numerals.OfWidth 2 (padded 2 date.getUTCDate) ∧
      Numerals.value (padded 2 date.getUTCDate) = date.getUTCDate := by
  have bound := (@getUTCDate_bounds date).2
  exact padded_spec (by omega) (by omega)

/-- The first ten characters of the ISO text. -/
def calendarText (date : Date) : List Char := date.toISOString.toList.take 10

theorem isOfferExpired_iff :
    isOfferExpired deadline.toISOString (utcCalendarDate now) = true ↔
      deadline.calendarText < now.calendarText := by
  simp [isOfferExpired, utcCalendarDate, calendarText]

theorem exists_toISOString (date : Date) :
    ∃ rest, date.toISOString.toList = yearText date.getUTCFullYear ++ ('-' ::
      (padded 2 (date.getUTCMonth + 1) ++ ('-' :: padded 2 date.getUTCDate))) ++ rest := by
  have positive := (civilFromDays_spec date.day).1.1
  have month : date.getUTCMonth + 1 = (civilFromDays date.day).2.1 := by
    simp only [getUTCMonth]
    omega
  rw [month]
  simp only [toISOString, String.toList_ofList, List.append_assoc, List.cons_append]
  exact ⟨_, rfl⟩

theorem calendarText_of_fourDigits (lower : 0 ≤ date.getUTCFullYear)
    (upper : date.getUTCFullYear ≤ 9999) :
    date.calendarText = padded 4 date.getUTCFullYear.toNat ++ ('-' ::
      (padded 2 (date.getUTCMonth + 1) ++ ('-' :: padded 2 date.getUTCDate))) := by
  rcases exists_toISOString date with ⟨rest, text⟩
  have year := (padded_year lower upper).1.length
  have month := (@padded_month date).1.length
  have day := (@padded_date date).1.length
  rw [calendarText, text, yearText, if_pos ⟨lower, upper⟩]
  apply List.take_left'
  simp [year, month, day]

theorem calendarText_of_sixDigits
    (outside : ¬(0 ≤ date.getUTCFullYear ∧ date.getUTCFullYear ≤ 9999)) :
    date.calendarText = (if date.getUTCFullYear < 0 then '-' else '+') ::
      (padded 6 date.getUTCFullYear.natAbs ++ ('-' :: padded 2 (date.getUTCMonth + 1))) := by
  rcases exists_toISOString date with ⟨rest, text⟩
  have bounds := @getUTCFullYear_bounds date
  have year : (padded 6 date.getUTCFullYear.natAbs).length = 6 :=
    (padded_spec (by omega) (by omega)).1.length
  have month := (@padded_month date).1.length
  have split : yearText date.getUTCFullYear ++ ('-' ::
      (padded 2 (date.getUTCMonth + 1) ++ ('-' :: padded 2 date.getUTCDate))) ++ rest =
        (if date.getUTCFullYear < 0 then '-' else '+') :: (padded 6 date.getUTCFullYear.natAbs ++
          ('-' :: padded 2 (date.getUTCMonth + 1))) ++
            ('-' :: (padded 2 date.getUTCDate ++ rest)) := by
    rw [yearText, if_neg outside]
    simp
  rw [calendarText, text, split]
  apply List.take_left'
  simp [year, month]

/-- Years of four digits: the texts have the order of the days. -/
theorem calendarText_lt_of_fourDigits
    (first : 0 ≤ deadline.getUTCFullYear ∧ deadline.getUTCFullYear ≤ 9999)
    (second : 0 ≤ now.getUTCFullYear ∧ now.getUTCFullYear ≤ 9999) :
    deadline.calendarText < now.calendarText ↔ deadline.day < now.day := by
  have months := @getUTCMonth_lt deadline
  have nowMonths := @getUTCMonth_lt now
  have year := padded_year first.1 first.2
  have nowYear := padded_year second.1 second.2
  rw [calendarText_of_fourDigits first.1 first.2, calendarText_of_fourDigits second.1 second.2,
    Numerals.three_lt_iff year.1 nowYear.1 padded_month.1 padded_month.1 padded_date.1
      padded_date.1,
    year.2, nowYear.2, padded_month.2, padded_month.2, padded_date.2, padded_date.2, day_lt_iff]
  simp only [month]
  omega

/-- Years of six digits and one sign: the texts have the order of the numbers without the sign,
and do not tell the days of a month apart. -/
theorem calendarText_lt_of_sixDigits
    (first : ¬(0 ≤ deadline.getUTCFullYear ∧ deadline.getUTCFullYear ≤ 9999))
    (second : ¬(0 ≤ now.getUTCFullYear ∧ now.getUTCFullYear ≤ 9999))
    (sameSign : deadline.getUTCFullYear < 0 ↔ now.getUTCFullYear < 0) :
    deadline.calendarText < now.calendarText ↔
      deadline.getUTCFullYear.natAbs < now.getUTCFullYear.natAbs ∨
        (deadline.getUTCFullYear = now.getUTCFullYear ∧
          deadline.getUTCMonth < now.getUTCMonth) := by
  have bounds := @getUTCFullYear_bounds deadline
  have nowBounds := @getUTCFullYear_bounds now
  have months := @getUTCMonth_lt deadline
  have nowMonths := @getUTCMonth_lt now
  have years := @padded_lt_and_eq 6 deadline.getUTCFullYear.natAbs now.getUTCFullYear.natAbs
    (by omega) (by omega) (by omega)
  have monthOrder := @padded_lt_and_eq 2 (deadline.getUTCMonth + 1) (now.getUTCMonth + 1)
    (by omega) (by omega) (by omega)
  have yearLength : (padded 6 deadline.getUTCFullYear.natAbs).length =
      (padded 6 now.getUTCFullYear.natAbs).length := by
    rw [(padded_spec (by omega) (by omega)).1.length, (padded_spec (by omega) (by omega)).1.length]
  have sameSpelling : (if deadline.getUTCFullYear < 0 then '-' else '+') =
      if now.getUTCFullYear < 0 then '-' else '+' := by
    simp only [sameSign]
  rw [calendarText_of_sixDigits first, calendarText_of_sixDigits second, sameSpelling,
    List.cons_lt_cons_self, Numerals.append_lt_append_iff yearLength, List.cons_lt_cons_self,
    years.1, years.2, monthOrder.1]
  omega

/-- Which spelling of a year stands first among the texts: a plus, a minus, a digit. -/
def spelling (year : ℤ) : ℕ := if year < 0 then 1 else if year ≤ 9999 then 2 else 0

theorem spelling_cases (year : ℤ) :
    (10000 ≤ year ∧ spelling year = 0) ∨ (year < 0 ∧ spelling year = 1) ∨
      ((0 ≤ year ∧ year ≤ 9999) ∧ spelling year = 2) := by
  simp only [spelling]
  split
  · exact Or.inr (Or.inl ⟨by assumption, rfl⟩)
  · split
    · exact Or.inr (Or.inr ⟨by omega, rfl⟩)
    · exact Or.inl ⟨by omega, rfl⟩

theorem exists_calendarText (date : Date) :
    ∃ head rest, date.calendarText = head :: rest ∧
      (spelling date.getUTCFullYear = 0 ∧ head.toNat = '+'.toNat ∨
        spelling date.getUTCFullYear = 1 ∧ head.toNat = '-'.toNat ∨
          spelling date.getUTCFullYear = 2 ∧ '0'.toNat ≤ head.toNat) := by
  by_cases inside : 0 ≤ date.getUTCFullYear ∧ date.getUTCFullYear ≤ 9999
  · have year := (padded_year inside.1 inside.2).1
    have second : spelling date.getUTCFullYear = 2 := by
      simp only [spelling]
      rw [if_neg (by omega), if_pos inside.2]
    rw [calendarText_of_fourDigits inside.1 inside.2, second]
    cases digits : padded 4 date.getUTCFullYear.toNat with
    | nil =>
        have length := year.length
        simp [digits] at length
    | cons head rest =>
        rw [digits] at year
        have isDigit := Numerals.toNat_of_isDigit (year.isDigit head List.mem_cons_self)
        exact ⟨head, _, rfl, Or.inr (Or.inr ⟨rfl, isDigit.1⟩)⟩
  · rw [calendarText_of_sixDigits inside]
    refine ⟨_, _, rfl, ?_⟩
    by_cases negative : date.getUTCFullYear < 0
    · exact Or.inr (Or.inl ⟨by simp [spelling, negative], by rw [if_pos negative]⟩)
    · have large : ¬date.getUTCFullYear ≤ 9999 := by omega
      exact Or.inl ⟨by simp [spelling, negative, large], by rw [if_neg negative]⟩

/-- Years spelled differently are ordered by their first characters. -/
theorem calendarText_lt_of_spelling
    (differ : spelling deadline.getUTCFullYear ≠ spelling now.getUTCFullYear) :
    deadline.calendarText < now.calendarText ↔
      spelling deadline.getUTCFullYear < spelling now.getUTCFullYear := by
  rcases exists_calendarText deadline with ⟨head, rest, text, spelled⟩
  rcases exists_calendarText now with ⟨nowHead, nowRest, nowText, nowSpelled⟩
  have codes : '+'.toNat = 43 ∧ '-'.toNat = 45 ∧ '0'.toNat = 48 := ⟨rfl, rfl, rfl⟩
  rw [text, nowText, List.cons_lt_cons_iff, Numerals.char_lt_iff, ← Char.toNat_inj]
  omega

end Texts

end Date

end MyBuild
