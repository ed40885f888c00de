import Mathlib.Data.Int.Notation
import Mathlib.Order.Monotone.Basic

/-!
# Days and months

Days are counted from 1 January 1970 and months from January of the year 0, both without an
end.  A month is known by the day it begins with; since months follow one another, the day
decides the month and the order of the days is the order of months and days within them.
-/

namespace Calendar

/-- How many days stand between 1 March of the year 0 and 1 March of a year. -/
def yearStart (year : ℤ) : ℤ := 365 * year + year / 4 - year / 100 + year / 400

/-- How many days stand between 1 March and the beginning of a month after it. -/
def monthStart (month : ℤ) : ℤ := (153 * month + 2) / 5

def monthFirstDay (month : ℤ) : ℤ :=
  yearStart ((month - 2) / 12) + monthStart ((month - 2) % 12) - 719468

/-- A month with a day of it, as the day that is so many days after the first. -/
def dayOf (month day : ℤ) : ℤ := monthFirstDay month + day - 1

section Order

variable {month otherMonth day otherDay : ℤ}

theorem yearStart_succ (year : ℤ) : yearStart year + 365 ≤ yearStart (year + 1) := by
  have century : year / 100 = year / 4 / 25 := by omega
  have cycle : year / 400 = year / 4 / 25 / 4 := by omega
  have nextCentury : (year + 1) / 100 = (year + 1) / 4 / 25 := by omega
  have nextCycle : (year + 1) / 400 = (year + 1) / 4 / 25 / 4 := by omega
  have quarter : (year + 1) / 4 = year / 4 ∨ (year + 1) / 4 = year / 4 + 1 := by omega
  simp only [yearStart, century, cycle, nextCentury, nextCycle]
  rcases quarter with same | next
  · rw [same]
    omega
  · rw [next]
    omega

/-- The calendar repeats every 400 years. -/
theorem yearStart_add_era (year era : ℤ) :
    yearStart (year + 400 * era) = yearStart year + 146097 * era := by
  have quarter : (year + 400 * era) / 4 = year / 4 + 100 * era := by omega
  have century : (year + 400 * era) / 100 = year / 100 + 4 * era := by omega
  have cycle : (year + 400 * era) / 400 = year / 400 + era := by omega
  simp only [yearStart, quarter, century, cycle]
  omega

theorem monthFirstDay_succ (month : ℤ) : monthFirstDay month + 28 ≤ monthFirstDay (month + 1) := by
  have yearLong := yearStart_succ ((month - 2) / 12)
  by_cases last : (month - 2) % 12 = 11
  · have nextYear : (month + 1 - 2) / 12 = (month - 2) / 12 + 1 := by omega
    have nextMonth : (month + 1 - 2) % 12 = 0 := by omega
    simp only [monthFirstDay, nextYear, nextMonth, last, monthStart]
    omega
  · have sameYear : (month + 1 - 2) / 12 = (month - 2) / 12 := by omega
    have nextMonth : (month + 1 - 2) % 12 = (month - 2) % 12 + 1 := by omega
    simp only [monthFirstDay, sameYear, nextMonth, monthStart]
    omega

theorem monthFirstDay_mono {first second : ℤ} (ordered : first ≤ second) :
    monthFirstDay first ≤ monthFirstDay second := by
  apply monotone_int_of_le_succ _ ordered
  intro month
  have next := monthFirstDay_succ month
  omega

/-- Days are ordered by their months, and within a month by their places in it. -/
theorem dayOf_lt_iff (positive : 1 ≤ day) (inside : dayOf month day < monthFirstDay (month + 1))
    (otherPositive : 1 ≤ otherDay)
    (otherInside : dayOf otherMonth otherDay < monthFirstDay (otherMonth + 1)) :
    dayOf month day < dayOf otherMonth otherDay ↔
      month < otherMonth ∨ (month = otherMonth ∧ day < otherDay) := by
  simp only [dayOf] at inside otherInside ⊢
  rcases lt_trichotomy month otherMonth with before | rfl | after
  · have bound := monthFirstDay_mono (Int.add_one_le_of_lt before)
    constructor
    · exact fun _ => Or.inl before
    · intro _
      omega
  · omega
  · have bound := monthFirstDay_mono (Int.add_one_le_of_lt after)
    omega

/-- A day of a later month, or a later day of the month, is a later day; it need not lie within
its own month. -/
theorem dayOf_le_dayOf (positive : 1 ≤ day)
    (otherInside : dayOf otherMonth otherDay < monthFirstDay (otherMonth + 1))
    (later : otherMonth < month ∨ (otherMonth = month ∧ otherDay ≤ day)) :
    dayOf otherMonth otherDay ≤ dayOf month day := by
  simp only [dayOf] at otherInside ⊢
  rcases later with after | ⟨rfl, after⟩
  · have bound := monthFirstDay_mono (Int.add_one_le_of_lt after)
    omega
  · omega

end Order

end Calendar
