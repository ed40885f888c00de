import MyBuild.Common.NotPastDate

/-!
# The last day of an offer

An offer is taken when its deadline is not in the past, by the moments, and can be accepted
while the deadline has not expired, by the first ten characters of the ISO texts.  The two
agree while the years have four digits, except where `Date.UTC` reads the year of the current
day as one of the twentieth century.
-/

namespace MyBuild

/-- The server takes the deadline today if and only if it can be accepted today. -/
def BoundaryAgrees (engine : String → Option Date) (now : Date) (proposedDeadline : String)
    (stored : Date) : Prop :=
  isNotPastDate engine now proposedDeadline = true ↔
    isOfferExpired stored.toISOString (utcCalendarDate now) = false

/-- A deadline and a current day between which the texts tell what the moments tell. -/
def TextsTellDays (deadline now : Date) : Prop :=
  (deadline.getUTCFullYear ≤ 9999 ∧ now.getUTCFullYear ≤ 9999 ∧
      (0 ≤ deadline.getUTCFullYear ∨ 0 ≤ now.getUTCFullYear) ∧
        ¬((0 ≤ now.getUTCFullYear ∧ now.getUTCFullYear ≤ 99) ∧ now.day ≤ deadline.day ∧
          deadline.day < Calendar.dayOf (12 * (1900 + now.getUTCFullYear) + now.getUTCMonth)
            now.getUTCDate)) ∨
    (10000 ≤ deadline.getUTCFullYear ∧ 10000 ≤ now.getUTCFullYear ∧
      (deadline.month ≠ now.month ∨ now.getUTCDate ≤ deadline.getUTCDate)) ∨
    (deadline.getUTCFullYear < 0 ∧ now.getUTCFullYear < 0 ∧
      deadline.getUTCFullYear = now.getUTCFullYear ∧
        (deadline.month ≠ now.month ∨ now.getUTCDate ≤ deadline.getUTCDate))

section Boundary

variable {engine : String → Option Date} {now deadline : Date} {proposedDeadline : String}

/-- A deadline after the year 9999 is accepted by every check of a day before it. -/
theorem firstAcceptedDay_le_of_large (large : 10000 ≤ deadline.getUTCFullYear)
    (small : now.getUTCFullYear ≤ 9999) : firstAcceptedDay now ≤ deadline.day := by
  have months := @Date.getUTCMonth_lt now
  have order := @Date.day_lt_iff now deadline
  by_cases inside : 0 ≤ now.getUTCFullYear ∧ now.getUTCFullYear ≤ 99
  · have bounds := firstAcceptedDay_bounds inside.1 inside.2
    have month : 120000 ≤ deadline.month := by
      simp only [Date.month]
      omega
    have start := Calendar.monthFirstDay_mono month
    have place := @Date.dayOf_month deadline
    have dates := (@Date.getUTCDate_bounds deadline).1
    simp only [Calendar.dayOf] at place
    omega
  · rw [firstAcceptedDay_eq inside]
    simp only [Date.month] at order
    omega

theorem day_lt_of_year_lt (earlier : deadline.getUTCFullYear < now.getUTCFullYear) :
    deadline.day < now.day := by
  have months := @Date.getUTCMonth_lt deadline
  rw [Date.day_lt_iff]
  simp only [Date.month]
  omega

theorem agree_of_fourDigits
    (first : 0 ≤ deadline.getUTCFullYear ∧ deadline.getUTCFullYear ≤ 9999)
    (second : 0 ≤ now.getUTCFullYear ∧ now.getUTCFullYear ≤ 9999) :
    (firstAcceptedDay now ≤ deadline.day ↔ ¬deadline.calendarText < now.calendarText) ↔
      TextsTellDays deadline now := by
  rw [Date.calendarText_lt_of_fourDigits first second, TextsTellDays]
  by_cases early : 0 ≤ now.getUTCFullYear ∧ now.getUTCFullYear ≤ 99
  · have bounds := (firstAcceptedDay_bounds early.1 early.2).1
    rw [firstAcceptedDay, Date.utcYear, if_pos early] at bounds ⊢
    omega
  · rw [firstAcceptedDay_eq early]
    omega

theorem agree_of_large (first : 10000 ≤ deadline.getUTCFullYear)
    (second : 10000 ≤ now.getUTCFullYear) :
    (firstAcceptedDay now ≤ deadline.day ↔ ¬deadline.calendarText < now.calendarText) ↔
      TextsTellDays deadline now := by
  have months := @Date.getUTCMonth_lt deadline
  have nowMonths := @Date.getUTCMonth_lt now
  have order := @Date.day_lt_iff deadline now
  rw [Date.calendarText_lt_of_sixDigits (by omega) (by omega) (by omega), TextsTellDays,
    firstAcceptedDay_eq (by omega)]
  simp only [Date.month] at order ⊢
  omega

theorem agree_of_negative (first : deadline.getUTCFullYear < 0)
    (second : now.getUTCFullYear < 0) :
    (firstAcceptedDay now ≤ deadline.day ↔ ¬deadline.calendarText < now.calendarText) ↔
      TextsTellDays deadline now := by
  have months := @Date.getUTCMonth_lt deadline
  have nowMonths := @Date.getUTCMonth_lt now
  have order := @Date.day_lt_iff deadline now
  rw [Date.calendarText_lt_of_sixDigits (by omega) (by omega) (by omega), TextsTellDays,
    firstAcceptedDay_eq (by omega)]
  simp only [Date.month] at order ⊢
  omega

/-- A large year is refused as expired, or takes every deadline before it for a later one. -/
theorem disagree_of_large
    (one : 10000 ≤ deadline.getUTCFullYear ∧ now.getUTCFullYear ≤ 9999 ∨
      deadline.getUTCFullYear ≤ 9999 ∧ 10000 ≤ now.getUTCFullYear) :
    (firstAcceptedDay now ≤ deadline.day ↔ ¬deadline.calendarText < now.calendarText) ↔
      TextsTellDays deadline now := by
  have spelled := Date.spelling_cases deadline.getUTCFullYear
  have nowSpelled := Date.spelling_cases now.getUTCFullYear
  rw [Date.calendarText_lt_of_spelling (by omega), TextsTellDays]
  rcases one with ⟨large, small⟩ | ⟨small, large⟩
  · have accepted := firstAcceptedDay_le_of_large large small
    omega
  · have earlier := day_lt_of_year_lt (small.trans_lt large)
    rw [firstAcceptedDay_eq (by omega)]
    omega

theorem agree_of_oneNegative
    (one : deadline.getUTCFullYear < 0 ∧ (0 ≤ now.getUTCFullYear ∧ now.getUTCFullYear ≤ 9999) ∨
      (0 ≤ deadline.getUTCFullYear ∧ deadline.getUTCFullYear ≤ 9999) ∧ now.getUTCFullYear < 0) :
    (firstAcceptedDay now ≤ deadline.day ↔ ¬deadline.calendarText < now.calendarText) ↔
      TextsTellDays deadline now := by
  have spelled := Date.spelling_cases deadline.getUTCFullYear
  have nowSpelled := Date.spelling_cases now.getUTCFullYear
  rw [Date.calendarText_lt_of_spelling (by omega), TextsTellDays]
  rcases one with ⟨negative, lower, upper⟩ | ⟨⟨lower, upper⟩, negative⟩
  · have earlier := day_lt_of_year_lt (negative.trans_le lower)
    by_cases early : now.getUTCFullYear ≤ 99
    · have bounds := (firstAcceptedDay_bounds lower early).1
      omega
    · rw [firstAcceptedDay_eq (by omega)]
      omega
  · have earlier := day_lt_of_year_lt (negative.trans_le lower)
    rw [firstAcceptedDay_eq (by omega)]
    omega

/-- The check and the acceptance agree exactly where the texts tell what the moments tell. -/
theorem boundaryAgrees_iff (stored : Date.parse engine proposedDeadline = some deadline) :
    BoundaryAgrees engine now proposedDeadline deadline ↔ TextsTellDays deadline now := by
  rw [BoundaryAgrees, isNotPastDate_iff stored, ← Bool.not_eq_true, Date.isOfferExpired_iff]
  rcases Date.spelling_cases deadline.getUTCFullYear with large | negative | fourDigits
  · rcases Date.spelling_cases now.getUTCFullYear with nowLarge | nowNegative | nowFourDigits
    · exact agree_of_large large.1 nowLarge.1
    · exact disagree_of_large (by omega)
    · exact disagree_of_large (by omega)
  · rcases Date.spelling_cases now.getUTCFullYear with nowLarge | nowNegative | nowFourDigits
    · exact disagree_of_large (by omega)
    · exact agree_of_negative negative.1 nowNegative.1
    · exact agree_of_oneNegative (Or.inl ⟨negative.1, nowFourDigits.1⟩)
  · rcases Date.spelling_cases now.getUTCFullYear with nowLarge | nowNegative | nowFourDigits
    · exact disagree_of_large (by omega)
    · exact agree_of_oneNegative (Or.inr ⟨fourDigits.1, nowNegative.1⟩)
    · exact agree_of_fourDigits fourDigits.1 nowFourDigits.1

end Boundary

/-- 29 September 2026, a moment after midnight. -/
def afterMidnight : Date := ⟨1790640000123, by decide⟩

theorem boundaryAgrees_iff_example :
    Date.parse (fun _ => none) "2026-09-29T23:30:00-01:00" =
        some ⟨1790728200000, by decide⟩ ∧
      BoundaryAgrees (fun _ => none) afterMidnight "2026-09-29T23:30:00-01:00"
        ⟨1790728200000, by decide⟩ := by
  have stored : Date.parse (fun _ => none) "2026-09-29T23:30:00-01:00" =
      some ⟨1790728200000, by decide⟩ := by
    decide +kernel
  refine ⟨stored, (boundaryAgrees_iff stored).mpr ?_⟩
  exact Or.inl (by decide +kernel)

/-- The last hour of the year 9999 west of Greenwich belongs to the year 10000: the server takes
the deadline and holds it for expired. -/
theorem not_boundaryAgrees_year_10000 :
    ¬∀ (now deadline : Date) (proposedDeadline : String),
      Date.parse (fun _ => none) proposedDeadline = some deadline →
        BoundaryAgrees (fun _ => none) now proposedDeadline deadline := by
  intro agrees
  have stored : Date.parse (fun _ => none) "9999-12-31T23:00:00-01:00" =
      some ⟨253402300800000, by decide⟩ := by
    decide +kernel
  have taken : isNotPastDate (fun _ => none) afterMidnight "9999-12-31T23:00:00-01:00" = true := by
    decide +kernel
  have current := (agrees afterMidnight _ _ stored).mp taken
  have expired : isOfferExpired (Date.toISOString ⟨253402300800000, by decide⟩)
      (utcCalendarDate afterMidnight) = true := by
    decide +kernel
  rw [current] at expired
  contradiction

end MyBuild
