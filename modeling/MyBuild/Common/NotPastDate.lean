import MyBuild.Shared.Calendar

/-!
# A date that is not in the past

The check compares the moment a text stands for with the beginning of the current UTC day.
The beginning is put together by `Date.UTC`, which takes a year below 100 for one of the
twentieth century.  A text is read as the format of ECMAScript says; what the format leaves
open (times without an offset, other spellings) is answered by the engine.
-/

namespace MyBuild

namespace Date

def ofTime? (time : ℤ) : Option Date :=
  if inRange : -8640000000000000 ≤ time ∧ time ≤ 8640000000000000 then some ⟨time, inRange⟩
  else none

def utcYear (year : ℤ) : ℤ := if 0 ≤ year ∧ year ≤ 99 then 1900 + year else year

/-- `Date.UTC`: midnight of a date, the months counted from 0. -/
def utc (year : ℤ) (month date : ℕ) : Option Date :=
  ofTime? (millisecondsPerDay * Calendar.dayOf (12 * utcYear year + month) date)

/-- `YYYY-MM-DD`.  A date that its month does not have runs over into the next month. -/
def calendarDay? : List Char → Option ℤ
  | [year1, year2, year3, year4, '-', month1, month2, '-', date1, date2] =>
      let year := Numerals.value [year1, year2, year3, year4]
      let month := Numerals.value [month1, month2]
      let date := Numerals.value [date1, date2]
      if [year1, year2, year3, year4, month1, month2, date1, date2].all Char.isDigit ∧
          (1 ≤ month ∧ month ≤ 12) ∧ (1 ≤ date ∧ date ≤ 31) then
        some (Calendar.dayOf (12 * year + (month - 1 : ℕ)) date)
      else none
  | _ => none

/-- `Z` or an offset from UTC, in minutes. -/
def offset? : List Char → Option ℤ
  | ['Z'] => some 0
  | [sign, hour1, hour2, ':', minute1, minute2] =>
      let hour := Numerals.value [hour1, hour2]
      let minute := Numerals.value [minute1, minute2]
      if (sign = '+' ∨ sign = '-') ∧ [hour1, hour2, minute1, minute2].all Char.isDigit ∧
          hour < 24 ∧ minute < 60 then
        some (if sign = '-' then -(60 * hour + minute : ℕ) else (60 * hour + minute : ℕ))
      else none
  | _ => none

/-- `Thh:mm:ss` with an offset, as milliseconds after the midnight of UTC. -/
def clockTime? : List Char → Option ℤ
  | 'T' :: hour1 :: hour2 :: ':' :: minute1 :: minute2 :: ':' :: second1 :: second2 :: zone =>
      let hour := Numerals.value [hour1, hour2]
      let minute := Numerals.value [minute1, minute2]
      let second := Numerals.value [second1, second2]
      if [hour1, hour2, minute1, minute2, second1, second2].all Char.isDigit ∧
          hour < 24 ∧ minute < 60 ∧ second < 60 then
        (offset? zone).map fun offset =>
          1000 * (3600 * hour + 60 * minute + second : ℕ) - 60000 * offset
      else none
  | _ => none

def time? (text : List Char) : Option ℤ :=
  match calendarDay? (text.take 10), text.drop 10 with
  | none, _ => none
  | some day, [] => some (millisecondsPerDay * day)
  | some day, char :: rest =>
      (clockTime? (char :: rest)).map (millisecondsPerDay * day + ·)

/-- `new Date(text)`, without a date where that is invalid. -/
def parse (engine : String → Option Date) (text : String) : Option Date :=
  match time? text.toList with
  | none => engine text
  | some time => ofTime? time

example : (parse (fun _ => none) "2026-09-29T23:30:00-01:00").map toISOString =
    some "2026-09-30T00:30:00.000Z" := by
  decide +kernel

end Date

def startOfUtcToday (now : Date) : Option Date :=
  Date.utc now.getUTCFullYear now.getUTCMonth now.getUTCDate

def isNotPastDate (engine : String → Option Date) (now : Date) (value : String) : Bool :=
  match Date.parse engine value, startOfUtcToday now with
  | some parsed, some start => start.time ≤ parsed.time
  | _, _ => false

/-- The first day that the check accepts. -/
def firstAcceptedDay (now : Date) : ℤ :=
  Calendar.dayOf (12 * Date.utcYear now.getUTCFullYear + now.getUTCMonth) now.getUTCDate

section Acceptance

variable {engine : String → Option Date} {now parsed : Date} {text : String}

theorem firstAcceptedDay_eq (outside : ¬(0 ≤ now.getUTCFullYear ∧ now.getUTCFullYear ≤ 99)) :
    firstAcceptedDay now = now.day := by
  rw [firstAcceptedDay, Date.utcYear, if_neg outside]
  exact Date.dayOf_month

theorem firstAcceptedDay_bounds (lower : 0 ≤ now.getUTCFullYear)
    (upper : now.getUTCFullYear ≤ 99) :
    now.day ≤ firstAcceptedDay now ∧ firstAcceptedDay now < Calendar.monthFirstDay 120000 := by
  have months := @Date.getUTCMonth_lt now
  have dates := @Date.getUTCDate_bounds now
  have place := @Date.dayOf_month now
  rw [firstAcceptedDay, Date.utcYear, if_pos ⟨lower, upper⟩, ← place]
  simp only [Calendar.dayOf, Date.month]
  constructor
  · have later : 12 * now.getUTCFullYear + now.getUTCMonth ≤
        12 * (1900 + now.getUTCFullYear) + now.getUTCMonth := by
      omega
    have order := Calendar.monthFirstDay_mono later
    omega
  · have early : 12 * (1900 + now.getUTCFullYear) + (now.getUTCMonth : ℤ) ≤ 23999 := by omega
    have order := Calendar.monthFirstDay_mono early
    have known : Calendar.monthFirstDay 23999 + 31 < Calendar.monthFirstDay 120000 := by decide
    omega

theorem startOfUtcToday_eq (now : Date) :
    ∃ start, startOfUtcToday now = some start ∧
      start.time = Date.millisecondsPerDay * firstAcceptedDay now := by
  have range := now.inRange
  have days : -100000000 ≤ firstAcceptedDay now ∧ firstAcceptedDay now ≤ 100000000 := by
    by_cases inside : 0 ≤ now.getUTCFullYear ∧ now.getUTCFullYear ≤ 99
    · have bounds := firstAcceptedDay_bounds inside.1 inside.2
      have known : Calendar.monthFirstDay 120000 < 100000000 := by decide
      simp only [Date.day, Date.millisecondsPerDay] at bounds
      omega
    · rw [firstAcceptedDay_eq inside, Date.day, Date.millisecondsPerDay]
      omega
  have inRange : -8640000000000000 ≤ Date.millisecondsPerDay * firstAcceptedDay now ∧
      Date.millisecondsPerDay * firstAcceptedDay now ≤ 8640000000000000 := by
    simp only [Date.millisecondsPerDay]
    omega
  refine ⟨⟨Date.millisecondsPerDay * firstAcceptedDay now, inRange⟩, ?_, rfl⟩
  rw [startOfUtcToday, Date.utc, Date.ofTime?, ← firstAcceptedDay, dif_pos inRange]

theorem isNotPastDate_iff (stored : Date.parse engine text = some parsed) :
    isNotPastDate engine now text = true ↔ firstAcceptedDay now ≤ parsed.day := by
  rcases startOfUtcToday_eq now with ⟨start, today, time⟩
  simp only [isNotPastDate, stored, today, decide_eq_true_eq, time, Date.day,
    Date.millisecondsPerDay]
  omega

end Acceptance

end MyBuild
