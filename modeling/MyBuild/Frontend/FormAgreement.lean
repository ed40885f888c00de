import Mathlib.Tactic.NormNum
import Mathlib.Tactic.Positivity
import MyBuild.Common.Uuid
import MyBuild.Frontend.Forms

/-!
# The forms against the requests

A form that reports no error sends a body that the request takes, but for three things: lengths
are counted in different units, a date is not looked into, and a day is compared as a text.
-/

namespace MyBuild

/-- A check that refuses nothing has no reason to refuse and neither has what follows. -/
theorem refusal_eq_none {refused : Prop} [Decidable refused] {message : String}
    {rest : Option String} :
    (if refused then some message else rest) = none ↔ ¬refused ∧ rest = none := by
  by_cases holds : refused <;> simp [holds]

section Texts

variable {text raw missing field property : String} {limits : LengthLimits}

theorem one_le_utf16Width (char : Char) : 1 ≤ utf16Width char := by
  simp only [utf16Width]
  split <;> omega

theorem length_le_utf16Length (text : String) : text.toList.length ≤ utf16Length text := by
  have bound := List.card_nsmul_le_sum (text.toList.map utf16Width) 1 (by
    intro width mem
    rcases List.mem_map.mp mem with ⟨char, _, rfl⟩
    exact one_le_utf16Width char)
  simpa [utf16Length] using bound

theorem characterCount_le_utf16Length (text : String) : characterCount text ≤ utf16Length text :=
  (characterCount_le_length text).trans (length_le_utf16Length text)

/-- A text that the form takes lacks nothing but perhaps characters. -/
theorem textErrors_of_accepted {platform : Platform}
    (accepted : OrderFormChecks.text missing field limits raw = none) :
    textErrors platform property field limits (trim raw) = [] ↔
      limits.min ≤ characterCount (trim raw) := by
  have shorter := characterCount_le_utf16Length (trim raw)
  simp only [OrderFormChecks.text, refusal_eq_none, and_true] at accepted
  have inside := accepted.2
  simp only [outOfRange, Bool.not_eq_true, Bool.or_eq_false_iff, decide_eq_false_iff_not] at inside
  simp only [textErrors, trim_trim, propertyErrors_eq_nil, List.forall_mem_singleton,
    Validator.length, platform.textLength.documented, Bool.and_eq_true, decide_eq_true_eq]
  omega

end Texts

section Choices

theorem category_of_accepted {value : Option OrderCategory}
    (accepted : OrderFormChecks.category value = none) :
    CreateOrderChecks.category ((value.map OrderCategory.value).getD "") = [] := by
  cases value with
  | none => simp [OrderFormChecks.category] at accepted
  | some category =>
      simp only [CreateOrderChecks.category, propertyErrors_eq_nil, List.forall_mem_singleton]
      cases category <;> decide +kernel

theorem objectType_of_accepted {value : Option ObjectType}
    (accepted : OrderFormChecks.objectType value = none) :
    CreateOrderChecks.objectType ((value.map ObjectType.value).getD "") = [] := by
  cases value with
  | none => simp [OrderFormChecks.objectType] at accepted
  | some objectType =>
      simp only [CreateOrderChecks.objectType, propertyErrors_eq_nil, List.forall_mem_singleton]
      cases objectType <;> decide +kernel

end Choices

section Numbers

variable {number : String → Option ℚ} {platform : Platform} {raw value : String}

theorem den_numeralValue {whole fraction : List Char} (places : fraction.length ≤ 2) :
    (numeralValue whole fraction * 10 ^ 2).den = 1 := by
  have split : (10 : ℚ) ^ 2 = 10 ^ fraction.length * 10 ^ (2 - fraction.length) := by
    rw [← pow_add, Nat.add_sub_cancel' places]
  have whole_eq : numeralValue whole fraction * 10 ^ 2 =
      ((Numerals.value (whole ++ fraction) * 10 ^ (2 - fraction.length) : ℕ) : ℚ) := by
    rw [numeralValue, split, ← mul_assoc, div_mul_cancel₀ _ (pow_ne_zero _ (by norm_num))]
    push_cast
    rfl
  rw [whole_eq, Rat.den_natCast]

theorem decimals_of_isNumeral {whole fraction : List Char}
    (numeral : IsNumeral value.toList whole fraction) :
    OrderFormChecks.decimals value = fraction.length := by
  have noPoint : ∀ {digits : List Char}, (∀ digit ∈ digits, digit.isDigit = true) →
      '.' ∉ digits := by
    intro digits all mem
    exact absurd (all '.' mem) (by decide)
  have spelled := numeral.spelled
  cases fraction with
  | nil =>
      have parts : (['.'].intercalate [whole]).splitOn '.' = [whole] :=
        List.splitOn_intercalate '.' (by simpa using noPoint numeral.wholeDigits) (by simp)
      simp only [List.intercalate_singleton] at parts
      simp only [List.isEmpty_nil, if_true, List.append_nil] at spelled
      simp [OrderFormChecks.decimals, spelled, parts]
  | cons digit fraction =>
      have pieces : ∀ digits ∈ [whole, digit :: fraction], '.' ∉ digits := by
        rw [List.forall_mem_cons, List.forall_mem_singleton]
        exact ⟨noPoint numeral.wholeDigits, noPoint numeral.fractionDigits⟩
      have parts := List.splitOn_intercalate '.' pieces (by simp)
      have joined : ['.'].intercalate [whole, digit :: fraction] =
          whole ++ '.' :: digit :: fraction := by
        simp [List.intercalate, List.intersperse]
      rw [joined] at parts
      simp only [List.isEmpty_cons, Bool.false_eq_true, if_false] at spelled
      simp [OrderFormChecks.decimals, spelled, parts]

theorem squareMeters_accepted (accepted : OrderFormChecks.squareMeters number raw = none) :
    numeralPattern.test (normalizeNumber raw).toList = true ∧
      OrderFormChecks.decimals (normalizeNumber raw) ≤ OrderLimits.squareMetersMaxDecimals ∧
        ∃ parsed, number (normalizeNumber raw) = some parsed ∧ 0 < parsed ∧
          parsed ≤ OrderLimits.squareMetersMax := by
  simp only [OrderFormChecks.squareMeters, refusal_eq_none] at accepted
  rcases accepted with ⟨_, matching, short, accepted⟩
  cases read : number (normalizeNumber raw) with
  | none =>
      rw [read] at accepted
      exact absurd accepted (Option.some_ne_none _)
  | some parsed =>
      simp only [read, refusal_eq_none, and_true] at accepted
      exact ⟨by simpa using matching, not_lt.mp short, parsed, rfl, not_le.mp accepted.1,
        not_lt.mp accepted.2⟩

/-- A number within the limit that is written with two decimals has no more of them when read. -/
theorem den_of_reads {whole fraction : List Char} {parsed : ℚ} (reads : ReadsNumerals number)
    (numeral : IsNumeral value.toList whole fraction) (places : fraction.length ≤ 2)
    (read : number value = some parsed) (bounded : parsed ≤ OrderLimits.squareMetersMax) :
    (parsed * 10 ^ 2).den = 1 := by
  by_cases short : Numerals.value (whole ++ fraction) < 10 ^ 15
  · have exact := reads.exact numeral short (by omega)
    rw [read, Option.some.injEq] at exact
    rw [exact]
    exact den_numeralValue places
  · have limitDigits : "1000001".toList.all Char.isDigit = true := by decide +kernel
    have limit : IsNumeral "1000001".toList "1000001".toList [] :=
      ⟨by simp, by simp, List.all_eq_true.mp limitDigits, by simp⟩
    have limitValue : numeralValue "1000001".toList [] = 1000001 := by
      have digits : Numerals.value ("1000001".toList ++ []) = 1000001 := by decide +kernel
      rw [numeralValue, digits]
      norm_num
    have limitRead := reads.exact limit (by decide +kernel) (by simp)
    have large : (1000001 : ℚ) ≤ numeralValue whole fraction := by
      have power : 10 ^ fraction.length ≤ 10 ^ 2 := Nat.pow_le_pow_right (by omega) places
      have digits : 1000001 * 10 ^ fraction.length ≤ Numerals.value (whole ++ fraction) := by omega
      rw [numeralValue, le_div_iff₀ (by positivity)]
      exact_mod_cast digits
    rcases reads.monotone limit numeral (limitValue ▸ large) parsed read with
      ⟨lower, lowerRead, below⟩
    rw [limitRead, limitValue, Option.some.injEq] at lowerRead
    rw [← lowerRead] at below
    have contrary := below.trans bounded
    norm_num [OrderLimits.squareMetersMax] at contrary

theorem squareMeters_of_accepted (reads : ReadsNumerals platform.number)
    (accepted : OrderFormChecks.squareMeters platform.number raw = none) :
    CreateOrderChecks.squareMeters platform (normalizeNumber raw) = [] := by
  rcases squareMeters_accepted accepted with ⟨matching, short, parsed, read, positive, bounded⟩
  rcases numeralPattern_test.mp matching with ⟨whole, fraction, numeral⟩
  rw [decimals_of_isNumeral numeral] at short
  have places := den_of_reads reads numeral short read bounded
  simp only [CreateOrderChecks.squareMeters, propertyErrors_eq_nil, read, List.forall_mem_cons,
    List.not_mem_nil, false_imp_iff, implies_true, and_true, Validator.isNumber,
    Validator.isPositive, Validator.max, Option.any_some, beq_iff_eq, decide_eq_true_eq]
  exact ⟨places, positive, bounded⟩

theorem isWhitespace_point (char : Char) :
    isWhitespace (if char = ',' then '.' else char) = isWhitespace char := by
  split
  case isTrue isComma =>
    rw [isComma]
    decide +kernel
  case isFalse => rfl

theorem trim_normalizeNumber (raw : String) : trim (normalizeNumber raw) = normalizeNumber raw := by
  simp only [normalizeNumber, trim, String.toList_ofList, Pieces.trim_map isWhitespace_point,
    Pieces.trim_trim]

theorem optionalText_given (trimmed : trim value = value) :
    optionalText (given value) = given value := by
  simp only [given]
  split
  · rfl
  · rename_i nonempty
    rw [optionalText, Option.bind_some, trimmed, if_neg nonempty]

theorem clientBudget_of_accepted (accepted : OrderFormChecks.clientBudget raw = none) :
    CreateOrderChecks.clientBudget (given (normalizeNumber raw)) = [] := by
  rw [CreateOrderChecks.clientBudget, optionalText_given (trim_normalizeNumber raw)]
  simp only [OrderFormChecks.clientBudget, refusal_eq_none, and_true] at accepted
  cases empty : (normalizeNumber raw).toList.isEmpty with
  | true => simp [given, empty, optionalErrors]
  | false =>
      simpa [given, empty, optionalErrors, Validator.matchesPattern] using accepted

end Numbers

section Dates

variable {now : Date} {value : String} {year month date : List Char}

/-- A text `YYYY-MM-DD` with its three numerals. -/
structure IsCalendarText (value : String) (year month date : List Char) : Prop where
  spelled : value.toList = year ++ '-' :: (month ++ '-' :: date)
  year : Numerals.OfWidth 4 year
  month : Numerals.OfWidth 2 month
  date : Numerals.OfWidth 2 date

theorem isCalendarDate_iff :
    isCalendarDate value = true ↔ ∃ year month date, IsCalendarText value year month date := by
  simp only [isCalendarDate, calendarDatePattern, Regex.test_iff, Regex.mem_remainders_seq,
    Regex.mem_remainders_times_one, Regex.mem_remainders_one, Regex.mem_remainders_atEnd]
  constructor
  · rintro ⟨_, _, ⟨year, yearLength, yearDigits, yearText⟩, _, ⟨mark, isMark, rfl⟩, _,
      ⟨month, monthLength, monthDigits, rfl⟩, _, ⟨otherMark, isOtherMark, rfl⟩, _,
      ⟨date, dateLength, dateDigits, rfl⟩, rfl, rfl⟩
    refine ⟨year, month, date, ?_, ⟨yearLength, yearDigits⟩, ⟨monthLength, monthDigits⟩,
      ⟨dateLength, dateDigits⟩⟩
    rw [yearText, beq_iff_eq.mp isMark, beq_iff_eq.mp isOtherMark, List.append_nil]
  · rintro ⟨year, month, date, text⟩
    exact ⟨[], _, ⟨year, text.year.length, text.year.isDigit, text.spelled⟩, _,
      ⟨'-', by simp, rfl⟩, _, ⟨month, text.month.length, text.month.isDigit, rfl⟩, _,
      ⟨'-', by simp, rfl⟩, [], ⟨date, text.date.length, text.date.isDigit, by simp⟩, rfl, rfl⟩

/-- The day a text stands for. -/
def typedDay (year month date : List Char) : ℤ :=
  Calendar.dayOf (12 * Numerals.value year + (Numerals.value month - 1 : ℕ)) (Numerals.value date)

/-- A month and a date that there can be. -/
def IsPossible (month date : List Char) : Prop :=
  (1 ≤ Numerals.value month ∧ Numerals.value month ≤ 12) ∧
    (1 ≤ Numerals.value date ∧ Numerals.value date ≤ 31)

theorem typedDay_bounds (text : IsCalendarText value year month date)
    (possible : IsPossible month date) :
    Calendar.monthFirstDay 0 ≤ typedDay year month date ∧
      typedDay year month date < Calendar.monthFirstDay 120000 := by
  have years := Numerals.value_lt text.year.isDigit
  rw [text.year.length] at years
  have earliest : (0 : ℤ) ≤ 12 * Numerals.value year + (Numerals.value month - 1 : ℕ) := by omega
  have latest : (12 * Numerals.value year + (Numerals.value month - 1 : ℕ) : ℤ) ≤ 119999 := by
    have months := possible.1.2
    omega
  have lower := Calendar.monthFirstDay_mono earliest
  have upper := Calendar.monthFirstDay_mono latest
  have last : Calendar.monthFirstDay 119999 + 31 ≤ Calendar.monthFirstDay 120000 := by decide
  have dates := possible.2
  simp only [typedDay, Calendar.dayOf]
  omega

theorem time?_of_possible (text : IsCalendarText value year month date)
    (possible : IsPossible month date) :
    Date.time? value.toList = some (Date.millisecondsPerDay * typedDay year month date) := by
  rcases text with ⟨spelled, yearShape, monthShape, dateShape⟩
  rcases List.length_eq_four.mp yearShape.length with ⟨year1, year2, year3, year4, rfl⟩
  rcases List.length_eq_two.mp monthShape.length with ⟨month1, month2, rfl⟩
  rcases List.length_eq_two.mp dateShape.length with ⟨date1, date2, rfl⟩
  have digits : [year1, year2, year3, year4, month1, month2, date1, date2].all Char.isDigit =
      true := by
    rw [List.all_eq_true]
    intro digit mem
    have parts : digit ∈ [year1, year2, year3, year4] ∨ digit ∈ [month1, month2] ∨
        digit ∈ [date1, date2] := by
      simpa [or_assoc] using mem
    rcases parts with mem | mem | mem
    · exact yearShape.isDigit digit mem
    · exact monthShape.isDigit digit mem
    · exact dateShape.isDigit digit mem
  rw [spelled]
  simp only [Date.time?, List.cons_append, List.nil_append, List.take_succ_cons, List.take_zero,
    List.drop_succ_cons, List.drop_nil, Date.calendarDay?]
  rw [if_pos ⟨digits, possible⟩]
  rfl

theorem parse_of_possible {engine : String → Option Date}
    (text : IsCalendarText value year month date) (possible : IsPossible month date) :
    ∃ parsed, Date.parse engine value = some parsed ∧ parsed.day = typedDay year month date := by
  have bounds := typedDay_bounds text possible
  have earliest : -1000000 ≤ Calendar.monthFirstDay 0 := by decide
  have latest : Calendar.monthFirstDay 120000 ≤ 100000000 := by decide
  have inRange : -8640000000000000 ≤ Date.millisecondsPerDay * typedDay year month date ∧
      Date.millisecondsPerDay * typedDay year month date ≤ 8640000000000000 := by
    simp only [Date.millisecondsPerDay]
    omega
  refine ⟨⟨_, inRange⟩, ?_, ?_⟩
  · simp only [Date.parse, time?_of_possible text possible, Date.ofTime?]
    exact dif_pos inRange
  · simp only [Date.day, Date.millisecondsPerDay]
    omega

/-- A date that is not before today as a text is not before today as a day, while the years are
written with four digits. -/
theorem day_le_typedDay (text : IsCalendarText value year month date)
    (possible : IsPossible month date) (lower : 0 ≤ now.getUTCFullYear)
    (upper : now.getUTCFullYear ≤ 9999) (present : isPastDate now value = false) :
    now.day ≤ typedDay year month date := by
  have today : (todayIsoDate now).toList = now.calendarText := by
    simp [todayIsoDate, utcCalendarDate, Date.calendarText]
  have nowYear := Date.padded_year lower upper
  simp only [isPastDate, decide_eq_false_iff_not, today] at present
  rw [text.spelled, Date.calendarText_of_fourDigits lower upper,
    Numerals.three_lt_iff text.year nowYear.1 text.month Date.padded_month.1 text.date
      Date.padded_date.1,
    nowYear.2, Date.padded_month.2, Date.padded_date.2] at present
  have inside := @Date.day_lt_nextMonth now
  rw [← Date.dayOf_month] at inside ⊢
  have nowMonths := @Date.getUTCMonth_lt now
  have months := possible.1
  have dates := possible.2
  apply Calendar.dayOf_le_dayOf _ inside
  · simp only [Date.month]
    omega
  · omega

/-- A day that the server accepts whenever the form does: the calendar has it, and today is in a
year that is compared as it is. -/
def DateHolds (now : Date) (year month date : List Char) : Prop :=
  IsPossible month date ∧ now.getUTCFullYear ≤ 9999 ∧
    (0 ≤ now.getUTCFullYear ∧ now.getUTCFullYear ≤ 99 →
      Calendar.dayOf (12 * (1900 + now.getUTCFullYear) + now.getUTCMonth) now.getUTCDate ≤
        typedDay year month date)

theorem firstAcceptedDay_le_typedDay (text : IsCalendarText value year month date)
    (possible : IsPossible month date) (present : isPastDate now value = false) :
    firstAcceptedDay now ≤ typedDay year month date ↔ DateHolds now year month date := by
  have bounds := typedDay_bounds text possible
  have place := @Date.dayOf_month now
  have inside := @Date.day_lt_nextMonth now
  have nowMonths := @Date.getUTCMonth_lt now
  have dates := @Date.getUTCDate_bounds now
  by_cases early : 0 ≤ now.getUTCFullYear ∧ now.getUTCFullYear ≤ 99
  · rw [firstAcceptedDay, Date.utcYear, if_pos early, DateHolds]
    constructor
    · exact fun accepted => ⟨possible, by omega, fun _ => accepted⟩
    · exact fun holds => holds.2.2 early
  · rw [firstAcceptedDay_eq early, DateHolds]
    rcases Date.spelling_cases now.getUTCFullYear with ⟨large, _⟩ | ⟨negative, _⟩ | ⟨fourDigits, _⟩
    · have late : 120000 ≤ now.month := by
        simp only [Date.month]
        omega
      have start := Calendar.monthFirstDay_mono late
      simp only [Calendar.dayOf] at place
      omega
    · have past : now.month + 1 ≤ 0 := by
        simp only [Date.month]
        omega
      have ending := Calendar.monthFirstDay_mono past
      constructor
      · exact fun _ => ⟨possible, by omega, fun contrary => absurd contrary early⟩
      · intro _
        omega
    · have reached := day_le_typedDay text possible fourDigits.1 fourDigits.2 present
      constructor
      · exact fun _ => ⟨possible, fourDigits.2, fun contrary => absurd contrary early⟩
      · exact fun _ => reached

/-- The checks of the server on a date that the form takes. -/
theorem dateChecks_iff {platform : Platform} (documented : platform.Documented)
    (text : IsCalendarText value year month date) (present : isPastDate now value = false) :
    (platform.isDateString value = true ∧ isNotPastDate platform.engine now value = true) ↔
      DateHolds now year month date := by
  rw [documented.isDateString text.year text.month text.date text.spelled]
  constructor
  · rintro ⟨possible, accepted⟩
    rcases parse_of_possible text possible with ⟨parsed, read, day⟩
    rw [isNotPastDate_iff read, day] at accepted
    exact (firstAcceptedDay_le_typedDay text possible present).mp accepted
  · intro holds
    rcases parse_of_possible text holds.1 with ⟨parsed, read, day⟩
    refine ⟨holds.1, ?_⟩
    rw [isNotPastDate_iff read, day]
    exact (firstAcceptedDay_le_typedDay text holds.1 present).mpr holds

def typedYear (value : String) : List Char := value.toList.take 4

def typedMonth (value : String) : List Char := (value.toList.drop 5).take 2

def typedDate (value : String) : List Char := value.toList.drop 8

theorem IsCalendarText.parts (text : IsCalendarText value year month date) :
    typedYear value = year ∧ typedMonth value = month ∧ typedDate value = date := by
  rcases text with ⟨spelled, yearShape, monthShape, _⟩
  rcases List.length_eq_four.mp yearShape.length with ⟨year1, year2, year3, year4, rfl⟩
  rcases List.length_eq_two.mp monthShape.length with ⟨month1, month2, rfl⟩
  simp [typedYear, typedMonth, typedDate, spelled]

/-- The condition on a date, read off the text. -/
def TypedDateHolds (now : Date) (value : String) : Prop :=
  DateHolds now (typedYear value) (typedMonth value) (typedDate value)

theorem dateErrors_eq_nil {platform : Platform} (documented : platform.Documented)
    {property : String} {dateMessage pastMessage : Option String}
    (isDate : isCalendarDate value = true) (present : isPastDate now value = false) :
    propertyErrors property
        [.isDateString platform dateMessage, .notPastDate platform now pastMessage] value = [] ↔
      TypedDateHolds now value := by
  rcases isCalendarDate_iff.mp isDate with ⟨year, month, date, text⟩
  rw [TypedDateHolds, text.parts.1, text.parts.2.1, text.parts.2.2,
    ← dateChecks_iff documented text present]
  simp [Validator.isDateString, Validator.notPastDate]

theorem desiredStartDate_of_accepted {platform : Platform} (documented : platform.Documented)
    {raw : String} (accepted : OrderFormChecks.desiredStartDate now raw = none) :
    CreateOrderChecks.desiredStartDate platform now (given (trim raw)) = [] ↔
      (trim raw).toList = [] ∨ TypedDateHolds now (trim raw) := by
  rw [CreateOrderChecks.desiredStartDate, optionalText_given (trim_trim raw)]
  simp only [OrderFormChecks.desiredStartDate, refusal_eq_none, and_true] at accepted
  cases chars : (trim raw).toList with
  | nil => simp [given, chars, optionalErrors]
  | cons first rest =>
      simp only [chars, List.isEmpty_cons, Bool.not_false, Bool.true_and, Bool.not_eq_true,
        Bool.not_eq_false'] at accepted
      rcases accepted with ⟨isDate, present⟩
      simp only [given, chars, List.isEmpty_cons, Bool.false_eq_true, if_false, optionalErrors,
        dateErrors_eq_nil documented isDate present, reduceCtorEq, false_or]

theorem proposedDeadline_of_accepted {platform : Platform} (documented : platform.Documented)
    {raw : String} (accepted : OfferFormChecks.proposedDeadline now raw = none) :
    CreateOfferChecks.proposedDeadline platform now (trim raw) = [] ↔
      TypedDateHolds now (trim raw) := by
  simp only [OfferFormChecks.proposedDeadline, refusal_eq_none, and_true, Bool.not_eq_true,
    Bool.not_eq_false'] at accepted
  rcases accepted with ⟨_, isDate, present⟩
  exact dateErrors_eq_nil documented isDate present

end Dates

section Offers

theorem proposedPrice_of_accepted {raw : String}
    (accepted : OfferFormChecks.proposedPrice raw = none) :
    CreateOfferChecks.proposedPrice (normalizeNumber raw) = [] := by
  simp only [OfferFormChecks.proposedPrice, refusal_eq_none, and_true] at accepted
  rcases accepted with ⟨_, matching⟩
  simpa [CreateOfferChecks.proposedPrice, Validator.matchesPattern] using matching

theorem comment_of_accepted {platform : Platform} {raw : String}
    (accepted : OfferFormChecks.comment raw = none) :
    CreateOfferChecks.comment platform (given (trim raw)) = [] := by
  have shorter := characterCount_le_utf16Length (trim raw)
  simp only [OfferFormChecks.comment, refusal_eq_none, and_true] at accepted
  rw [CreateOfferChecks.comment, optionalText_given (trim_trim raw), given]
  split
  · rfl
  · simp only [optionalErrors, propertyErrors_eq_nil, List.forall_mem_singleton,
      Validator.maxLength, platform.textLength.documented, decide_eq_true_eq]
    omega

end Offers

section Agreement

variable {platform : Platform} {now : Date} {orderId : String}

/-- What an order that the form takes still needs for the server to take it. -/
structure OrderFormHolds (now : Date) (values : OrderFormValues) : Prop where
  title : OrderLimits.title.min ≤ characterCount (trim values.title)
  description : OrderLimits.description.min ≤ characterCount (trim values.description)
  address : OrderLimits.address.min ≤ characterCount (trim values.address)
  desiredStartDate : (trim values.desiredStartDate).toList = [] ∨
    TypedDateHolds now (trim values.desiredStartDate)

theorem validateOrderForm_eq_nil {number : String → Option ℚ} {values : OrderFormValues}
    (accepted : validateOrderForm number now values = []) :
    OrderFormChecks.title values.title = none ∧
      OrderFormChecks.category values.category = none ∧
        OrderFormChecks.objectType values.objectType = none ∧
          OrderFormChecks.description values.description = none ∧
            OrderFormChecks.address values.address = none ∧
              OrderFormChecks.squareMeters number values.squareMeters = none ∧
                OrderFormChecks.clientBudget values.clientBudget = none ∧
                  OrderFormChecks.desiredStartDate now values.desiredStartDate = none := by
  simpa [validateOrderForm, List.filterMap_eq_nil_iff] using accepted

theorem validateOfferForm_eq_nil {values : OfferFormValues}
    (accepted : validateOfferForm now values = []) :
    OfferFormChecks.proposedPrice values.proposedPrice = none ∧
      OfferFormChecks.proposedDeadline now values.proposedDeadline = none ∧
        OfferFormChecks.comment values.comment = none := by
  simpa [validateOfferForm, List.filterMap_eq_nil_iff] using accepted

theorem createOrderErrors_eq_nil (documented : platform.Documented) {values : OrderFormValues}
    {files : List BrowserFile} (accepted : validateOrderForm platform.number now values = []) :
    createOrderErrors platform now (toOrderFormData values files) = [] ↔
      OrderFormHolds now values := by
  rcases validateOrderForm_eq_nil accepted with
    ⟨title, category, objectType, description, address, squareMeters, clientBudget, date⟩
  simp only [createOrderErrors, toOrderFormData, List.append_eq_nil_iff,
    category_of_accepted category, objectType_of_accepted objectType,
    squareMeters_of_accepted documented.number squareMeters, clientBudget_of_accepted clientBudget,
    desiredStartDate_of_accepted documented date, CreateOrderChecks.title,
    CreateOrderChecks.description, CreateOrderChecks.address, textErrors_of_accepted title,
    textErrors_of_accepted description, textErrors_of_accepted address, and_true]
  constructor
  · rintro ⟨⟨⟨title, description⟩, address⟩, date⟩
    exact ⟨title, description, address, date⟩
  · rintro ⟨title, description, address, date⟩
    exact ⟨⟨⟨title, description⟩, address⟩, date⟩

theorem createOfferErrors_eq_nil (documented : platform.Documented)
    (known : platform.isUUID orderId = true) {values : OfferFormValues}
    (accepted : validateOfferForm now values = []) :
    createOfferErrors platform now (toOfferBody orderId values) = [] ↔
      TypedDateHolds now (trim values.proposedDeadline) := by
  rcases validateOfferForm_eq_nil accepted with ⟨price, deadline, comment⟩
  simp only [createOfferErrors, toOfferBody, List.append_eq_nil_iff,
    proposedPrice_of_accepted price, proposedDeadline_of_accepted documented deadline,
    comment_of_accepted comment, and_true, CreateOfferChecks.orderId, propertyErrors_eq_nil,
    List.forall_mem_singleton, Validator.isUUID, known, true_and]

end Agreement

section Plain

/-- Numerals read as they are, with all their digits. -/
def exactNumber (text : String) : Option ℚ :=
  if numeralPattern.test text.toList then
    some (numeralValue (text.toList.takeWhile Char.isDigit)
      ((text.toList.dropWhile Char.isDigit).drop 1))
  else none

instance (month date : List Char) : Decidable (IsPossible month date) :=
  inferInstanceAs (Decidable ((_ ∧ _) ∧ (_ ∧ _)))

/-- Answers that follow the documentation and know no other dates. -/
def plainPlatform : Platform :=
  { textLength := .plain
    isDateString := fun text => IsPossible (typedMonth text) (typedDate text)
    isUUID := isUuid
    number := exactNumber
    engine := fun _ => none }

theorem exactNumber_of_isNumeral {text : String} {whole fraction : List Char}
    (numeral : IsNumeral text.toList whole fraction) :
    exactNumber text = some (numeralValue whole fraction) := by
  have matching := numeralPattern_test.mpr ⟨whole, fraction, numeral⟩
  rw [exactNumber, if_pos matching, numeral.spelled,
    List.takeWhile_append_of_pos numeral.wholeDigits,
    List.dropWhile_append_of_pos numeral.wholeDigits]
  cases fraction with
  | nil => simp
  | cons digit fraction => simp [Char.isDigit]

theorem readsNumerals_exactNumber : ReadsNumerals exactNumber where
  exact numeral _ _ := exactNumber_of_isNumeral numeral
  monotone numeral otherNumeral below upper read := by
    rw [exactNumber_of_isNumeral otherNumeral, Option.some.injEq] at read
    exact ⟨_, exactNumber_of_isNumeral numeral, read ▸ below⟩

theorem documented_plainPlatform : plainPlatform.Documented where
  isDateString year month date spelled := by
    have parts := IsCalendarText.parts ⟨spelled, year, month, date⟩
    simp only [plainPlatform, decide_eq_true_eq, parts.2.1, parts.2.2]
    rfl
  number := readsNumerals_exactNumber

def kitchenOrder : OrderFormValues :=
  { title := " Ремонт "
    category := some .planImplementation
    objectType := some .apartment
    description := "Ремонт кухни"
    squareMeters := "62,5"
    clientBudget := ""
    desiredStartDate := "2026-10-01"
    address := "Баку, ул. Низами, 5" }

/-- 29 September 2026. -/
def formDay : Date := (Date.ofTime? 1790640000123).getD Date.epoch

def kitchenOffer : OfferFormValues :=
  { proposedPrice := "150000,50", proposedDeadline := "2026-10-01", comment := " " }

end Plain

end MyBuild
