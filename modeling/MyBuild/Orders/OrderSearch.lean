import MyBuild.Library.Like
import MyBuild.Library.Regex
import MyBuild.Orders.Tables
import MyBuild.Shared.Text

/-!
# Search in a list of orders

A query is looked for in the title of an order and in the name of its contractor, and read as
the number of an order when it looks like one.  The database compares with a pattern, so what
is special in a pattern is escaped first.
-/

namespace MyBuild

def maxOrderNumber : ℕ := 2147483647

def maxSafeInteger : ℕ := 9007199254740991

/-- `/^\s*(?:ORD-)?(\d+)\s*$/i` -/
def orderNumberDigits (query : List Char) : Option (List Char) :=
  Regex.capture
    (.seq (.star (.one isWhitespace)) (.optional (.word Char.toUpper "ORD-".toList)))
    (.plus (.one (·.isDigit)))
    (.seq (.star (.one isWhitespace)) .atEnd) query

def parseOrderNumber (query : String) : Option ℕ :=
  match orderNumberDigits query.toList with
  | none => none
  | some [] => none
  | some (first :: rest) =>
      let parsed := Nat.ofDigitChars 10 (first :: rest) 0
      if maxSafeInteger < parsed ∨ parsed < 1 ∨ maxOrderNumber < parsed then none
      else some parsed

/-- The marks of a pattern in the database. -/
def likeMarks : Like.Marks Char :=
  { many := '%', one := '_', escape := '\\', distinct := by decide }

def escapeLike (value : String) : String := String.ofList (likeMarks.escapeAll value.toList)

theorem toNat_lt_of_isSpecial {char : Char} (special : likeMarks.isSpecial char = true) :
    char.toNat < 128 ∧ char.toNat ≠ 'k'.toNat := by
  simp only [Like.Marks.isSpecial, Bool.or_eq_true, decide_eq_true_eq] at special
  rcases special with (rfl | rfl) | rfl
  · decide
  · decide
  · decide

theorem lower_special {char : Char}
    (special : likeMarks.isSpecial char = true ∨
      likeMarks.isSpecial (Char.ofNat (lowerCode char.toNat)) = true) :
    Char.ofNat (lowerCode char.toNat) = char := by
  have isAscii : char.toNat < 128 := by
    rcases special with special | special
    · exact (toNat_lt_of_isSpecial special).1
    · have small := toNat_lt_of_isSpecial special
      have valid : char.toNat.isValidChar := char.valid
      rw [toNat_ofNat_of_isValidChar (isValidChar_lowerCode valid)] at small
      rcases of_lowerCode_lt small.1 with isAscii | isKelvin
      · exact isAscii
      · exact absurd isKelvin small.2
  have known : ∀ code < 128, likeMarks.isSpecial (Char.ofNat code) = true ∨
      likeMarks.isSpecial (Char.ofNat code).toLower = true →
        (Char.ofNat code).toLower = Char.ofNat code := by
    decide +kernel
  have same := known char.toNat isAscii
  rw [← ofNat_lowerCode_of_lt isAscii, Char.ofNat_toNat] at same
  exact same special

/-- Every character in its lower case. -/
def lowerFolding : likeMarks.Folding where
  fold char := Char.ofNat (lowerCode char.toNat)
  keeps _ special := lower_special special

inductive OrderCondition where
  | orderNumber (number : ℕ)
  | title (contains : String)
  | contractor (statuses : List OfferStatus) (contains : String)
  deriving DecidableEq

def buildSearchConditions (query : String) (includeContractor : Bool := true) :
    List OrderCondition :=
  let text := escapeLike query
  let conditions := .title text ::
    if includeContractor then [.contractor executorOfferStatuses text] else []
  match parseOrderNumber query with
  | none => conditions
  | some number => .orderNumber number :: conditions

/-- `contains` in the mode that ignores case; what is not given contains nothing. -/
def containsInsensitive (folding : likeMarks.Folding) (text : String) : Option String → Bool
  | none => false
  | some value => folding.like ('%' :: (text.toList ++ ['%'])) value.toList

def OrderCondition.holds (folding : likeMarks.Folding) (users : Uuid → User)
    (tables : OrderTables) : OrderCondition → Bool
  | .orderNumber number => tables.order.orderNumber == number
  | .title contains => containsInsensitive folding contains (some tables.order.title)
  | .contractor statuses contains =>
      tables.offers.any fun offer =>
        statuses.contains offer.status &&
          containsInsensitive folding contains (users offer.companyId).companyName

/-- What a user means by a query: the text itself, letters of either case being the same. -/
def ContainsText (folding : likeMarks.Folding) (query text : String) : Prop :=
  query.toList.map folding.fold <:+: text.toList.map folding.fold

/-- White space, `ORD-` in any case or nothing, the digits, white space. -/
def SpellsNumber (query digits : List Char) : Prop :=
  ∃ before label after, query = before ++ (label ++ (digits ++ after)) ∧
    (∀ char ∈ before, isWhitespace char = true) ∧ (∀ char ∈ after, isWhitespace char = true) ∧
      (label = [] ∨ label.map Char.toUpper = "ORD-".toList) ∧
        digits ≠ [] ∧ ∀ char ∈ digits, char.isDigit = true

def NamesOrder (query : String) (orderNumber : ℕ) : Prop :=
  (∃ digits, SpellsNumber query.toList digits ∧ Nat.ofDigitChars 10 digits 0 = orderNumber) ∧
    1 ≤ orderNumber ∧ orderNumber ≤ maxOrderNumber

section OrderNumbers

variable {query : String} {text digits : List Char} {char : Char} {number : ℕ}

theorem not_isDigit_of_isWhitespace (skipped : isWhitespace char = true) :
    char.isDigit = false := by
  rw [← Bool.not_eq_true]
  intro digit
  simp only [Char.isDigit, Bool.and_eq_true, decide_eq_true_eq] at digit
  have lower : 48 ≤ char.toNat := digit.1
  have upper : char.toNat ≤ 57 := digit.2
  simp [isWhitespace] at skipped
  omega

theorem toUpper_of_isDigit (digit : char.isDigit = true) : char.toUpper = char := by
  simp only [Char.isDigit, Bool.and_eq_true, decide_eq_true_eq] at digit
  have upper : char.toNat ≤ 57 := digit.2
  have notLower : ¬(char.val ≥ 'a'.val ∧ char.val ≤ 'z'.val) := by
    rintro ⟨lower, _⟩
    have bound : 97 ≤ char.toNat := UInt32.le_iff_toNat_le.mp lower
    omega
  exact dif_neg notLower

theorem not_isDigit_of_mem_label {label : List Char}
    (isLabel : label = [] ∨ label.map Char.toUpper = "ORD-".toList) (mem : char ∈ label) :
    char.isDigit = false := by
  rw [← Bool.not_eq_true]
  intro digit
  rcases isLabel with rfl | spelled
  · exact absurd mem List.not_mem_nil
  · have upper : char.toUpper ∈ "ORD-".toList := by
      rw [← spelled]
      exact List.mem_map_of_mem mem
    rw [toUpper_of_isDigit digit] at upper
    have known : "ORD-".toList.all (!·.isDigit) = true := by decide +kernel
    simpa [digit] using List.all_eq_true.mp known char upper

/-- The digits of a number are all the digits of the text. -/
theorem SpellsNumber.digits_eq (spells : SpellsNumber text digits) :
    digits = text.filter (·.isDigit) := by
  rcases spells with ⟨before, label, after, rfl, leading, trailing, isLabel, _, all⟩
  have noneBefore : before.filter (·.isDigit) = [] :=
    List.filter_eq_nil_iff.mpr fun char mem => by
      simp [not_isDigit_of_isWhitespace (leading char mem)]
  have noneLabel : label.filter (·.isDigit) = [] :=
    List.filter_eq_nil_iff.mpr fun char mem => by simp [not_isDigit_of_mem_label isLabel mem]
  have noneAfter : after.filter (·.isDigit) = [] :=
    List.filter_eq_nil_iff.mpr fun char mem => by
      simp [not_isDigit_of_isWhitespace (trailing char mem)]
  simp only [List.filter_append, noneBefore, noneLabel, noneAfter, List.nil_append,
    List.append_nil]
  exact (List.filter_eq_self.mpr all).symm

theorem orderNumberDigits_eq_some :
    orderNumberDigits text = some digits ↔ SpellsNumber text digits := by
  have spells_of_found : ∀ {found}, orderNumberDigits text = some found →
      SpellsNumber text found := by
    intro found read
    rcases Regex.capture_eq_some read with ⟨start, startMem, rest, restMem, tested, rfl⟩
    simp only [Regex.mem_remainders_seq, Regex.mem_remainders_star_one,
      Regex.mem_remainders_optional, Regex.mem_remainders_word] at startMem
    rcases startMem with ⟨_, ⟨before, leading, rfl⟩, labelled⟩
    rcases Regex.mem_remainders_plus_one.mp restMem with ⟨run, nonempty, all, rfl⟩
    have taken : (run ++ rest).take ((run ++ rest).length - rest.length) = run := by simp
    rw [taken]
    rw [Regex.test_star_one_atEnd] at tested
    rcases labelled with ⟨label, spelled, rfl⟩ | rfl
    · exact ⟨before, label, rest, rfl, leading, tested, Or.inr spelled, nonempty, all⟩
    · exact ⟨before, [], rest, rfl, leading, tested, Or.inl rfl, nonempty, all⟩
  constructor
  · exact spells_of_found
  · intro spells
    have same := spells.digits_eq
    rcases spells with ⟨before, label, after, rfl, leading, trailing, isLabel, nonempty, all⟩
    have found : ∃ taken, orderNumberDigits (before ++ (label ++ (digits ++ after))) =
        some taken := by
      have startMem : digits ++ after ∈
          (Regex.seq (.star (.one isWhitespace))
            (.optional (.word Char.toUpper "ORD-".toList))).remainders
              (before ++ (label ++ (digits ++ after))) := by
        simp only [Regex.mem_remainders_seq, Regex.mem_remainders_star_one,
          Regex.mem_remainders_optional, Regex.mem_remainders_word]
        refine ⟨label ++ (digits ++ after), ⟨before, leading, rfl⟩, ?_⟩
        rcases isLabel with rfl | spelled
        · exact Or.inr rfl
        · exact Or.inl ⟨label, spelled, rfl⟩
      exact Regex.exists_capture startMem
        (Regex.mem_remainders_plus_one.mpr ⟨digits, nonempty, all, rfl⟩)
        (Regex.test_star_one_atEnd.mpr trailing)
    rcases found with ⟨taken, found⟩
    rw [found, (spells_of_found found).digits_eq, ← same]

theorem parseOrderNumber_eq_some :
    parseOrderNumber query = some number ↔ NamesOrder query number := by
  simp only [NamesOrder, ← orderNumberDigits_eq_some]
  cases read : orderNumberDigits query.toList with
  | none => simp [parseOrderNumber, read]
  | some digits =>
      cases digits with
      | nil =>
          rcases orderNumberDigits_eq_some.mp read with ⟨_, _, _, _, _, _, _, nonempty, _⟩
          exact absurd rfl nonempty
      | cons first rest =>
          simp only [parseOrderNumber, read, Option.some.injEq, exists_eq_left']
          split
          case isTrue outside =>
            simp only [reduceCtorEq, false_iff]
            simp only [maxSafeInteger, maxOrderNumber] at outside ⊢
            omega
          case isFalse inside =>
            simp only [Option.some.injEq]
            simp only [maxSafeInteger, maxOrderNumber] at inside ⊢
            omega

theorem parseOrderNumber_formatOrderNumber (positive : 1 ≤ number)
    (bounded : number ≤ maxOrderNumber) :
    parseOrderNumber (formatOrderNumber number) = some number := by
  rw [parseOrderNumber_eq_some]
  refine ⟨⟨Nat.toDigits 10 number, ⟨[], "ORD-".toList, [], ?_, by simp, by simp,
    Or.inr (by decide +kernel), Nat.toDigits_ne_nil, fun char mem => ?_⟩, ?_⟩, positive, bounded⟩
  · simp [formatOrderNumber]
  · exact Decimal.toDigits_isDigit mem
  · exact Nat.ofDigitChars_ten_toDigits

end OrderNumbers

section Conditions

variable (folding : likeMarks.Folding) (users : Uuid → User) (tables : OrderTables)
  (query : String) (includeContractor : Bool)

theorem containsInsensitive_escapeLike (text : String) :
    containsInsensitive folding (escapeLike query) (some text) = true ↔
      ContainsText folding query text := by
  simp only [containsInsensitive, escapeLike, String.toList_ofList]
  exact folding.like_contains

theorem title_holds :
    OrderCondition.holds folding users tables (.title (escapeLike query)) = true ↔
      ContainsText folding query tables.order.title :=
  containsInsensitive_escapeLike folding query tables.order.title

example :
    containsInsensitive lowerFolding (escapeLike "50%") (some "СКИДКА 50%") = true ∧
      containsInsensitive lowerFolding (escapeLike "скид") (some "СКИДКА 50%") = true ∧
      containsInsensitive lowerFolding (escapeLike "50%") (some "500 м") = false := by
  decide +kernel

theorem contractor_holds :
    OrderCondition.holds folding users tables
        (.contractor executorOfferStatuses (escapeLike query)) = true ↔
      ∃ offer ∈ tables.offers, offer.status ∈ executorOfferStatuses ∧ ∃ companyName,
        (users offer.companyId).companyName = some companyName ∧
          ContainsText folding query companyName := by
  simp only [OrderCondition.holds, List.any_eq_true, Bool.and_eq_true, List.contains_iff_mem]
  apply exists_congr
  intro offer
  apply and_congr_right
  intro _
  apply and_congr_right
  intro _
  cases named : (users offer.companyId).companyName with
  | none => simp [containsInsensitive]
  | some companyName =>
      rw [containsInsensitive_escapeLike]
      simp

theorem orderNumber_holds :
    (∃ number, parseOrderNumber query = some number ∧
        OrderCondition.holds folding users tables (.orderNumber number) = true) ↔
      NamesOrder query tables.order.orderNumber := by
  simp only [OrderCondition.holds, beq_iff_eq, parseOrderNumber_eq_some]
  constructor
  · rintro ⟨_, names, rfl⟩
    exact names
  · exact fun names => ⟨_, names, rfl⟩

variable {query includeContractor} in
theorem mem_buildSearchConditions {condition : OrderCondition} :
    condition ∈ buildSearchConditions query includeContractor ↔
      (∃ number, parseOrderNumber query = some number ∧ condition = .orderNumber number) ∨
        condition = .title (escapeLike query) ∨
          (includeContractor = true ∧
            condition = .contractor executorOfferStatuses (escapeLike query)) := by
  cases parsed : parseOrderNumber query with
  | none => cases includeContractor <;> simp [buildSearchConditions, parsed]
  | some number => cases includeContractor <;> simp [buildSearchConditions, parsed]

/-- The search takes the query for a text and not for a pattern. -/
theorem buildSearchConditions_literal :
    ((∃ condition ∈ buildSearchConditions query includeContractor,
        condition.holds folding users tables = true) ↔
      ContainsText folding query tables.order.title ∨
        (includeContractor = true ∧ ∃ offer ∈ tables.offers,
          offer.status ∈ executorOfferStatuses ∧ ∃ companyName,
            (users offer.companyId).companyName = some companyName ∧
              ContainsText folding query companyName) ∨
        NamesOrder query tables.order.orderNumber) ∧
      ∀ number, 1 ≤ number → number ≤ maxOrderNumber →
        parseOrderNumber (formatOrderNumber number) = some number := by
  constructor
  · rw [← title_holds folding users tables, ← contractor_holds folding users tables,
      ← orderNumber_holds folding users tables]
    constructor
    · rintro ⟨condition, mem, holds⟩
      rcases mem_buildSearchConditions.mp mem with ⟨number, parsed, rfl⟩ | rfl | ⟨included, rfl⟩
      · exact Or.inr (Or.inr ⟨number, parsed, holds⟩)
      · exact Or.inl holds
      · exact Or.inr (Or.inl ⟨included, holds⟩)
    · rintro (holds | ⟨included, holds⟩ | ⟨number, parsed, holds⟩)
      · exact ⟨_, mem_buildSearchConditions.mpr (Or.inr (Or.inl rfl)), holds⟩
      · exact ⟨_, mem_buildSearchConditions.mpr (Or.inr (Or.inr ⟨included, rfl⟩)), holds⟩
      · exact ⟨_, mem_buildSearchConditions.mpr (Or.inl ⟨number, parsed, rfl⟩), holds⟩
  · exact fun number positive bounded => parseOrderNumber_formatOrderNumber positive bounded

/-- An order that company 3 carries out. -/
def searchedOrder : OrderTables :=
  { order :=
      { id := ⟨1⟩, orderNumber := 7, clientId := ⟨2⟩, title := "Скидка 50%"
        category := .planImplementation, objectType := .house, description := "Ремонт"
        address := "Баку", squareMeters := ⟨5000⟩, verifiedSquareMeters := none
        clientBudget := none, desiredStartDate := none, price := some ⟨100⟩
        deadline := some .epoch, status := .inProgress, clientCompletionComment := none
        correctionComment := none, createdAt := .epoch, updatedAt := .epoch }
    offers :=
      [{ id := ⟨4⟩, orderId := ⟨1⟩, companyId := ⟨3⟩, status := .accepted, comment := none
         proposedPrice := ⟨100⟩, proposedDeadline := .epoch, createdAt := .epoch
         editedAt := none, updatedAt := .epoch, rejectionCount := 0 }]
    submissions := []
    files := []
    notifications := [] }

def searchedUsers (id : Uuid) : User :=
  { role := if id = ⟨3⟩ then .company else .client
    email := "a@b.test"
    firstName := "Анна"
    lastName := none
    phone := "+994501001001"
    companyName := if id = ⟨3⟩ then some "Строй_Град" else none
    city := none
    country := none }

/-- The marks of a pattern stand for themselves: in the title and in the name of the company. -/
theorem buildSearchConditions_literal_example :
    (∃ condition ∈ buildSearchConditions "КА 50%" false,
        condition.holds lowerFolding searchedUsers searchedOrder = true) ∧
      (∃ condition ∈ buildSearchConditions "й_г" true,
        condition.holds lowerFolding searchedUsers searchedOrder = true) ∧
      (¬∃ condition ∈ buildSearchConditions "С_ид" true,
        condition.holds lowerFolding searchedUsers searchedOrder = true) ∧
      parseOrderNumber (formatOrderNumber 7) = some 7 := by
  have title :=
    buildSearchConditions_literal lowerFolding searchedUsers searchedOrder "КА 50%" false
  have company := buildSearchConditions_literal lowerFolding searchedUsers searchedOrder "й_г" true
  have nothing := buildSearchConditions_literal lowerFolding searchedUsers searchedOrder "С_ид" true
  refine ⟨title.1.mpr (Or.inl ?_), company.1.mpr (Or.inr (Or.inl ⟨rfl, ?_⟩)), ?_,
    title.2 7 (by decide) (by decide)⟩
  · rw [ContainsText]
    decide +kernel
  · refine ⟨_, List.mem_singleton.mpr rfl, by decide, "Строй_Град", rfl, ?_⟩
    rw [ContainsText]
    decide +kernel
  · rw [nothing.1]
    rintro (inTitle | ⟨_, offer, mem, _, name, isName, inName⟩ | named)
    · rw [ContainsText] at inTitle
      revert inTitle
      decide +kernel
    · rw [List.mem_singleton.mp mem] at isName
      rcases Option.some.inj isName with rfl
      rw [ContainsText] at inName
      revert inName
      decide +kernel
    · have parsed := parseOrderNumber_eq_some.mpr named
      revert parsed
      decide +kernel

example : escapeLike "100%_\\" = "100\\%\\_\\\\" := by decide +kernel

example : parseOrderNumber " ord-0042\n" = some 42 := by decide +kernel

end Conditions

end MyBuild
