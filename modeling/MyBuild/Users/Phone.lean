import MyBuild.Common.Validators
import MyBuild.Library.Regex
import MyBuild.Library.Transaction
import MyBuild.Orders.Tables

/-!
# The phone of a profile

Three places check a phone: the form, by one expression with a look-ahead; the trigger that
creates the profile of a new account, by an expression without it and a count of the digits;
and the request that changes the profile.  A length is counted in UTF-16 units by the form, in
characters by the trigger, and by the validation library in the request.
-/

namespace MyBuild

def phoneMaxLength : ℕ := 30

/-- `[\d ()-]` -/
def isPhoneChar (char : Char) : Bool := char.isDigit || [' ', '(', ')', '-'].contains char

/-- `/^(?=(?:\D*\d){10,15}\D*$)\+?[\d ()-]+$/` -/
def phonePattern : Regex Char :=
  .seq
    (.ahead
      (.seq (.between 10 15 (.seq (.star (.one (!·.isDigit))) (.one (·.isDigit))))
        (.seq (.star (.one (!·.isDigit))) .atEnd)))
    (.seq (.optional (.one (· == '+'))) (.seq (.plus (.one isPhoneChar)) .atEnd))

def phoneErrorMessage : String := "Телефон указан неверно. Пример: +994 50 000-00-00"

def isValidPhone (value : String) : Bool :=
  utf16Length value ≤ phoneMaxLength && phonePattern.test value.toList

/-- `PATCH /profile`; a phone that is not sent is not checked. -/
def UpdateProfileDto.phone (textLength : TextLength) (value : Option String) :
    List ConstraintError :=
  match value with
  | none => []
  | some text =>
      Validator.validate
        [.isNotEmpty (some "Телефон не может быть пустым"),
          .maxLength textLength phoneMaxLength,
          .matchesPattern (fun text => phonePattern.test text.toList) (some phoneErrorMessage)]
        (trim text)

namespace HandleAuthUserUpsert

/-- A text of the metadata without the spaces around it; an empty one is no text. -/
def metadataText (value : Option String) : Option String :=
  let text := Pieces.trim (· == ' ') (value.getD "").toList
  if text.isEmpty then none else some (String.ofList text)

/-- `^\+?[0-9 ()-]+$` -/
def phonePattern : Regex Char :=
  .seq (.optional (.one (· == '+')))
    (.seq (.plus (.one fun char => char.isDigit || [' ', '(', ')', '-'].contains char)) .atEnd)

def checkPhone (phone : String) : Except String Unit :=
  if 30 < phone.toList.length then .error "Телефон длиннее 30 символов"
  else if !phonePattern.test phone.toList then
    .error "Телефон указан неверно. Пример: +7 900 000-00-00"
  else if ¬(10 ≤ (phone.toList.filter (·.isDigit)).length ∧
      (phone.toList.filter (·.isDigit)).length ≤ 15) then
    .error "Телефон указан неверно. Пример: +7 900 000-00-00"
  else .ok ()

def checkLength (text : Option String) (limit : ℕ) (message : String) : Except String Unit :=
  match text with
  | none => .ok ()
  | some text => if limit < text.toList.length then .error message else .ok ()

def required (text : Option String) (message : String) : Except String String :=
  match text with
  | none => .error message
  | some text => .ok text

def checkRole (userRole : String) : Except String Role :=
  if userRole = "CLIENT" then .ok .client
  else if userRole = "COMPANY" then .ok .company
  else .error "Профиль MyBuild требует role = CLIENT или COMPANY в метаданных регистрации"

def checkCompanyName (role : Role) (companyName : Option String) : Except String Unit :=
  if role = .company ∧ companyName = none then
    .error "Профиль компании требует companyName в метаданных регистрации"
  else .ok ()

end HandleAuthUserUpsert

open HandleAuthUserUpsert in
/-- The row of a new account, or the text of the exception that cancels its registration. -/
def handleAuthUserUpsert (upper : String → String) (email : Option String)
    (metadata : String → Option String) : Except String User := do
  let email ← required email "Профиль MyBuild требует email: вход по телефону не поддерживается"
  let role ← checkRole (upper ((metadata "role").getD ""))
  let firstName ← required (metadataText (metadata "firstName"))
    "Профиль MyBuild требует firstName в метаданных регистрации"
  let phone ← required (metadataText (metadata "phone"))
    "Профиль MyBuild требует phone в метаданных регистрации"
  let companyName := metadataText (metadata "companyName")
  checkCompanyName role companyName
  checkPhone phone
  checkLength (some firstName) 100 "Имя длиннее 100 символов"
  checkLength (metadataText (metadata "lastName")) 100 "Фамилия длиннее 100 символов"
  checkLength (metadataText (metadata "city")) 100 "Город длиннее 100 символов"
  checkLength (metadataText (metadata "country")) 100 "Страна длиннее 100 символов"
  checkLength companyName 200 "Название компании длиннее 200 символов"
  .ok
    { role, email, firstName, phone
      lastName := metadataText (metadata "lastName")
      companyName := if role = .company then companyName else none
      city := metadataText (metadata "city")
      country := metadataText (metadata "country") }

section Agreement

variable {text phone : String} {chars : List Char} {textLength : TextLength}

theorem HandleAuthUserUpsert.phonePattern_chars (accepted : phonePattern.test chars = true) :
    ∀ char ∈ chars, char = '+' ∨ isPhoneChar char = true := by
  rcases Regex.test_seq_optional_one.mp accepted with
    ⟨first, rest, isPlus, rfl, tested⟩ | tested
  · intro char mem
    rcases List.mem_cons.mp mem with rfl | mem
    · exact Or.inl (by simpa using isPlus)
    · exact Or.inr ((Regex.test_plus_one_atEnd.mp tested).2 char mem)
  · exact fun char mem => Or.inr ((Regex.test_plus_one_atEnd.mp tested).2 char mem)

theorem isPhoneChar_cases {char : Char} (allowed : char = '+' ∨ isPhoneChar char = true) :
    (48 ≤ char.toNat ∧ char.toNat ≤ 57) ∨ char ∈ ['+', ' ', '(', ')', '-'] := by
  simp only [isPhoneChar, Bool.or_eq_true, Char.isDigit, Bool.and_eq_true, decide_eq_true_eq,
    List.contains_eq_mem] at allowed
  rcases allowed with isPlus | ⟨lower, upper⟩ | mem
  · exact Or.inr (by simp [isPlus])
  · exact Or.inl ⟨lower, upper⟩
  · exact Or.inr (List.mem_cons_of_mem _ mem)

theorem utf16Width_of_isPhoneChar {char : Char} (allowed : char = '+' ∨ isPhoneChar char = true) :
    utf16Width char = 1 := by
  rcases isPhoneChar_cases allowed with ⟨_, small⟩ | mem
  · exact if_pos (by omega)
  · have known : ['+', ' ', '(', ')', '-'].all (utf16Width · == 1) = true := by decide +kernel
    exact beq_iff_eq.mp (List.all_eq_true.mp known char mem)

theorem eq_space_of_isWhitespace {char : Char} (allowed : char = '+' ∨ isPhoneChar char = true)
    (skipped : isWhitespace char = true) : char = ' ' := by
  rcases isPhoneChar_cases allowed with ⟨lower, upper⟩ | mem
  · simp [isWhitespace] at skipped
    omega
  · have known : ['+', ' ', '(', ')', '-'].all (fun char => !isWhitespace char || char == ' ') =
        true := by
      decide +kernel
    have spaced := List.all_eq_true.mp known char mem
    simpa [skipped] using spaced

theorem utf16Length_of_phonePattern
    (accepted : HandleAuthUserUpsert.phonePattern.test text.toList = true) :
    utf16Length text = text.toList.length := by
  have widths : text.toList.map utf16Width = text.toList.map fun _ => 1 :=
    List.map_congr_left fun char mem =>
      utf16Width_of_isPhoneChar (HandleAuthUserUpsert.phonePattern_chars accepted char mem)
  rw [utf16Length, widths]
  simp

theorem characterCount_of_phonePattern
    (accepted : HandleAuthUserUpsert.phonePattern.test text.toList = true) :
    characterCount text = text.toList.length := by
  apply List.countP_eq_length.mpr
  intro char mem
  have allowed := HandleAuthUserUpsert.phonePattern_chars accepted char mem
  simp only [isPresentationSelector, List.contains_eq_mem, List.mem_cons, List.not_mem_nil,
    or_false, Bool.not_eq_true', decide_eq_false_iff_not]
  rcases isPhoneChar_cases allowed with ⟨_, small⟩ | mem
  · omega
  · have known : ∀ char ∈ ['+', ' ', '(', ')', '-'], char.toNat < 128 := by simp
    have small := known char mem
    omega

/-- The look-ahead counts the digits; what follows it is the expression of the trigger. -/
theorem phonePattern_test :
    phonePattern.test chars = true ↔
      (10 ≤ chars.countP (·.isDigit) ∧ chars.countP (·.isDigit) ≤ 15) ∧
        HandleAuthUserUpsert.phonePattern.test chars = true := by
  rw [phonePattern, Regex.test_seq_ahead, Regex.test_between_seek (by omega)]
  rfl

theorem HandleAuthUserUpsert.checkPhone_ok :
    checkPhone text = .ok () ↔
      text.toList.length ≤ phoneMaxLength ∧ MyBuild.phonePattern.test text.toList = true := by
  rw [phonePattern_test, List.countP_eq_length_filter, checkPhone]
  split
  case isTrue long =>
    simp only [phoneMaxLength, reduceCtorEq, false_iff]
    omega
  case isFalse short =>
    split
    case isTrue refused => simp_all
    case isFalse accepted =>
      split
      case isTrue count => simp_all
      case isFalse count =>
        rw [Decidable.not_not] at count
        simp only [Bool.not_eq_true] at accepted
        simp only [phoneMaxLength, true_iff]
        exact ⟨by omega, count, by simpa using accepted⟩

theorem isValidPhone_iff :
    isValidPhone text = true ↔
      text.toList.length ≤ phoneMaxLength ∧ phonePattern.test text.toList = true := by
  simp only [isValidPhone, Bool.and_eq_true, decide_eq_true_eq]
  apply and_congr_left
  intro accepted
  rw [utf16Length_of_phonePattern (phonePattern_test.mp accepted).2]

theorem not_test_nil : phonePattern.test [] = false := by
  decide +kernel

theorem HandleAuthUserUpsert.metadataText_of_trimmed (trimmed : trim text = text) :
    metadataText (some text) = if text.toList.isEmpty then none else some text := by
  have outer : Pieces.trim isWhitespace text.toList = text.toList := by
    have chars := congrArg String.toList trimmed
    rwa [trim, String.toList_ofList] at chars
  have inner : Pieces.trim (· == ' ') text.toList = text.toList :=
    Pieces.trim_eq_self_of_imp outer fun letter _ isSpace => by
      rw [beq_iff_eq.mp isSpace]
      rfl
  simp only [metadataText, Option.getD_some, inner, String.ofList_toList]

theorem UpdateProfileDto.phone_eq_nil (trimmed : trim text = text) :
    UpdateProfileDto.phone textLength (some text) = [] ↔
      text.toList.length ≤ phoneMaxLength ∧ phonePattern.test text.toList = true := by
  simp only [UpdateProfileDto.phone, trimmed, Validator.validate_eq_nil, Validator.isNotEmpty,
    Validator.maxLength, Validator.matchesPattern, List.forall_mem_cons, List.not_mem_nil,
    false_imp_iff, implies_true, and_true, decide_eq_true_eq, textLength.documented]
  have measured : phonePattern.test text.toList = true →
      characterCount text = text.toList.length := fun accepted =>
    characterCount_of_phonePattern (phonePattern_test.mp accepted).2
  constructor
  · rintro ⟨_, short, accepted⟩
    exact ⟨measured accepted ▸ short, accepted⟩
  · rintro ⟨short, accepted⟩
    refine ⟨?_, (measured accepted).symm ▸ short, accepted⟩
    cases chars : text.toList with
    | nil =>
        rw [chars, not_test_nil] at accepted
        exact absurd accepted Bool.false_ne_true
    | cons first rest => rfl

/-- The trigger, the form and the request take the same phones. -/
theorem phone_rules_agree (trimmed : trim text = text) :
    ((∃ phone, HandleAuthUserUpsert.metadataText (some text) = some phone ∧
        HandleAuthUserUpsert.checkPhone phone = .ok ()) ↔ isValidPhone text = true) ∧
      (isValidPhone text = true ↔ UpdateProfileDto.phone textLength (some text) = []) := by
  constructor
  · rw [HandleAuthUserUpsert.metadataText_of_trimmed trimmed, isValidPhone_iff]
    cases chars : text.toList with
    | nil => simp [not_test_nil]
    | cons first rest =>
        rw [← chars, ← HandleAuthUserUpsert.checkPhone_ok]
        simp [chars]
  · rw [isValidPhone_iff, UpdateProfileDto.phone_eq_nil trimmed]

theorem phone_rules_agree_example :
    trim "+7 900 000-00-00" = "+7 900 000-00-00" ∧
      (∃ phone, HandleAuthUserUpsert.metadataText (some "+7 900 000-00-00") = some phone ∧
        HandleAuthUserUpsert.checkPhone phone = .ok ()) ∧
      isValidPhone "+7 900 000-00-00" = true ∧
      UpdateProfileDto.phone .plain (some "+7 900 000-00-00") = [] := by
  have trimmed : trim "+7 900 000-00-00" = "+7 900 000-00-00" := by decide +kernel
  have valid : isValidPhone "+7 900 000-00-00" = true := by decide +kernel
  have agree := @phone_rules_agree _ TextLength.plain trimmed
  exact ⟨trimmed, agree.1.mpr valid, valid, agree.2.mp valid⟩

theorem HandleAuthUserUpsert.required_eq_ok {given : Option String} {message : String} :
    required given message = .ok text ↔ given = some text := by
  cases given with
  | none => simp [required]
  | some text => simp [required]

theorem handleAuthUserUpsert_phone {upper : String → String} {email : Option String}
    {metadata : String → Option String} {user : User}
    (created : handleAuthUserUpsert upper email metadata = .ok user) :
    HandleAuthUserUpsert.metadataText (metadata "phone") = some user.phone ∧
      HandleAuthUserUpsert.checkPhone user.phone = .ok () := by
  simp only [handleAuthUserUpsert, Except.bind_eq_ok] at created
  rcases created with ⟨_, _, _, _, _, _, phone, given, _, _, _, checked, _, _, _, _, _, _, _, _,
    _, _, inserted⟩
  have same : user.phone = phone := by
    rw [← Except.ok.inj inserted]
  rw [same]
  exact ⟨HandleAuthUserUpsert.required_eq_ok.mp given, checked⟩

theorem HandleAuthUserUpsert.trim_metadataText {value : Option String}
    (given : metadataText value = some phone) (checked : checkPhone phone = .ok ()) :
    trim phone = phone := by
  have accepted := (phonePattern_test.mp (checkPhone_ok.mp checked).2).2
  have spaced : Pieces.trim (· == ' ') phone.toList = phone.toList := by
    simp only [metadataText] at given
    split at given
    · contradiction
    · rw [← Option.some.inj given, String.toList_ofList, Pieces.trim_trim]
  have outer : Pieces.trim isWhitespace phone.toList = phone.toList :=
    Pieces.trim_eq_self_of_imp spaced fun letter mem skipped => beq_iff_eq.mpr
      (eq_space_of_isWhitespace (phonePattern_chars accepted letter mem) skipped)
  rw [trim, outer, String.ofList_toList]

/-- A phone that a registration stores is one that the profile keeps. -/
theorem isValidPhone_of_registered {upper : String → String} {email : Option String}
    {metadata : String → Option String} {user : User}
    (created : handleAuthUserUpsert upper email metadata = .ok user) :
    isValidPhone user.phone = true ∧ UpdateProfileDto.phone textLength (some user.phone) = [] := by
  rcases handleAuthUserUpsert_phone created with ⟨given, checked⟩
  have passes := HandleAuthUserUpsert.checkPhone_ok.mp checked
  exact ⟨isValidPhone_iff.mpr passes, (UpdateProfileDto.phone_eq_nil
    (HandleAuthUserUpsert.trim_metadataText given checked)).mpr passes⟩

end Agreement

end MyBuild
