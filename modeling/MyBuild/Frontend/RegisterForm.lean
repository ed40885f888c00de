import MyBuild.Frontend.ProfileForm

/-!
# The registration form

A registration goes past the server: the form hands what was typed to the authentication
service as metadata, and a trigger makes the profile of it or refuses the account.  What the
browser checks before the form is submitted is an assumption here, and how the service writes
the address it is given is left open.
-/

namespace MyBuild

def minPasswordLength : ℕ := 8

inductive PasswordField where
  | password
  | passwordConfirm
  deriving DecidableEq

structure PasswordIssue where
  field : PasswordField
  message : String
  deriving DecidableEq

def validateNewPassword (password passwordConfirm : String) : Option PasswordIssue :=
  if utf16Length password < minPasswordLength then
    some
      { field := .password
        message := "Пароль должен быть не короче " ++ toString minPasswordLength ++ " символов" }
  else if password ≠ passwordConfirm then
    some { field := .passwordConfirm, message := "Пароли не совпадают" }
  else none

structure RegisterFormData where
  role : Role
  email : String
  password : String
  passwordConfirm : String
  firstName : String
  lastName : String
  phone : String
  companyName : String
  city : String
  country : String

/-- What is handed to the authentication service. -/
structure SignUp where
  email : String
  password : String
  data : String → Option String

namespace RegisterForm

/-- A text without the white space around it; an empty one is not sent. -/
def text (value : String) : Option String :=
  if (trim value).toList.isEmpty then none else some (trim value)

def roleValue : Role → String
  | .client => "CLIENT"
  | .company => "COMPANY"

def data (form : RegisterFormData) : String → Option String
  | "role" => some (roleValue form.role)
  | "firstName" => text form.firstName
  | "lastName" => text form.lastName
  | "phone" => some ((text form.phone).getD "")
  | "companyName" => if form.role = .company then text form.companyName else none
  | "city" => text form.city
  | "country" => text form.country
  | _ => none

def handleSubmit (form : RegisterFormData) : Except String SignUp :=
  if !isValidPhone ((text form.phone).getD "") then .error phoneErrorMessage
  else
    match validateNewPassword form.password form.passwordConfirm with
    | some issue => .error issue.message
    | none => .ok { email := trim form.email, password := form.password, data := data form }

/-- The browser submits a form only when its fields keep to their `required` and
`maxlength`. -/
structure Submittable (form : RegisterFormData) : Prop where
  firstName : form.firstName ≠ "" ∧ utf16Length form.firstName ≤ ProfileLimits.firstName
  lastName : utf16Length form.lastName ≤ ProfileLimits.lastName
  phone : form.phone ≠ "" ∧ utf16Length form.phone ≤ phoneMaxLength
  city : utf16Length form.city ≤ ProfileLimits.city
  country : utf16Length form.country ≤ ProfileLimits.country
  companyName : form.role = .company →
    form.companyName ≠ "" ∧ utf16Length form.companyName ≤ ProfileLimits.companyName

/-- What the settings show of the profile once the account is made. -/
def entered (form : RegisterFormData) : ProfileFormValues :=
  { firstName := trim form.firstName
    lastName := trim form.lastName
    phone := trim form.phone
    city := trim form.city
    country := trim form.country
    companyName := if form.role = .company then trim form.companyName else "" }

variable {form : RegisterFormData} {request : SignUp} {upper address : String → String}
  {email value : String}

theorem text_getD (value : String) : (text value).getD "" = trim value := by
  rw [text]
  split
  case isTrue isEmpty => exact (String.toList_eq_nil_iff.mp (List.isEmpty_iff.mp isEmpty)).symm
  case isFalse isGiven => rfl

theorem mem_text {given : String} (mem : given ∈ text value) :
    given = trim value ∧ given.toList ≠ [] := by
  rw [text] at mem
  split at mem
  case isTrue isEmpty => cases mem
  case isFalse isGiven =>
    rcases Option.mem_some_iff.mp mem with rfl
    exact ⟨rfl, by simpa using isGiven⟩

/-- The trigger reads back what the form has trimmed. -/
theorem metadataText_text (value : String) :
    HandleAuthUserUpsert.metadataText (text value) = text value := by
  rw [text]
  split
  case isTrue isEmpty => rfl
  case isFalse isGiven =>
    rw [HandleAuthUserUpsert.metadataText_of_trimmed (trim_trim value), if_neg isGiven]

theorem length_trim_le (value : String) : (trim value).toList.length ≤ utf16Length value := by
  have shorter : (trim value).toList.length ≤ value.toList.length := by
    rw [toList_trim, Pieces.trim, List.rdropWhile, List.length_reverse]
    apply Nat.le_trans (List.length_dropWhile_le _ _)
    rw [List.length_reverse]
    exact List.length_dropWhile_le _ _
  exact Nat.le_trans shorter (length_le_utf16Length value)

theorem handleSubmit_eq_ok (submitted : handleSubmit form = .ok request) :
    isValidPhone (trim form.phone) = true ∧ request.email = trim form.email ∧
      request.data = data form := by
  rw [handleSubmit, text_getD] at submitted
  split at submitted
  case isTrue refused => cases submitted
  case isFalse valid =>
    refine ⟨by simpa using valid, ?_⟩
    split at submitted
    case h_1 issue _ => cases submitted
    case h_2 =>
      rw [← Except.ok.inj submitted]
      exact ⟨rfl, rfl⟩

theorem checkRole_roleValue (role : Role) :
    HandleAuthUserUpsert.checkRole (roleValue role) = .ok role := by
  cases role <;> decide

/-- The profile the trigger makes of the form. -/
def registered (form : RegisterFormData) (email : String) : User :=
  { role := form.role
    email
    firstName := trim form.firstName
    lastName := text form.lastName
    phone := trim form.phone
    companyName := if form.role = .company then text form.companyName else none
    city := text form.city
    country := text form.country }

theorem metadata_text {given : String} (mem : given ∈ text value) (limit : ℕ)
    (fits : utf16Length value ≤ limit) : given.toList.length ≤ limit := by
  rw [(mem_text mem).1]
  exact Nat.le_trans (length_trim_le value) fits

theorem text_eq_none : text value = none ↔ trim value = "" := by
  rw [text, ← String.toList_eq_nil_iff, ← List.isEmpty_iff]
  split
  case isTrue isEmpty => exact ⟨fun _ => isEmpty, fun _ => rfl⟩
  case isFalse isGiven =>
    exact ⟨fun none => absurd none (Option.some_ne_none _), fun isEmpty => absurd isEmpty isGiven⟩

theorem metadataText_given (given : trim value ≠ "") :
    HandleAuthUserUpsert.metadataText (text value) = some (trim value) := by
  rw [metadataText_text, text, if_neg]
  rwa [List.isEmpty_iff, String.toList_eq_nil_iff]

section Trigger

variable (documented : ∀ role, upper (roleValue role) = roleValue role)

include documented

/-- What the trigger makes of the form is what was typed. -/
theorem eq_registered {user : User}
    (creates : HandleAuthUserUpsert.Creates upper (some email) (data form) user)
    (valid : isValidPhone (trim form.phone) = true) : user = registered form email := by
  have rules := isValidPhone_iff.mp valid
  have isRole : user.role = form.role := by
    have role := creates.role
    simp only [data, Option.getD_some, documented, checkRole_roleValue, Except.ok.injEq] at role
    exact role.symm
  have firstName := creates.firstName
  simp only [data, metadataText_text] at firstName
  have phone := creates.phone
  simp only [data, text_getD, HandleAuthUserUpsert.metadataText_of_trimmed (trim_trim _)] at phone
  have lastName := creates.lastName
  have companyName := creates.companyName
  have city := creates.city
  have country := creates.country
  simp only [data, metadataText_text] at lastName city country
  rcases user with ⟨role, address, first, last, number, company, town, land⟩
  simp only at isRole companyName
  subst isRole
  simp only [registered, User.mk.injEq, true_and]
  refine ⟨(Option.some.inj creates.email).symm, (mem_text firstName).1, lastName, ?_, ?_, city,
    country⟩
  · split at phone
    case isTrue isEmpty => cases phone
    case isFalse isGiven => exact (Option.some.inj phone).symm
  · rw [companyName]
    split
    case isTrue isCompany => simp only [data, if_pos isCompany, metadataText_text]
    case isFalse isClient => rfl

theorem creates_registered (submittable : Submittable form)
    (valid : isValidPhone (trim form.phone) = true) (given : trim form.firstName ≠ "")
    (named : form.role = .company → trim form.companyName ≠ "") :
    HandleAuthUserUpsert.Creates upper (some email) (data form) (registered form email) := by
  have rules := isValidPhone_iff.mp valid
  have isPhone : HandleAuthUserUpsert.metadataText (data form "phone") =
      some (trim form.phone) := by
    simp only [data, text_getD, HandleAuthUserUpsert.metadataText_of_trimmed (trim_trim _)]
    rw [if_neg]
    intro isEmpty
    rw [List.isEmpty_iff.mp isEmpty, not_test_nil] at rules
    exact absurd rules.2 Bool.false_ne_true
  have company : ∀ text ∈ HandleAuthUserUpsert.metadataText (data form "companyName"),
      form.role = .company ∧ text ∈ RegisterForm.text form.companyName := by
    intro text mem
    simp only [data] at mem
    split at mem
    case isTrue isCompany => exact ⟨isCompany, metadataText_text form.companyName ▸ mem⟩
    case isFalse isClient => cases mem
  constructor
  · rfl
  · simp only [data, Option.getD_some, documented, checkRole_roleValue, registered]
  · exact metadataText_given given
  · exact isPhone
  · intro isCompany isNone
    have isForm : form.role = .company := isCompany
    simp only [data, if_pos isForm, metadataText_given (named isCompany), reduceCtorEq] at isNone
  · exact HandleAuthUserUpsert.checkPhone_ok.mpr rules
  · exact Nat.le_trans (length_trim_le _) submittable.firstName.2
  · simp only [registered]
    intro given mem
    exact metadata_text mem _ submittable.lastName
  · simp only [registered]
    intro given mem
    exact metadata_text mem _ submittable.city
  · simp only [registered]
    intro given mem
    exact metadata_text mem _ submittable.country
  · intro given mem
    rcases company given mem with ⟨isCompany, isName⟩
    exact metadata_text isName _ (submittable.companyName isCompany).2
  · simp only [registered, data, metadataText_text]
  · change (if form.role = .company then text form.companyName else none) =
      if form.role = .company then
        HandleAuthUserUpsert.metadataText (data form "companyName") else none
    split
    case isTrue isCompany => simp only [data, if_pos isCompany, metadataText_text]
    case isFalse isClient => rfl
  · simp only [registered, data, metadataText_text]
  · simp only [registered, data, metadataText_text]

end Trigger

/-- The form shows of the profile what was entered at the registration. -/
theorem toProfileForm_registered {row : ProfileRow}
    (isRegistered : row.user = registered form email) :
    toProfileForm (toProfile row) = entered form := by
  simp only [toProfileForm, toProfile, isRegistered, registered, entered, text_getD,
    ProfileFormValues.mk.injEq, true_and]
  split
  case isTrue isCompany => exact text_getD _
  case isFalse isClient => rfl

/-- A registration that the form sends is refused by the trigger if and only if the first name,
or the name of a company, is nothing but white space; otherwise the profile is valid, it has the
address that was typed, as the service writes it, and the settings show exactly what was typed,
trimmed. -/
theorem registered_is_shown (documented : ∀ role, upper (roleValue role) = roleValue role)
    (submittable : Submittable form) (submitted : handleSubmit form = .ok request) :
    ((∃ user,
        handleAuthUserUpsert upper (some (address request.email)) request.data = .ok user) ↔
      trim form.firstName ≠ "" ∧ (form.role = .company → trim form.companyName ≠ "")) ∧
    ∀ row : ProfileRow,
      handleAuthUserUpsert upper (some (address request.email)) request.data = .ok row.user →
        row.user.Valid ∧ row.user.role = form.role ∧
          row.user.email = address (trim form.email) ∧
            toProfileForm (toProfile row) = entered form := by
  rcases handleSubmit_eq_ok submitted with ⟨valid, isEmail, isData⟩
  rw [isEmail, isData]
  constructor
  · constructor
    · rintro ⟨user, created⟩
      have creates := HandleAuthUserUpsert.handleAuthUserUpsert_eq_ok.mp created
      have same := eq_registered documented creates valid
      have profile := creates.valid
      rw [same] at profile
      refine ⟨fun blank => profile.firstName ?_, fun isCompany blank => ?_⟩
      · simp [registered, blank]
      · have isSome := profile.isCompany.mpr isCompany
        simp [registered, isCompany, text_eq_none.mpr blank] at isSome
    · rintro ⟨given, named⟩
      exact ⟨registered form _, HandleAuthUserUpsert.handleAuthUserUpsert_eq_ok.mpr
        (creates_registered documented submittable valid given named)⟩
  · intro row created
    have creates := HandleAuthUserUpsert.handleAuthUserUpsert_eq_ok.mp created
    have same := eq_registered documented creates valid
    refine ⟨creates.valid, ?_, ?_, toProfileForm_registered same⟩
    · rw [same]
      rfl
    · rw [same]
      rfl

def exampleForm : RegisterFormData :=
  { role := .client
    email := "a@b.test"
    password := "12345678"
    passwordConfirm := "12345678"
    firstName := " Анна"
    lastName := ""
    phone := "+994 50 100-10-01"
    companyName := ""
    city := "Баку"
    country := "" }

theorem registered_is_shown_example :
    (∃ user, handleAuthUserUpsert id (some "a@b.test") (data exampleForm) = .ok user) ∧
      ∀ row : ProfileRow,
        handleAuthUserUpsert id (some "a@b.test") (data exampleForm) = .ok row.user →
          row.user.email = "a@b.test" ∧
            toProfileForm (toProfile row) =
              ⟨"Анна", "", "+994 50 100-10-01", "Баку", "", ""⟩ := by
  have submitted : handleSubmit exampleForm =
      .ok ⟨"a@b.test", "12345678", data exampleForm⟩ := by
    have valid : isValidPhone ((text exampleForm.phone).getD "") = true := by decide +kernel
    have issue : validateNewPassword "12345678" "12345678" = none := by decide +kernel
    have address : trim "a@b.test" = "a@b.test" := by decide +kernel
    have isEmail : exampleForm.email = "a@b.test" := rfl
    have isPassword : exampleForm.password = "12345678" := rfl
    have isConfirmed : exampleForm.passwordConfirm = "12345678" := rfl
    simp only [handleSubmit, valid, isPassword, isConfirmed, issue, isEmail, address,
      Bool.not_true, Bool.false_eq_true, if_false]
  have submittable : Submittable exampleForm :=
    { firstName := ⟨by decide, by decide +kernel⟩
      lastName := by decide +kernel
      phone := ⟨by decide, by decide +kernel⟩
      city := by decide +kernel
      country := by decide +kernel
      companyName := fun isCompany => nomatch isCompany }
  have shown : entered exampleForm = ⟨"Анна", "", "+994 50 100-10-01", "Баку", "", ""⟩ := by
    decide +kernel
  have given : trim exampleForm.firstName ≠ "" := by decide +kernel
  have registered := @registered_is_shown exampleForm _ id id (fun _ => rfl) submittable submitted
  refine ⟨registered.1.mpr ⟨given, fun isCompany => nomatch isCompany⟩, fun row created => ?_⟩
  rcases registered.2 row created with ⟨_, _, email, isShown⟩
  have address : trim "a@b.test" = "a@b.test" := by decide +kernel
  exact ⟨email.trans address, isShown.trans shown⟩

end RegisterForm

end MyBuild
