import MyBuild.Frontend.FormAgreement
import MyBuild.Users.Profile

/-!
# The form of a profile

What the form shows of a profile, what it checks before it sends anything, and the request it
sends.  A form that is accepted is saved, and the saved profile is what the form shows next:
nothing the user has typed is refused, lost or altered but for the white space around it.
-/

namespace MyBuild

structure ProfileFormValues where
  firstName : String
  lastName : String
  phone : String
  city : String
  country : String
  companyName : String
  deriving DecidableEq

structure ProfileFormErrors where
  firstName : Option String
  lastName : Option String
  phone : Option String
  city : Option String
  country : Option String
  companyName : Option String
  deriving DecidableEq

def ProfileFormErrors.none : ProfileFormErrors :=
  ⟨Option.none, Option.none, Option.none, Option.none, Option.none, Option.none⟩

def toProfileForm (profile : UserProfile) : ProfileFormValues :=
  { firstName := profile.firstName
    lastName := profile.lastName.getD ""
    phone := profile.phone
    city := profile.city.getD ""
    country := profile.country.getD ""
    companyName := profile.companyName.getD "" }

def tooLong (label : String) (max : ℕ) : String :=
  label ++ " — не более " ++ toString max ++ " символов"

namespace ProfileFormChecks

/-- A text that must be given and has a limit. -/
def required (missing label : String) (max : ℕ) (value : String) : Option String :=
  if (trim value).toList.isEmpty then some missing
  else if max < utf16Length (trim value) then some (tooLong label max)
  else none

/-- A text that may be left empty and has a limit. -/
def optional (label : String) (max : ℕ) (value : String) : Option String :=
  if max < utf16Length (trim value) then some (tooLong label max) else none

def firstName (value : String) : Option String :=
  required "Укажите имя" "Имя" ProfileLimits.firstName value

def lastName (value : String) : Option String := optional "Фамилия" ProfileLimits.lastName value

def phone (value : String) : Option String :=
  if (trim value).toList.isEmpty then some "Укажите телефон"
  else if !isValidPhone (trim value) then some phoneErrorMessage
  else none

def city (value : String) : Option String := optional "Город" ProfileLimits.city value

def country (value : String) : Option String := optional "Страна" ProfileLimits.country value

def companyName (role : Role) (value : String) : Option String :=
  if role = .company then
    required "Укажите название компании" "Название компании" ProfileLimits.companyName value
  else none

end ProfileFormChecks

open ProfileFormChecks in
def validateProfileForm (values : ProfileFormValues) (role : Role) : ProfileFormErrors :=
  { firstName := firstName values.firstName
    lastName := lastName values.lastName
    phone := phone values.phone
    city := city values.city
    country := country values.country
    companyName := companyName role values.companyName }

def toProfileBody (values : ProfileFormValues) (role : Role) : UpdateProfileBody :=
  { firstName := some (trim values.firstName)
    lastName := some (trim values.lastName)
    phone := some (trim values.phone)
    city := some (trim values.city)
    country := some (trim values.country)
    companyName := if role = .company then some (trim values.companyName) else none }

namespace ProfileFormValues

def trimmed (values : ProfileFormValues) : ProfileFormValues :=
  { firstName := trim values.firstName
    lastName := trim values.lastName
    phone := trim values.phone
    city := trim values.city
    country := trim values.country
    companyName := trim values.companyName }

/-- A client has no name of a company to change. -/
def shownAfter (values : ProfileFormValues) (role : Role) (before : ProfileFormValues) :
    ProfileFormValues :=
  { values.trimmed with
    companyName := if role = .company then trim values.companyName else before.companyName }

end ProfileFormValues

def isProfileChanged (values : ProfileFormValues) (profile : UserProfile) : Bool :=
  let saved := toProfileForm profile
  trim values.firstName != trim saved.firstName || trim values.lastName != trim saved.lastName ||
    trim values.phone != trim saved.phone || trim values.city != trim saved.city ||
    trim values.country != trim saved.country ||
    trim values.companyName != trim saved.companyName

namespace ProfileForm

variable {values : ProfileFormValues} {role : Role} {profile : UserProfile}
  {textLength : TextLength}

theorem isProfileChanged_eq_false :
    isProfileChanged values profile = false ↔ values.trimmed = (toProfileForm profile).trimmed := by
  simp only [isProfileChanged, ProfileFormValues.trimmed, Bool.or_eq_false_iff,
    bne_eq_false_iff_eq, ProfileFormValues.mk.injEq, and_assoc]

theorem required_eq_none {missing label value : String} {max : ℕ} :
    ProfileFormChecks.required missing label max value = none ↔
      (trim value).toList ≠ [] ∧ utf16Length (trim value) ≤ max := by
  simp only [ProfileFormChecks.required, refusal_eq_none, and_true, List.isEmpty_iff, not_lt]

theorem optional_eq_none {label value : String} {max : ℕ} :
    ProfileFormChecks.optional label max value = none ↔ utf16Length (trim value) ≤ max := by
  simp only [ProfileFormChecks.optional, refusal_eq_none, and_true, not_lt]

theorem validateProfileForm_eq_none :
    validateProfileForm values role = .none ↔
      ((trim values.firstName).toList ≠ [] ∧
        utf16Length (trim values.firstName) ≤ ProfileLimits.firstName) ∧
      utf16Length (trim values.lastName) ≤ ProfileLimits.lastName ∧
      isValidPhone (trim values.phone) = true ∧
      utf16Length (trim values.city) ≤ ProfileLimits.city ∧
      utf16Length (trim values.country) ≤ ProfileLimits.country ∧
      (role = .company → (trim values.companyName).toList ≠ [] ∧
        utf16Length (trim values.companyName) ≤ ProfileLimits.companyName) := by
  have phone : ProfileFormChecks.phone values.phone = none ↔
      isValidPhone (trim values.phone) = true := by
    simp only [ProfileFormChecks.phone, refusal_eq_none, and_true, List.isEmpty_iff,
      Bool.not_eq_true', Bool.not_eq_false]
    constructor
    · exact fun checks => checks.2
    · intro valid
      refine ⟨fun isEmpty => ?_, valid⟩
      rw [isValidPhone_iff, isEmpty, not_test_nil] at valid
      exact absurd valid.2 Bool.false_ne_true
  have companyName : ProfileFormChecks.companyName role values.companyName = none ↔
      (role = .company → (trim values.companyName).toList ≠ [] ∧
        utf16Length (trim values.companyName) ≤ ProfileLimits.companyName) := by
    rw [ProfileFormChecks.companyName]
    split
    case isTrue isCompany => simp [isCompany, required_eq_none]
    case isFalse isClient => simp [isClient]
  simp only [validateProfileForm, ProfileFormErrors.none, ProfileFormErrors.mk.injEq,
    ProfileFormChecks.firstName, ProfileFormChecks.lastName, ProfileFormChecks.city,
    ProfileFormChecks.country, required_eq_none, optional_eq_none, phone, companyName]

/-- What the form accepts, the request may hold. -/
theorem errors_eq_nil_of_accepted (accepted : validateProfileForm values role = .none) :
    (toProfileBody values role).errors textLength = [] := by
  rcases validateProfileForm_eq_none.mp accepted with
    ⟨firstName, lastName, phone, city, country, companyName⟩
  have fits : ∀ {text : String} {max : ℕ}, utf16Length (trim text) ≤ max →
      characterCount (trim (trim text)) ≤ max := by
    intro text max short
    rw [trim_trim]
    exact Nat.le_trans (characterCount_le_utf16Length _) short
  rw [UpdateProfileBody.errors_eq_nil]
  refine ⟨?_, ?_, ?_, ?_, ?_, ?_⟩
  · rintro text ⟨⟩
    exact ⟨(trim_trim _).symm ▸ firstName.1, fits firstName.2⟩
  · rintro text ⟨⟩
    exact fits lastName
  · exact (UpdateProfileDto.phone_eq_nil (trim_trim _)).mpr (isValidPhone_iff.mp phone)
  · rintro text ⟨⟩
    exact fits city
  · rintro text ⟨⟩
    exact fits country
  · intro text mem
    simp only [toProfileBody] at mem
    split at mem
    case isTrue isCompany =>
      rcases Option.mem_some_iff.mp mem with rfl
      exact fits (companyName isCompany).2
    case isFalse isClient => cases mem

theorem trimmed_toProfileBody :
    (toProfileBody values role).trimmed = toProfileBody values role := by
  simp only [toProfileBody, UpdateProfileBody.trimmed, Option.map_some, trim_trim]
  split
  case isTrue isCompany => rw [Option.map_some, trim_trim]
  case isFalse isClient => rfl

theorem emptyToNull_getD_getD (text : String) (column : Option String) :
    ((UsersService.emptyToNull (some text)).getD column).getD "" = text := by
  simp only [UsersService.emptyToNull, Option.map_some, Option.getD_some]
  split
  case isTrue isEmpty => exact (String.toList_eq_nil_iff.mp (List.isEmpty_iff.mp isEmpty)).symm
  case isFalse isGiven => rfl

/-- The form of a row that the request has written. -/
theorem toProfileForm_updated {row : ProfileRow} {now : Date} :
    toProfileForm (toProfile { row with
        user := UsersService.updated (toProfileBody values row.user.role)
          (toProfileBody values row.user.role).companyName row.user
        updatedAt := now }) =
      values.shownAfter row.user.role (toProfileForm (toProfile row)) := by
  simp only [toProfileForm, toProfile, UsersService.updated, toProfileBody, emptyToNull_getD_getD,
    ProfileFormValues.shownAfter, ProfileFormValues.trimmed, Option.getD_some,
    ProfileFormValues.mk.injEq, true_and]
  split <;> rfl

theorem trimmed_shownAfter {before : ProfileFormValues}
    (untouched : role = .client → values.companyName = before.companyName) :
    (values.shownAfter role before).trimmed = values.trimmed := by
  cases role with
  | client =>
      simp [ProfileFormValues.shownAfter, ProfileFormValues.trimmed, trim_trim, untouched rfl]
  | company => simp [ProfileFormValues.shownAfter, ProfileFormValues.trimmed, trim_trim]

/-- Nothing but white space is lost when the form shows what was typed. -/
theorem shownAfter_eq_iff {before : ProfileFormValues} (plain : before.trimmed = before)
    (untouched : role = .client → values.companyName = before.companyName) :
    values.shownAfter role before = before ↔ values.trimmed = before := by
  constructor
  · intro same
    rw [← trimmed_shownAfter untouched, same, plain]
  · intro same
    have companyName : trim values.companyName = before.companyName := by
      rw [← same, ProfileFormValues.trimmed]
    rw [ProfileFormValues.shownAfter, same, companyName, ite_self]

theorem eq_of_getD {first second : Option String} (firstGiven : ∀ text ∈ first, text.toList ≠ [])
    (secondGiven : ∀ text ∈ second, text.toList ≠ [])
    (same : first.getD "" = second.getD "") : first = second := by
  cases first with
  | none =>
      cases second with
      | none => rfl
      | some text => exact absurd (congrArg String.toList same).symm (secondGiven text rfl)
  | some text =>
      cases second with
      | none => exact absurd (congrArg String.toList same) (firstGiven text rfl)
      | some other => exact congrArg some same

/-- The form shows all of a valid profile that a request may change. -/
theorem user_eq_of_toProfileForm {first second : ProfileRow} (firstValid : first.user.Valid)
    (secondValid : second.user.Valid) (role : first.user.role = second.user.role)
    (email : first.user.email = second.user.email)
    (same : toProfileForm (toProfile first) = toProfileForm (toProfile second)) :
    first.user = second.user := by
  simp only [toProfileForm, toProfile, ProfileFormValues.mk.injEq] at same
  rcases same with ⟨firstName, lastName, phone, city, country, companyName⟩
  have lastName := eq_of_getD (fun text mem => (firstValid.lastName text mem).1)
    (fun text mem => (secondValid.lastName text mem).1) lastName
  have city := eq_of_getD (fun text mem => (firstValid.city text mem).1)
    (fun text mem => (secondValid.city text mem).1) city
  have country := eq_of_getD (fun text mem => (firstValid.country text mem).1)
    (fun text mem => (secondValid.country text mem).1) country
  have companyName := eq_of_getD (fun text mem => (firstValid.companyName text mem).1)
    (fun text mem => (secondValid.companyName text mem).1) companyName
  rcases first with ⟨_, ⟨⟩, _, _, _⟩
  rcases second with ⟨_, ⟨⟩, _, _, _⟩
  simp only at role email firstName lastName phone city country companyName
  simp only [role, email, firstName, lastName, phone, city, country, companyName]

variable {now : Date} {userId : Uuid} {profiles : List ProfileRow} {row : ProfileRow}

/-- What the form accepts is saved as it stands: the request is not refused, the profile read
next is the one returned, the form then shows what was typed, trimmed, and the button to save
goes dark.  A valid profile stays valid, and where no text of it had white space around it, the
button was lit if and only if a column was to change.  The rows of others stay as they are. -/
theorem saved_is_shown (found : profiles.find? (·.id == userId) = some row)
    (accepted : validateProfileForm values row.user.role = .none)
    (untouched : row.user.role = .client →
      values.companyName = (toProfileForm (toProfile row)).companyName) :
    ∃ saved next,
      patchProfile textLength now userId (toProfileBody values row.user.role) profiles =
        .ok (saved, next) ∧
      UsersService.getProfile userId next = .ok saved ∧
      toProfileForm saved =
        values.shownAfter row.user.role (toProfileForm (toProfile row)) ∧
      isProfileChanged values saved = false ∧
      (row.user.Valid → ∃ written ∈ next, toProfile written = saved ∧ written.user.Valid ∧
        written.user.role = row.user.role ∧ written.user.email = row.user.email ∧
        written.emailVerifiedAt = row.emailVerifiedAt ∧
        ((toProfileForm (toProfile row)).trimmed = toProfileForm (toProfile row) →
          (isProfileChanged values (toProfile row) = true ↔ written.user ≠ row.user))) ∧
      next.length = profiles.length ∧
      ∀ other, other.id ≠ userId → (other ∈ next ↔ other ∈ profiles) := by
  have checked := @errors_eq_nil_of_accepted _ _ textLength accepted
  have rules := validateProfileForm_eq_none.mp accepted
  have allowed : ∀ text ∈ (toProfileBody values row.user.role).companyName,
      row.user.role = .company ∧ text.toList ≠ [] := by
    intro text mem
    simp only [toProfileBody] at mem
    split at mem
    case isTrue isCompany =>
      rcases Option.mem_some_iff.mp mem with rfl
      exact ⟨isCompany, (rules.2.2.2.2.2 isCompany).1⟩
    case isFalse isClient => cases mem
  have isUser : row.id = userId := by simpa using List.find?_some found
  let written : ProfileRow := { row with
    user := UsersService.updated (toProfileBody values row.user.role)
      (toProfileBody values row.user.role).companyName row.user
    updatedAt := now }
  have shown : toProfileForm (toProfile written) =
      values.shownAfter row.user.role (toProfileForm (toProfile row)) := toProfileForm_updated
  have foundNext : (Rows.updateWhere (·.id = userId) (fun _ => written) profiles).find?
      (·.id == userId) = some written :=
    Rows.find?_updateWhere_key found isUser
  refine ⟨toProfile written, Rows.updateWhere (·.id = userId) (fun _ => written) profiles,
    ?_, ?_, shown, ?_, ?_, ?_, ?_⟩
  · rw [patchProfile, if_pos checked, trimmed_toProfileBody]
    exact UsersService.updateProfile_eq_ok.mpr ⟨row, found, allowed, rfl, rfl⟩
  · rw [UsersService.getProfile, UsersService.findOrFail_eq_ok.mpr foundNext]
    rfl
  · rw [isProfileChanged_eq_false, shown, trimmed_shownAfter untouched]
  · intro valid
    have stillValid := UsersService.updated_valid valid checked
      (trimmed_toProfileBody.symm ▸ allowed)
    rw [trimmed_toProfileBody] at stillValid
    refine ⟨written, List.mem_of_find?_eq_some foundNext, rfl, stillValid, rfl, rfl, rfl, ?_⟩
    intro plain
    rw [← Bool.not_eq_false, isProfileChanged_eq_false, not_iff_not, plain,
      ← shownAfter_eq_iff plain untouched, ← shown]
    constructor
    · exact user_eq_of_toProfileForm stillValid valid rfl rfl
    · intro same
      simp only [toProfileForm, toProfile, same]
  · exact List.length_map _
  · intro other isOther
    rw [Rows.mem_updateWhere]
    constructor
    · rintro ⟨old, mem, rfl⟩
      split at isOther
      case isTrue isKey => exact absurd isUser isOther
      case isFalse notKey => rwa [if_neg notKey]
    · intro mem
      exact ⟨other, mem, (if_neg isOther).symm⟩

def exampleRow : ProfileRow :=
  { id := ⟨1⟩
    user :=
      { role := .company, email := "i@b.test", firstName := "Иван", lastName := none
        phone := "+994 51 200-20-02", companyName := some "СтройГрад", city := some "Баку"
        country := none }
    emailVerifiedAt := some .epoch
    createdAt := .epoch
    updatedAt := .epoch }

/-- A company clears its city and writes its name with spaces around it. -/
theorem saved_is_shown_example :
    ∃ saved next,
      patchProfile .plain .epoch ⟨1⟩
          (toProfileBody ⟨"Иван", "", "+994 51 200-20-02", "", "", " Град "⟩ .company)
          [exampleRow] = .ok (saved, next) ∧
        toProfileForm saved = ⟨"Иван", "", "+994 51 200-20-02", "", "", "Град"⟩ := by
  have accepted : validateProfileForm ⟨"Иван", "", "+994 51 200-20-02", "", "", " Град "⟩
      .company = .none := by
    decide +kernel
  have shown : ProfileFormValues.shownAfter
      ⟨"Иван", "", "+994 51 200-20-02", "", "", " Град "⟩ .company
        (toProfileForm (toProfile exampleRow)) =
          ⟨"Иван", "", "+994 51 200-20-02", "", "", "Град"⟩ := by
    decide +kernel
  have found : [exampleRow].find? (·.id == ⟨1⟩) = some exampleRow := rfl
  rcases @saved_is_shown _ .plain .epoch _ _ _ found accepted
    (fun isClient => nomatch isClient) with
    ⟨saved, next, written, _, isShown, _⟩
  exact ⟨saved, next, written, isShown.trans shown⟩

end ProfileForm

end MyBuild
