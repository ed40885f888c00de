import MyBuild.Library.Rows
import MyBuild.Shared.Types
import MyBuild.Users.Phone

/-!
# The profile of a user

The row of a user, the request that changes it and what the request may hold.  A property
that is not sent leaves its column alone; an empty text clears a column that may be empty.
The address, the role and the moment the address was verified are no part of the request.
-/

namespace MyBuild

/-- A row of the table `User`. -/
structure ProfileRow where
  id : Uuid
  user : User
  emailVerifiedAt : Option Date
  createdAt : Date
  updatedAt : Date

structure UserProfile where
  id : Uuid
  email : String
  role : Role
  firstName : String
  lastName : Option String
  phone : String
  companyName : Option String
  city : Option String
  country : Option String
  createdAt : IsoDateString
  updatedAt : IsoDateString
  deriving DecidableEq

def toProfile (row : ProfileRow) : UserProfile :=
  { id := row.id
    email := row.user.email
    role := row.user.role
    firstName := row.user.firstName
    lastName := row.user.lastName
    phone := row.user.phone
    companyName := row.user.companyName
    city := row.user.city
    country := row.user.country
    createdAt := row.createdAt.toISOString
    updatedAt := row.updatedAt.toISOString }

namespace ProfileLimits

def firstName : ℕ := 100

def lastName : ℕ := 100

def city : ℕ := 100

def country : ℕ := 100

def companyName : ℕ := 200

end ProfileLimits

/-- `PATCH /profile` -/
structure UpdateProfileBody where
  firstName : Option String
  lastName : Option String
  phone : Option String
  city : Option String
  country : Option String
  companyName : Option String
  deriving DecidableEq

namespace UpdateProfileBody

def trimmed (body : UpdateProfileBody) : UpdateProfileBody :=
  { firstName := body.firstName.map trim
    lastName := body.lastName.map trim
    phone := body.phone.map trim
    city := body.city.map trim
    country := body.country.map trim
    companyName := body.companyName.map trim }

def errors (textLength : TextLength) (body : UpdateProfileBody) :
    List (String × ConstraintError) :=
  optionalErrors "firstName"
      [.isNotEmpty (some "Имя не может быть пустым"),
        .maxLength textLength ProfileLimits.firstName]
      body.trimmed.firstName ++
    optionalErrors "lastName" [.maxLength textLength ProfileLimits.lastName]
      body.trimmed.lastName ++
    (UpdateProfileDto.phone textLength body.phone).map ("phone", ·) ++
    optionalErrors "city" [.maxLength textLength ProfileLimits.city] body.trimmed.city ++
    optionalErrors "country" [.maxLength textLength ProfileLimits.country] body.trimmed.country ++
    optionalErrors "companyName" [.maxLength textLength ProfileLimits.companyName]
      body.trimmed.companyName

end UpdateProfileBody

inductive ProfileError where
  | validation (errors : List (String × ConstraintError))
  | badRequest (message : String)
  | notFound (message : String)
  deriving DecidableEq

namespace UsersService

/-- An empty text clears the column. -/
def emptyToNull (value : Option String) : Option (Option String) :=
  value.map fun text => if text.toList.isEmpty then none else some text

def resolveCompanyName (role : Role) : Option String → Except ProfileError (Option String)
  | none => .ok none
  | some value =>
      if role ≠ .company then .error (.badRequest "Название компании есть только у роли «Компания»")
      else if value.toList.isEmpty then
        .error (.badRequest "Название компании обязательно и не может быть пустым")
      else .ok (some value)

def findOrFail (userId : Uuid) (profiles : List ProfileRow) : Except ProfileError ProfileRow :=
  match profiles.find? (·.id == userId) with
  | none => .error (.notFound "Профиль не найден")
  | some row => .ok row

def getProfile (userId : Uuid) (profiles : List ProfileRow) : Except ProfileError UserProfile :=
  (findOrFail userId profiles).map toProfile

/-- The columns of a user after the request; the request is trimmed already. -/
def updated (dto : UpdateProfileBody) (companyName : Option String) (user : User) : User :=
  { user with
    firstName := dto.firstName.getD user.firstName
    phone := dto.phone.getD user.phone
    lastName := (emptyToNull dto.lastName).getD user.lastName
    city := (emptyToNull dto.city).getD user.city
    country := (emptyToNull dto.country).getD user.country
    companyName := companyName <|> user.companyName }

/-- What the request returns, and the rows after it. -/
def updateProfile (now : Date) (userId : Uuid) (dto : UpdateProfileBody)
    (profiles : List ProfileRow) : Except ProfileError (UserProfile × List ProfileRow) := do
  let current ← findOrFail userId profiles
  let companyName ← resolveCompanyName current.user.role dto.companyName
  let row := { current with user := updated dto companyName current.user, updatedAt := now }
  .ok (toProfile row, Rows.updateWhere (·.id = userId) (fun _ => row) profiles)

end UsersService

/-- The request as a whole: what it holds is checked first. -/
def patchProfile (textLength : TextLength) (now : Date) (userId : Uuid) (body : UpdateProfileBody)
    (profiles : List ProfileRow) : Except ProfileError (UserProfile × List ProfileRow) :=
  if body.errors textLength = [] then UsersService.updateProfile now userId body.trimmed profiles
  else .error (.validation (body.errors textLength))

/-- What every profile keeps: the texts are given and their characters within the limits,
the phone is one, and companies, and only they, have a name. -/
structure User.Valid (user : User) : Prop where
  firstName : user.firstName.toList ≠ []
  firstNameLength : characterCount user.firstName ≤ ProfileLimits.firstName
  phone : isValidPhone user.phone = true
  lastName : ∀ text ∈ user.lastName, text.toList ≠ [] ∧ characterCount text ≤ ProfileLimits.lastName
  city : ∀ text ∈ user.city, text.toList ≠ [] ∧ characterCount text ≤ ProfileLimits.city
  country : ∀ text ∈ user.country, text.toList ≠ [] ∧ characterCount text ≤ ProfileLimits.country
  companyName : ∀ text ∈ user.companyName,
    text.toList ≠ [] ∧ characterCount text ≤ ProfileLimits.companyName
  isCompany : user.companyName.isSome = true ↔ user.role = .company

theorem User.Valid.withEmail {user : User} (valid : user.Valid) (email : String) :
    ({ user with email } : User).Valid :=
  { firstName := valid.firstName
    firstNameLength := valid.firstNameLength
    phone := valid.phone
    lastName := valid.lastName
    city := valid.city
    country := valid.country
    companyName := valid.companyName
    isCompany := valid.isCompany }

theorem optionalErrors_eq_nil {property : String} {validators : List (Validator String)}
    {value : Option String} :
    optionalErrors property validators value = [] ↔
      ∀ text ∈ value, ∀ validator ∈ validators, validator.check text = true := by
  cases value with
  | none => simp [optionalErrors]
  | some text => simp [optionalErrors]

theorem UpdateProfileDto.isValidPhone_of_phone {textLength : TextLength} {value : Option String}
    (accepted : UpdateProfileDto.phone textLength value = []) :
    ∀ text ∈ value, isValidPhone (trim text) = true := by
  rintro text rfl
  have again : UpdateProfileDto.phone textLength (some (trim text)) = [] := by
    simpa only [UpdateProfileDto.phone, trim_trim] using accepted
  exact isValidPhone_iff.mpr ((UpdateProfileDto.phone_eq_nil (trim_trim text)).mp again)

namespace HandleAuthUserUpsert

theorem checkLength_eq_ok {text : Option String} {limit : ℕ} {message : String} :
    checkLength text limit message = .ok () ↔ ∀ given ∈ text, given.toList.length ≤ limit := by
  cases text with
  | none => simp [checkLength]
  | some given =>
      simp only [checkLength, Option.mem_some_iff, forall_eq']
      split
      case isTrue long =>
        simp only [reduceCtorEq, false_iff]
        omega
      case isFalse short => simpa using short

theorem checkCompanyName_eq_ok {role : Role} {companyName : Option String} :
    checkCompanyName role companyName = .ok () ↔ (role = .company → companyName ≠ none) := by
  simp only [checkCompanyName]
  split
  case isTrue missing => simp [missing]
  case isFalse given => simpa using given

theorem ne_nil_of_metadataText {value : Option String} {text : String}
    (given : metadataText value = some text) : text.toList ≠ [] := by
  simp only [metadataText] at given
  split at given
  case isTrue isEmpty => cases given
  case isFalse isGiven =>
    rw [← Option.some.inj given, String.toList_ofList]
    simpa using isGiven

/-- The profile the trigger makes, and all that it has checked before. -/
structure Creates (upper : String → String) (email : Option String)
    (metadata : String → Option String) (user : User) : Prop where
  email : email = some user.email
  role : checkRole (upper ((metadata "role").getD "")) = .ok user.role
  firstName : metadataText (metadata "firstName") = some user.firstName
  phone : metadataText (metadata "phone") = some user.phone
  named : user.role = .company → metadataText (metadata "companyName") ≠ none
  checked : checkPhone user.phone = .ok ()
  firstNameFits : user.firstName.toList.length ≤ ProfileLimits.firstName
  lastNameFits : ∀ text ∈ user.lastName, text.toList.length ≤ ProfileLimits.lastName
  cityFits : ∀ text ∈ user.city, text.toList.length ≤ ProfileLimits.city
  countryFits : ∀ text ∈ user.country, text.toList.length ≤ ProfileLimits.country
  nameFits : ∀ text ∈ metadataText (metadata "companyName"),
    text.toList.length ≤ ProfileLimits.companyName
  lastName : user.lastName = metadataText (metadata "lastName")
  companyName : user.companyName =
    if user.role = .company then metadataText (metadata "companyName") else none
  city : user.city = metadataText (metadata "city")
  country : user.country = metadataText (metadata "country")

theorem handleAuthUserUpsert_eq_ok {upper : String → String} {email : Option String}
    {metadata : String → Option String} {user : User} :
    handleAuthUserUpsert upper email metadata = .ok user ↔ Creates upper email metadata user := by
  simp only [handleAuthUserUpsert, Except.bind_eq_ok, required_eq_ok, Except.ok.injEq]
  constructor
  · rintro ⟨address, rfl, role, isRole, firstName, isFirst, phone, isPhone, ⟨⟩, named, ⟨⟩, checked,
      ⟨⟩, first, ⟨⟩, last, ⟨⟩, city, ⟨⟩, country, ⟨⟩, company, rfl⟩
    exact ⟨rfl, isRole, isFirst, isPhone, checkCompanyName_eq_ok.mp named, checked,
      checkLength_eq_ok.mp first firstName rfl, checkLength_eq_ok.mp last,
      checkLength_eq_ok.mp city, checkLength_eq_ok.mp country, checkLength_eq_ok.mp company,
      rfl, rfl, rfl, rfl⟩
  · intro creates
    rcases user with ⟨role, address, firstName, lastName, phone, companyName, city, country⟩
    have first : checkLength (some firstName) 100 "Имя длиннее 100 символов" = .ok () :=
      checkLength_eq_ok.mpr fun text isFirst =>
        Option.mem_some_iff.mp isFirst ▸ creates.firstNameFits
    have last : checkLength lastName 100 "Фамилия длиннее 100 символов" = .ok () :=
      checkLength_eq_ok.mpr creates.lastNameFits
    have isCity : checkLength city 100 "Город длиннее 100 символов" = .ok () :=
      checkLength_eq_ok.mpr creates.cityFits
    have isCountry : checkLength country 100 "Страна длиннее 100 символов" = .ok () :=
      checkLength_eq_ok.mpr creates.countryFits
    refine ⟨address, creates.email, role, creates.role, firstName, creates.firstName, phone,
      creates.phone, ⟨⟩, checkCompanyName_eq_ok.mpr creates.named, ⟨⟩, creates.checked, ⟨⟩, first,
      ⟨⟩, creates.lastName ▸ last, ⟨⟩, creates.city ▸ isCity, ⟨⟩, creates.country ▸ isCountry, ⟨⟩,
      checkLength_eq_ok.mpr creates.nameFits, ?_⟩
    rw [← creates.lastName, ← creates.companyName, ← creates.city, ← creates.country]

/-- The trigger makes valid profiles. -/
theorem Creates.valid {upper : String → String} {email : Option String}
    {metadata : String → Option String} {user : User}
    (creates : Creates upper email metadata user) : user.Valid := by
  have valid := @isValidPhone_of_registered TextLength.plain _ _ _ _
    (handleAuthUserUpsert_eq_ok.mpr creates)
  constructor
  · exact ne_nil_of_metadataText creates.firstName
  · exact (characterCount_le_length _).trans creates.firstNameFits
  · exact valid.1
  · intro text mem
    exact ⟨ne_nil_of_metadataText (creates.lastName ▸ mem),
      (characterCount_le_length text).trans (creates.lastNameFits text mem)⟩
  · intro text mem
    exact ⟨ne_nil_of_metadataText (creates.city ▸ mem),
      (characterCount_le_length text).trans (creates.cityFits text mem)⟩
  · intro text mem
    exact ⟨ne_nil_of_metadataText (creates.country ▸ mem),
      (characterCount_le_length text).trans (creates.countryFits text mem)⟩
  · intro text mem
    rw [creates.companyName] at mem
    split at mem
    case isTrue isCompany =>
      exact ⟨ne_nil_of_metadataText mem,
        (characterCount_le_length text).trans (creates.nameFits text mem)⟩
    case isFalse isClient => cases mem
  · rw [creates.companyName]
    split
    case isTrue isCompany =>
      exact ⟨fun _ => isCompany, fun _ => Option.isSome_iff_ne_none.mpr (creates.named isCompany)⟩
    case isFalse isClient => simp [isClient]

end HandleAuthUserUpsert

namespace UpdateProfileBody

variable {textLength : TextLength} {body : UpdateProfileBody}

theorem errors_eq_nil :
    body.errors textLength = [] ↔
      (∀ text ∈ body.firstName, (trim text).toList ≠ [] ∧
        characterCount (trim text) ≤ ProfileLimits.firstName) ∧
      (∀ text ∈ body.lastName, characterCount (trim text) ≤ ProfileLimits.lastName) ∧
      UpdateProfileDto.phone textLength body.phone = [] ∧
      (∀ text ∈ body.city, characterCount (trim text) ≤ ProfileLimits.city) ∧
      (∀ text ∈ body.country, characterCount (trim text) ≤ ProfileLimits.country) ∧
      ∀ text ∈ body.companyName, characterCount (trim text) ≤ ProfileLimits.companyName := by
  simp only [errors, trimmed, List.append_eq_nil_iff, optionalErrors_eq_nil, List.map_eq_nil_iff,
    Option.mem_map, forall_exists_index, and_imp, forall_apply_eq_imp_iff₂, List.forall_mem_cons,
    List.not_mem_nil, false_imp_iff, implies_true, and_true, Validator.isNotEmpty,
    Validator.maxLength, textLength.documented, Bool.not_eq_true', List.isEmpty_eq_false_iff,
    decide_eq_true_eq, and_assoc]

end UpdateProfileBody

namespace UsersService

variable {now : Date} {userId : Uuid} {dto : UpdateProfileBody} {profiles next : List ProfileRow}
  {profile : UserProfile}

theorem findOrFail_eq_ok {row : ProfileRow} :
    findOrFail userId profiles = .ok row ↔ profiles.find? (·.id == userId) = some row := by
  simp only [findOrFail]
  cases profiles.find? (·.id == userId) with
  | none => simp
  | some found => simp

theorem resolveCompanyName_eq_ok {role : Role} {value companyName : Option String} :
    resolveCompanyName role value = .ok companyName ↔
      companyName = value ∧ ∀ text ∈ value, role = .company ∧ text.toList ≠ [] := by
  cases value with
  | none =>
      rw [resolveCompanyName, Except.ok.injEq]
      simpa using eq_comm
  | some text =>
      simp only [resolveCompanyName, Option.mem_some_iff, forall_eq']
      split
      case isTrue isClient => simp [isClient]
      case isFalse isCompany =>
          rw [not_ne_iff] at isCompany
          split
          case isTrue isEmpty =>
            rw [List.isEmpty_iff] at isEmpty
            simp [isEmpty]
          case isFalse given =>
            rw [List.isEmpty_iff] at given
            rw [Except.ok.injEq]
            constructor
            · rintro rfl
              exact ⟨rfl, isCompany, given⟩
            · rintro ⟨rfl, _⟩
              rfl

/-- The request writes one row: that of the user. -/
theorem updateProfile_eq_ok :
    updateProfile now userId dto profiles = .ok (profile, next) ↔
      ∃ row, profiles.find? (·.id == userId) = some row ∧
        (∀ text ∈ dto.companyName, row.user.role = .company ∧ text.toList ≠ []) ∧
        profile = toProfile { row with
          user := updated dto dto.companyName row.user, updatedAt := now } ∧
        next = Rows.updateWhere (·.id = userId) (fun _ => { row with
          user := updated dto dto.companyName row.user, updatedAt := now }) profiles := by
  constructor
  · intro returned
    simp only [updateProfile] at returned
    cases found : findOrFail userId profiles with
    | error error => simp [found, bind, Except.bind] at returned
    | ok row =>
        cases resolved : resolveCompanyName row.user.role dto.companyName with
        | error error => simp [found, resolved, bind, Except.bind] at returned
        | ok companyName =>
            rcases resolveCompanyName_eq_ok.mp resolved with ⟨rfl, allowed⟩
            simp only [found, resolved, bind, Except.bind, Except.ok.injEq,
              Prod.mk.injEq] at returned
            exact ⟨row, findOrFail_eq_ok.mp found, allowed, returned.1.symm, returned.2.symm⟩
  · rintro ⟨row, found, allowed, rfl, rfl⟩
    simp only [updateProfile, findOrFail_eq_ok.mpr found,
      resolveCompanyName_eq_ok.mpr ⟨rfl, allowed⟩, bind, Except.bind]

theorem mem_emptyToNull_getD {value column : Option String} {text : String}
    (mem : text ∈ (emptyToNull value).getD column) :
    (value = some text ∧ text.toList ≠ []) ∨ (value = none ∧ text ∈ column) := by
  cases value with
  | none => exact Or.inr ⟨rfl, mem⟩
  | some given =>
      simp only [emptyToNull, Option.map_some, Option.getD_some] at mem
      split at mem
      case isTrue isEmpty => cases mem
      case isFalse isGiven =>
        rw [List.isEmpty_iff] at isGiven
        rcases Option.mem_some_iff.mp mem with rfl
        exact Or.inl ⟨rfl, isGiven⟩

/-- A text column after the request is the trimmed text of the request, or as it was. -/
theorem optional_column {value column : Option String} {limit : ℕ}
    (fits : ∀ text ∈ value, characterCount (trim text) ≤ limit)
    (held : ∀ text ∈ column, text.toList ≠ [] ∧ characterCount text ≤ limit) :
    ∀ text ∈ (emptyToNull (value.map trim)).getD column,
      text.toList ≠ [] ∧ characterCount text ≤ limit := by
  intro text mem
  rcases mem_emptyToNull_getD mem with ⟨isGiven, notEmpty⟩ | ⟨_, kept⟩
  · rcases Option.map_eq_some_iff.mp isGiven with ⟨sent, isSent, rfl⟩
    exact ⟨notEmpty, fits sent isSent⟩
  · exact held text kept

/-- A request that passes its checks leaves a valid profile valid. -/
theorem updated_valid {textLength : TextLength} {user : User} {body : UpdateProfileBody}
    (valid : user.Valid) (checked : body.errors textLength = [])
    (allowed : ∀ text ∈ body.trimmed.companyName, user.role = .company ∧ text.toList ≠ []) :
    (updated body.trimmed body.trimmed.companyName user).Valid := by
  rcases UpdateProfileBody.errors_eq_nil.mp checked with
    ⟨firstName, lastName, phone, city, country, companyName⟩
  rcases body with ⟨sentFirst, sentLast, sentPhone, sentCity, sentCountry, sentCompany⟩
  constructor
  · cases sentFirst with
    | none => exact valid.firstName
    | some text => exact (firstName text rfl).1
  · cases sentFirst with
    | none => exact valid.firstNameLength
    | some text => exact (firstName text rfl).2
  · cases sentPhone with
    | none => exact valid.phone
    | some text => exact UpdateProfileDto.isValidPhone_of_phone phone text rfl
  · exact optional_column lastName valid.lastName
  · exact optional_column city valid.city
  · exact optional_column country valid.country
  · cases sentCompany with
    | none => exact valid.companyName
    | some text =>
        rintro written ⟨⟩
        exact ⟨(allowed (trim text) rfl).2, companyName text rfl⟩
  · cases sentCompany with
    | none => exact valid.isCompany
    | some text => exact ⟨fun _ => (allowed (trim text) rfl).1, fun _ => rfl⟩

end UsersService

end MyBuild
