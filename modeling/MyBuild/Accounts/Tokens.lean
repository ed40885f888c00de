import MyBuild.Accounts.Locks
import MyBuild.Common.Guards
import MyBuild.Common.Uuid

/-!
# Tokens

The authentication service signs tokens, and a hook of the application has written two claims
into each: the role of the profile and whether the address of the account is confirmed.  The
server never asks for either again.  It reads who sends a request from the token, and all it
knows of the token is that the signature is right and the time is not up.

Accounts go on changing while their tokens are out.  A run is any order of statements on the
accounts and of tokens signed.
-/

namespace MyBuild

/-- A value of JSON. -/
inductive Claim where
  | null
  | bool (value : Bool)
  | number (value : ℤ)
  | string (value : String)
  | array (items : List Claim)
  | object (fields : List (String × Claim))

/-- A claim that is missing is `undefined`. -/
abbrev JWTPayload := String → Option Claim

structure SignedToken where
  token : String
  payload : JWTPayload

/-- What the service hands to the hook; the subject of the claims is the user. -/
structure TokenEvent where
  userId : Uuid
  claims : JWTPayload
  sub : claims "sub" = some (.string userId.toText)

def Role.claim : Role → Claim
  | .client => .string "CLIENT"
  | .company => .string "COMPANY"

def customAccessTokenHook (database : AuthDatabase) (event : TokenEvent) : JWTPayload :=
  let userRole := (database.profiles.find? (·.id == event.userId)).map (·.user.role)
  let emailVerified :=
    (database.users.find? (·.id == event.userId)).map (·.emailConfirmedAt.isSome)
  let claims := Function.update event.claims "email_verified"
    (some (.bool (emailVerified.getD false)))
  match userRole with
  | none => claims
  | some role => Function.update claims "user_role" (some role.claim)

/-- The verification of a token against the keys of the project: what it returns has been signed
for the project, and is not expired at the moment of the call. -/
structure JWTVerify where
  verify : List SignedToken → ℤ → String → Option JWTPayload
  isSigned : ∀ {tokens now token payload}, verify tokens now token = some payload →
    ⟨token, payload⟩ ∈ tokens
  isCurrent : ∀ {tokens now token payload expires}, verify tokens now token = some payload →
    payload "exp" = some (.number expires) → now < expires * 1000

/-- What the server knows of the user of a token. -/
structure TokenUser extends AuthUser where
  email : Option String
  emailVerified : Bool
  isDemo : Bool
  sessionId : Option String
  deriving DecidableEq

structure VerifiedToken where
  user : TokenUser
  expiresAt : Option ℤ
  deriving DecidableEq

/-- The value the database reads; it refuses a text that is none. -/
def Uuid.ofText (text : String) : Uuid :=
  ⟨BitVec.ofNat 128 (readHex (text.toList.filter (· != '-')))⟩

namespace SupabaseJwtService

def readText : Option Claim → Option String
  | some (.string text) => some text
  | _ => none

def readRole (payload : JWTPayload) : Option Role :=
  match payload "user_role" with
  | some (.string text) =>
      if text = "CLIENT" then some .client
      else if text = "COMPANY" then some .company
      else none
  | _ => none

/-- A token without the claim counts as verified: the hook is off then, and the role is missing
too. -/
def readEmailVerified (payload : JWTPayload) : Bool :=
  match payload "email_verified" with
  | some (.bool false) => false
  | _ => true

def readIsDemo (payload : JWTPayload) : Bool :=
  match payload "app_metadata" with
  | some (.object fields) =>
      match fields.lookup "demo" with
      | some (.bool true) => true
      | _ => false
  | _ => false

def readUser (id : String) (payload : JWTPayload) : TokenUser :=
  { id := Uuid.ofText id
    role := readRole payload
    email := readText (payload "email")
    emailVerified := readEmailVerified payload
    isDemo := readIsDemo payload
    sessionId := readText (payload "session_id") }

def readExpiresAt (payload : JWTPayload) : Option ℤ :=
  match payload "exp" with
  | some (.number expires) => some (expires * 1000)
  | _ => none

/-- The message of an `InvalidTokenError` stands for it. -/
def verifyToken (jwt : JWTVerify) (tokens : List SignedToken) (now : ℤ) (token : String) :
    Except String VerifiedToken :=
  match jwt.verify tokens now token with
  | none => .error "Токен недействителен или истёк"
  | some payload =>
      match readText (payload "sub") with
      | none => .error "В токене нет идентификатора пользователя"
      | some id =>
          if id.toList.isEmpty then .error "В токене нет идентификатора пользователя"
          else .ok { user := readUser id payload, expiresAt := readExpiresAt payload }

end SupabaseJwtService

/-- `Authorization: Bearer <token>`; the scheme is read in either case. -/
def extractBearerToken (header : Option String) : Option String :=
  match (header.getD "").toList.splitOn ' ' with
  | [scheme, value] =>
      if scheme.map Char.toLower = "bearer".toList ∧ value ≠ [] then some (String.ofList value)
      else none
  | _ => none

inductive AuthError where
  | unauthorized (message : String)
  | forbidden (message : String)
  deriving DecidableEq

namespace SupabaseAuthGuard

def emailNotVerified : String := "Подтвердите email: ссылка отправлена на вашу почту"

/-- The user the guard leaves in the request.  Messages of a socket and public routes pass
without one. -/
def canActivate (jwt : JWTVerify) (tokens : List SignedToken) (now : ℤ) (isSocket isPublic : Bool)
    (authorization : Option String) : Except AuthError (Option TokenUser) :=
  if isSocket then .ok none
  else if isPublic then .ok none
  else
    match extractBearerToken authorization with
    | none => .error (.unauthorized "Требуется авторизация")
    | some token =>
        match SupabaseJwtService.verifyToken jwt tokens now token with
        | .error message => .error (.unauthorized message)
        | .ok verified =>
            if verified.user.emailVerified then .ok (some verified.user)
            else .error (.forbidden emailNotVerified)

end SupabaseAuthGuard

/-- The accounts, and every token signed so far. -/
structure TokenState where
  database : AuthDatabase
  tokens : List SignedToken

inductive TokenLabel where
  | statement (statement : AuthDatabase.Statement)
  | sign (token : String) (event : TokenEvent)

namespace TokenState

def initial : TokenState := { database := AuthDatabase.empty, tokens := [] }

def step (services : Services) (state : TokenState) : TokenLabel → TokenState
  | .statement statement =>
      { state with database := AuthDatabase.step services state.database statement }
  | .sign token event =>
      { state with
        tokens := state.tokens ++ [⟨token, customAccessTokenHook state.database event⟩] }

def after (services : Services) (labels : List TokenLabel) : TokenState :=
  Runs.run (step services) initial labels

end TokenState

def TokenLabel.statement? : TokenLabel → Option AuthDatabase.Statement
  | .statement executed => some executed
  | .sign _ _ => none

theorem Uuid.ofText_toText (id : Uuid) : Uuid.ofText id.toText = id :=
  UuidText.value_ofUuid id

namespace TokenState

variable {services : Services} {state : TokenState} {labels : List TokenLabel}
  {database : AuthDatabase} {event : TokenEvent} {signed : SignedToken}

theorem run_database :
    (Runs.run (step services) state labels).database =
      Runs.run (AuthDatabase.step services) state.database
        (labels.filterMap TokenLabel.statement?) := by
  induction labels generalizing state with
  | nil => rfl
  | cons label labels ih =>
      cases label with
      | statement executed => exact ih
      | sign token event => exact ih

theorem after_mirrored : Mirrored services (after services labels).database := by
  rw [after, run_database]
  exact AuthDatabase.run_mirrored services _

/-- Every token comes from a label of the run. -/
theorem mem_tokens (mem : signed ∈ (Runs.run (step services) state labels).tokens) :
    signed ∈ state.tokens ∨ ∃ earlier token event later,
      labels = earlier ++ .sign token event :: later ∧
        signed = ⟨token, customAccessTokenHook
          (Runs.run (step services) state earlier).database event⟩ := by
  induction labels generalizing state with
  | nil => exact Or.inl mem
  | cons label labels ih =>
      rcases ih mem with known | ⟨earlier, token, event, later, rfl, isSigned⟩
      · cases label with
        | statement executed => exact Or.inl known
        | sign token event =>
            rcases List.mem_append.mp known with old | new
            · exact Or.inl old
            · exact Or.inr ⟨[], token, event, labels, rfl, List.mem_singleton.mp new⟩
      · exact Or.inr ⟨label :: earlier, token, event, later, rfl, isSigned⟩

theorem signed_of_mem (mem : signed ∈ (after services labels).tokens) :
    ∃ earlier token event later, labels = earlier ++ .sign token event :: later ∧
      signed = ⟨token, customAccessTokenHook (after services earlier).database event⟩ := by
  rcases mem_tokens mem with known | found
  · cases known
  · exact found

theorem hook_of_ne_role {key : String} (notRole : key ≠ "user_role") :
    customAccessTokenHook database event key =
      Function.update event.claims "email_verified" (some (.bool
        (((database.users.find? (·.id == event.userId)).map (·.emailConfirmedAt.isSome)).getD
          false))) key := by
  simp only [customAccessTokenHook]
  cases (database.profiles.find? (·.id == event.userId)).map (·.user.role) with
  | none => rfl
  | some role => exact Function.update_of_ne notRole _ _

/-- The hook leaves the subject and the end of the token alone. -/
theorem hook_apply {key : String} (notRole : key ≠ "user_role")
    (notVerified : key ≠ "email_verified") :
    customAccessTokenHook database event key = event.claims key := by
  rw [hook_of_ne_role notRole, Function.update_of_ne notVerified]

theorem isSome_find?_iff (mirrored : Mirrored services database) :
    ((database.users.find? (·.id == event.userId)).map (·.emailConfirmedAt.isSome)).getD false =
        true ↔
      ∃ account ∈ database.users, account.id = event.userId ∧ account.emailConfirmedAt ≠ none := by
  constructor
  · intro confirmed
    cases found : database.users.find? (·.id == event.userId) with
    | none => simp [found] at confirmed
    | some account =>
        refine ⟨account, List.mem_of_find?_eq_some found, by simpa using List.find?_some found, ?_⟩
        simpa [found, Option.isSome_iff_ne_none] using confirmed
  · rintro ⟨account, mem, isId, confirmed⟩
    rw [← isId, Rows.find?_eq_some_of_mem mirrored.unique mem]
    simpa [Option.isSome_iff_ne_none] using confirmed

/-- A token says verified exactly for an account that is there and is confirmed. -/
theorem readEmailVerified_hook (mirrored : Mirrored services database) :
    SupabaseJwtService.readEmailVerified (customAccessTokenHook database event) = true ↔
      ∃ account ∈ database.users, account.id = event.userId ∧
        account.emailConfirmedAt ≠ none := by
  have claim := @hook_of_ne_role database event "email_verified" (by decide)
  rw [Function.update_self] at claim
  rw [← isSome_find?_iff mirrored]
  cases confirmed : ((database.users.find? (·.id == event.userId)).map
      (·.emailConfirmedAt.isSome)).getD false with
  | false =>
      rw [confirmed] at claim
      simp [SupabaseJwtService.readEmailVerified, claim]
  | true =>
      rw [confirmed] at claim
      simp [SupabaseJwtService.readEmailVerified, claim]

/-- The account of a token has its profile, whose role the token carries. -/
theorem readRole_hook (mirrored : Mirrored services database)
    (present : ∃ account ∈ database.users, account.id = event.userId) :
    ∃ profile ∈ database.profiles, profile.id = event.userId ∧
      SupabaseJwtService.readRole (customAccessTokenHook database event) =
        some profile.user.role := by
  rcases present with ⟨account, mem, isId⟩
  rcases mirrored.profile_of_account mem with ⟨profile, isProfile, same, -⟩
  have found := Rows.find?_eq_some_of_mem mirrored.uniqueProfiles isProfile
  rw [same.trans isId] at found
  refine ⟨profile, isProfile, same.trans isId, ?_⟩
  cases isRole : profile.user.role <;>
    simp [SupabaseJwtService.readRole, customAccessTokenHook, found, isRole, Role.claim]

end TokenState

namespace SupabaseJwtService

variable {jwt : JWTVerify} {tokens : List SignedToken} {now : ℤ} {token : String}
  {verified : VerifiedToken}

theorem verifyToken_eq_ok :
    verifyToken jwt tokens now token = .ok verified ↔
      ∃ payload id, jwt.verify tokens now token = some payload ∧
        payload "sub" = some (.string id) ∧ id ≠ "" ∧
          { user := readUser id payload, expiresAt := readExpiresAt payload } = verified := by
  simp only [verifyToken]
  cases jwt.verify tokens now token with
  | none => simp
  | some payload =>
      cases isSub : payload "sub" with
      | none => simp [readText, isSub]
      | some claim =>
          cases claim with
          | string id =>
              by_cases blank : id = "" <;> simp [readText, isSub, blank]
          | _ => simp [readText, isSub]

theorem readExpiresAt_eq_some {payload : JWTPayload} {expiresAt : ℤ} :
    readExpiresAt payload = some expiresAt ↔
      ∃ expires, payload "exp" = some (.number expires) ∧ expiresAt = expires * 1000 := by
  rw [readExpiresAt.eq_def]
  split
  case h_1 expires isClaim => simp [isClaim, eq_comm]
  case h_2 other =>
    constructor
    · rintro ⟨⟩
    · rintro ⟨expires, isClaim, -⟩
      exact absurd isClaim (other expires)

end SupabaseJwtService

theorem SupabaseAuthGuard.canActivate_eq_ok {jwt : JWTVerify} {tokens : List SignedToken} {now : ℤ}
    {authorization : Option String} {user : TokenUser} :
    canActivate jwt tokens now false false authorization = .ok (some user) ↔
      ∃ token verified, extractBearerToken authorization = some token ∧
        SupabaseJwtService.verifyToken jwt tokens now token = .ok verified ∧
          verified.user.emailVerified = true ∧ verified.user = user := by
  simp only [canActivate, Bool.false_eq_true, if_false]
  cases extractBearerToken authorization with
  | none => simp
  | some token =>
      cases returned : SupabaseJwtService.verifyToken jwt tokens now token with
      | error message => simp [returned]
      | ok verified => by_cases isVerified : verified.user.emailVerified = true <;>
          simp [returned, isVerified]

namespace TokenState

variable {services : Services} {jwt : JWTVerify} {labels : List TokenLabel} {now : ℤ}
  {token : String} {payload : JWTPayload} {verified : VerifiedToken}

/-- The token was signed for the account of its user, between `earlier` and `later`. -/
structure SignedFor (services : Services) (labels : List TokenLabel) (token : String)
    (verified : VerifiedToken) (earlier : List TokenLabel) (event : TokenEvent)
    (later : List TokenLabel) : Prop where
  labels : labels = earlier ++ .sign token event :: later
  userId : event.userId = verified.user.id
  emailVerified : verified.user.emailVerified = true ↔
    ∃ account ∈ (after services earlier).database.users,
      account.id = verified.user.id ∧ account.emailConfirmedAt ≠ none
  role : verified.user.emailVerified = true →
    ∃ profile ∈ (after services earlier).database.profiles,
      profile.id = verified.user.id ∧ verified.user.role = some profile.user.role
  expiresAt : verified.expiresAt = SupabaseJwtService.readExpiresAt event.claims

theorem signedFor_of_verified
    (returned : SupabaseJwtService.verifyToken jwt (after services labels).tokens now token =
      .ok verified) :
    (∃ earlier event later, SignedFor services labels token verified earlier event later) ∧
      ∀ expiresAt ∈ verified.expiresAt, now < expiresAt := by
  rcases SupabaseJwtService.verifyToken_eq_ok.mp returned with ⟨payload, id, isPayload, sub, -, rfl⟩
  constructor
  · rcases signed_of_mem (jwt.isSigned isPayload) with ⟨earlier, sent, event, later, rfl, isSigned⟩
    rcases SignedToken.mk.inj isSigned with ⟨rfl, rfl⟩
    have mirrored := @after_mirrored services earlier
    rw [hook_apply (by decide) (by decide), event.sub] at sub
    have isUser : event.userId = Uuid.ofText id := by
      rw [← Uuid.ofText_toText event.userId]
      exact congrArg Uuid.ofText (Claim.string.inj (Option.some.inj sub))
    have isVerified := @readEmailVerified_hook services _ event mirrored
    rw [isUser] at isVerified
    refine ⟨earlier, event, later, rfl, isUser, isVerified, ?_, ?_⟩
    · intro verified
      rcases isVerified.mp verified with ⟨account, mem, isId, -⟩
      rcases readRole_hook mirrored ⟨account, mem, isId.trans isUser.symm⟩ with
        ⟨profile, isProfile, sameId, isRole⟩
      exact ⟨profile, isProfile, sameId.trans isUser, isRole⟩
    · have same := @hook_apply (after services earlier).database event "exp" (by decide) (by decide)
      simp only [SupabaseJwtService.readExpiresAt, same]
  · intro expiresAt isExpires
    rcases SupabaseJwtService.readExpiresAt_eq_some.mp isExpires with ⟨expires, isClaim, rfl⟩
    exact jwt.isCurrent isPayload isClaim

theorem SignedFor.append {accounts : List TokenLabel} {earlier later : List TokenLabel}
    {event : TokenEvent} (signed : SignedFor services accounts token verified earlier event later)
    (more : List TokenLabel) :
    SignedFor services (accounts ++ more) token verified earlier event (later ++ more) where
  labels := by simp [signed.labels]
  userId := signed.userId
  emailVerified := signed.emailVerified
  role := signed.role
  expiresAt := signed.expiresAt

/-- Unless the account was deleted since, the role in a token is the role of its profile. -/
theorem SignedFor.role_iff {earlier later : List TokenLabel} {event : TokenEvent}
    (signed : SignedFor services labels token verified earlier event later)
    (isVerified : verified.user.emailVerified = true)
    (kept : ∀ moment, .statement (.deleteUser moment verified.user.id) ∉ later) (role : Role) :
    verified.user.role = some role ↔ ∃ profile ∈ (after services labels).database.profiles,
      profile.id = verified.user.id ∧ profile.user.role = role := by
  rcases signed.labels with rfl
  rcases signed.role isVerified with ⟨profile, isProfile, profileId, isRole⟩
  have notDeleted : ∀ moment, .deleteUser moment profile.id ∉
      later.filterMap TokenLabel.statement? := by
    intro moment deleted
    rw [profileId] at deleted
    rcases List.mem_filterMap.mp deleted with ⟨label, mem, isStatement⟩
    cases label with
    | statement executed => exact kept moment (Option.some.inj isStatement ▸ mem)
    | sign token event => cases isStatement
  have isAfter : (after services (earlier ++ .sign token event :: later)).database =
      Runs.run (AuthDatabase.step services) (after services earlier).database
        (later.filterMap TokenLabel.statement?) := by
    rw [after, Runs.run_append, Runs.run_cons, run_database]
    rfl
  have lastMirrored := @after_mirrored services (earlier ++ .sign token event :: later)
  rw [isAfter] at lastMirrored ⊢
  rcases AuthDatabase.role_kept after_mirrored isProfile notDeleted with
    ⟨last, isLast, sameId, sameRole⟩
  have unique := lastMirrored.uniqueProfiles
  rw [isRole, Option.some.injEq]
  constructor
  · rintro rfl
    exact ⟨last, isLast, sameId.trans profileId, sameRole⟩
  · rintro ⟨other, isOther, otherId, rfl⟩
    have same := Rows.eq_of_key unique isOther isLast
      (otherId.trans (sameId.trans profileId).symm)
    rw [same, sameRole]

theorem rolesGuard_iff {role : Role} {user : AuthUser} {tables : OrderTables} :
    (RolesGuard.canActivate role user).run tables = .ok ((), tables) ↔ user.role = some role := by
  constructor
  · intro permitted
    by_contra lacks
    rcases @run_rolesGuard_error tables user role lacks with ⟨error, refused, -⟩
    rw [permitted] at refused
    cases refused
  · exact run_rolesGuard

/-- What the guards make of a token, against the accounts.  That token was signed for the account
of its user and is not expired; it opens the server exactly if the address was confirmed when it
was signed, and then, unless the account was deleted since, it opens the routes of a role exactly
if the profile has that role at the moment of the request. -/
theorem guards_match_account (services : Services) (jwt : JWTVerify) (labels : List TokenLabel)
    (now : ℤ) (authorization : Option String) (token : String) (verified : VerifiedToken)
    (bearer : extractBearerToken authorization = some token)
    (returned : SupabaseJwtService.verifyToken jwt (after services labels).tokens now token =
      .ok verified) :
    let admitted := SupabaseAuthGuard.canActivate jwt (after services labels).tokens now false false
      authorization = .ok (some verified.user)
    (∀ expiresAt ∈ verified.expiresAt, now < expiresAt) ∧
      ∃ earlier event later, labels = earlier ++ .sign token event :: later ∧
        event.userId = verified.user.id ∧
          (admitted ↔ ∃ account ∈ (after services earlier).database.users,
            account.id = verified.user.id ∧ account.emailConfirmedAt ≠ none) ∧
          (admitted → (∀ moment, .statement (.deleteUser moment verified.user.id) ∉ later) →
            ∀ role tables, (RolesGuard.canActivate role verified.user.toAuthUser).run tables =
                .ok ((), tables) ↔
              ∃ profile ∈ (after services labels).database.profiles,
                profile.id = verified.user.id ∧ profile.user.role = role) := by
  intro admitted
  rcases signedFor_of_verified returned with ⟨⟨earlier, event, later, signed⟩, unexpired⟩
  have admitted_iff : admitted ↔ verified.user.emailVerified = true := by
    constructor
    · intro holds
      rcases SupabaseAuthGuard.canActivate_eq_ok.mp holds with
        ⟨_, other, isToken, isOther, isVerified, same⟩
      exact same ▸ isVerified
    · intro isVerified
      exact SupabaseAuthGuard.canActivate_eq_ok.mpr
        ⟨token, verified, bearer, returned, isVerified, rfl⟩
  refine ⟨unexpired, earlier, event, later, signed.labels, signed.userId, ?_, ?_⟩
  · exact admitted_iff.trans signed.emailVerified
  · intro holds kept role tables
    exact rolesGuard_iff.trans (signed.role_iff (admitted_iff.mp holds) kept role)

/-- Tokens as they are, with no signature to check. -/
def exampleVerify : JWTVerify where
  verify tokens now token :=
    (tokens.find? (·.token == token)).bind fun signed =>
      match signed.payload "exp" with
      | some (.number expires) => if now < expires * 1000 then some signed.payload else none
      | _ => none
  isSigned := by
    intro tokens now token payload verified
    rcases Option.bind_eq_some_iff.mp verified with ⟨signed, found, isPayload⟩
    have isToken : signed.token = token := by simpa using List.find?_some found
    have mem := List.mem_of_find?_eq_some found
    split at isPayload
    case h_1 =>
      split at isPayload
      case isTrue =>
        cases isPayload
        exact isToken ▸ mem
      case isFalse => cases isPayload
    case h_2 => cases isPayload
  isCurrent := by
    intro tokens now token payload expires verified isExpires
    rcases Option.bind_eq_some_iff.mp verified with ⟨signed, found, isPayload⟩
    split at isPayload
    case h_1 ends isEnds =>
      split at isPayload
      case isTrue current =>
        cases isPayload
        rw [isEnds] at isExpires
        cases isExpires
        exact current
      case isFalse => cases isPayload
    case h_2 => cases isPayload

def exampleEvent : TokenEvent where
  userId := ⟨1⟩
  claims key :=
    if key = "sub" then some (.string (Uuid.toText ⟨1⟩))
    else if key = "exp" then some (.number 3600)
    else none
  sub := rfl

def exampleLabels : List TokenLabel :=
  [.statement (.insertUser 0 AuthDatabase.exampleDemo), .sign "token" exampleEvent]

theorem verify_example :
    ∃ verified, SupabaseJwtService.verifyToken exampleVerify
        (after AuthDatabase.exampleServices exampleLabels).tokens 0 "token" = .ok verified ∧
      verified.user.emailVerified = true := by
  let database := (after AuthDatabase.exampleServices (exampleLabels.take 1)).database
  let signed : SignedToken := ⟨"token", customAccessTokenHook database exampleEvent⟩
  have isTokens : (after AuthDatabase.exampleServices exampleLabels).tokens = [signed] := rfl
  have expires : signed.payload "exp" = some (.number 3600) :=
    (@hook_apply database exampleEvent "exp" (by decide) (by decide)).trans rfl
  have sub : signed.payload "sub" = some (.string (Uuid.toText ⟨1⟩)) :=
    (@hook_apply database exampleEvent "sub" (by decide) (by decide)).trans rfl
  have account := List.mem_of_find?_eq_some AuthDatabase.exampleDemo_account
  have isVerified := (@readEmailVerified_hook AuthDatabase.exampleServices database exampleEvent
    (@after_mirrored _ (exampleLabels.take 1))).mpr
      ⟨AuthDatabase.exampleDemo, account, rfl, by simp [AuthDatabase.exampleDemo]⟩
  refine ⟨_, SupabaseJwtService.verifyToken_eq_ok.mpr ⟨signed.payload, _, ?_, sub, ?_, rfl⟩,
    isVerified⟩
  · have current : (0 : ℤ) < 3600 * 1000 := by decide
    have found : [signed].find? (·.token == "token") = some signed := rfl
    simp only [exampleVerify, isTokens, found, Option.bind_some, expires, if_pos current]
  · decide +kernel

theorem guards_match_account_example :
    ∃ verified earlier event later,
      SupabaseJwtService.verifyToken exampleVerify
          (after AuthDatabase.exampleServices exampleLabels).tokens 0 "token" = .ok verified ∧
        exampleLabels = earlier ++ .sign "token" event :: later ∧
        event.userId = verified.user.id := by
  rcases verify_example with ⟨verified, returned, -⟩
  have bearer : extractBearerToken (some "Bearer token") = some "token" := by decide +kernel
  rcases guards_match_account AuthDatabase.exampleServices exampleVerify exampleLabels 0
    (some "Bearer token") "token" verified bearer returned with
      ⟨-, earlier, event, later, labels, userId, -⟩
  exact ⟨verified, earlier, event, later, returned, labels, userId⟩

end TokenState

end MyBuild
