import MyBuild.Library.Runs
import MyBuild.Users.Profile

/-!
# Accounts and the triggers on them

Accounts and sessions belong to the authentication service; the tables of the application hang
on them by triggers.  A new account gets its profile, a changed or confirmed address is copied
into it, and an account that is deleted takes its profile along.  Before an account is updated,
three triggers look at the row: they keep the password and the address of a shared demo account,
ask for a recent sign-in before the password changes, and wipe a password that was set before
the address was confirmed by letter.  A last one refuses a statement that signs out several
sessions of a demo account at once.

A statement is all or nothing: what a trigger or a constraint refuses changes nothing.  The
statements of the service are arbitrary writes here, since any of them may come from a browser.
-/

namespace MyBuild

/-- Microseconds since the epoch, as a `timestamptz` counts them. -/
abbrev Timestamp := ℤ

/-- A row of `auth.users`; metadata is read as text, key by key. -/
structure AuthUserRow where
  id : Uuid
  email : Option String
  emailChange : Option String
  encryptedPassword : Option String
  emailConfirmedAt : Option Timestamp
  confirmationSentAt : Option Timestamp
  lastSignInAt : Option Timestamp
  rawAppMetaData : String → Option String
  rawUserMetaData : String → Option String

/-- A row of `auth.sessions`. -/
structure SessionRow where
  id : Uuid
  userId : Uuid
  notAfter : Option Timestamp
  deriving DecidableEq

structure AuthDatabase where
  users : List AuthUserRow
  profiles : List ProfileRow
  sessions : List SessionRow

/-- What is asked of Postgres, the upper case of a text and a moment as a column `TIMESTAMP(3)`
keeps it, and of the validation library. -/
structure Services where
  upper : String → String
  toTimestamp3 : Timestamp → Date
  textLength : TextLength

inductive DatabaseError where
  | raised (message : String)
  | violates (constraint : String)
  deriving DecidableEq

def AuthUserRow.isDemo (row : AuthUserRow) : Bool :=
  (row.rawAppMetaData "demo").getD "" == "true"

def SessionRow.isLive (now : Timestamp) (session : SessionRow) : Bool :=
  session.notAfter.all (now < ·)

namespace Triggers

def preventDemoAccountTakeover (old new : AuthUserRow) : Except DatabaseError AuthUserRow :=
  if old.isDemo = true ∧
      (new.encryptedPassword ≠ old.encryptedPassword ∨ new.email ≠ old.email ∨
        new.emailChange.getD "" ≠ old.emailChange.getD "") then
    .error (.raised "Пароль и email демо-аккаунта не меняются: им пользуются все посетители")
  else .ok new

/-- Fifteen minutes. -/
def reauthWindow : Timestamp := 15 * 60 * 1000000

/-- The algorithm and the cost of a hash. -/
def hashPrefix (password : Option String) : List Char := (password.getD "").toList.take 7

def requireRecentSignInForPasswordChange (now : Timestamp) (old new : AuthUserRow) :
    Except DatabaseError AuthUserRow :=
  if new.encryptedPassword ≠ old.encryptedPassword ∧
      hashPrefix new.encryptedPassword = hashPrefix old.encryptedPassword ∧
        old.lastSignInAt.all (· < now - reauthWindow) = true then
    .error (.raised "Пароль меняется только сразу после входа: войдите заново и повторите")
  else .ok new

def resetPasswordOnSignupConfirmation (old new : AuthUserRow) : AuthUserRow :=
  if old.emailConfirmedAt = none ∧ new.emailConfirmedAt ≠ none ∧ old.confirmationSentAt ≠ none then
    { new with encryptedPassword := some "" }
  else new

/-- The triggers before an update, in the order of their names. -/
def beforeUpdate (now : Timestamp) (old new : AuthUserRow) : Except DatabaseError AuthUserRow := do
  let new ← preventDemoAccountTakeover old new
  let new ← requireRecentSignInForPasswordChange now old new
  .ok (resetPasswordOnSignupConfirmation old new)

/-- Another profile has the address already. -/
def emailTaken (id : Uuid) (email : String) (profiles : List ProfileRow) : Bool :=
  profiles.any fun row => row.id != id && row.user.email == email

/-- The profile of a new account, or the new address of an old one. -/
def handleAuthUserUpsert (services : Services) (now : Timestamp) (new : AuthUserRow)
    (profiles : List ProfileRow) : Except DatabaseError (List ProfileRow) :=
  match MyBuild.handleAuthUserUpsert services.upper new.email new.rawUserMetaData with
  | .error message => .error (.raised message)
  | .ok user =>
      if emailTaken new.id user.email profiles then .error (.violates "User_email_key")
      else if profiles.any (·.id == new.id) then
        .ok (Rows.updateWhere (·.id = new.id)
          (fun row => { row with
            user := { row.user with email := user.email }
            updatedAt := services.toTimestamp3 now }) profiles)
      else
        .ok (profiles ++
          [{ id := new.id
             user
             emailVerifiedAt := none
             createdAt := services.toTimestamp3 now
             updatedAt := services.toTimestamp3 now }])

/-- `old` is the row before an update; an insert has none. -/
def syncUserEmailVerified (services : Services) (old : Option AuthUserRow) (new : AuthUserRow)
    (profiles : List ProfileRow) : List ProfileRow :=
  if old.any (·.emailConfirmedAt == new.emailConfirmedAt) then profiles
  else
    Rows.updateWhere (·.id = new.id)
      (fun row => { row with
        emailVerifiedAt := new.emailConfirmedAt.map services.toTimestamp3 }) profiles

def preventDemoMassLogout (now : Timestamp) (users : List AuthUserRow)
    (removed : List SessionRow) : Except DatabaseError Unit :=
  if users.any fun user =>
      user.isDemo && 1 < removed.countP fun session =>
        session.userId == user.id && session.isLive now then
    .error (.raised
      "Демо-аккаунт выходит только на своём устройстве: им пользуются все посетители")
  else .ok ()

end Triggers

namespace AuthDatabase

open Triggers

def empty : AuthDatabase := { users := [], profiles := [], sessions := [] }

def insertUser (services : Services) (now : Timestamp) (row : AuthUserRow)
    (database : AuthDatabase) : Except DatabaseError AuthDatabase :=
  if database.users.any (·.id == row.id) then .error (.violates "users_pkey")
  else do
    let profiles ← Triggers.handleAuthUserUpsert services now row database.profiles
    .ok { database with
      users := database.users ++ [row]
      profiles := syncUserEmailVerified services none row profiles }

/-- `write` is what the statement sets.  The identifier cannot change: the profile refers to
it. -/
def updateUser (services : Services) (now : Timestamp) (id : Uuid)
    (write : AuthUserRow → AuthUserRow) (database : AuthDatabase) :
    Except DatabaseError AuthDatabase :=
  match database.users.find? (·.id == id) with
  | none => .ok database
  | some old => do
      let new ← beforeUpdate now old (write old)
      if new.id ≠ old.id then .error (.violates "User_id_fkey")
      else do
        let synced := syncUserEmailVerified services (some old) new database.profiles
        let profiles ←
          if old.email ≠ new.email then Triggers.handleAuthUserUpsert services now new synced
          else .ok synced
        .ok { database with
          users := Rows.updateWhere (·.id = id) (fun _ => new) database.users
          profiles }

/-- The sessions go after the account, so that the trigger on them finds no demo account. -/
def deleteUser (now : Timestamp) (id : Uuid) (database : AuthDatabase) :
    Except DatabaseError AuthDatabase := do
  let users := database.users.filter (·.id != id)
  preventDemoMassLogout now users (database.sessions.filter (·.userId == id))
  .ok
    { users
      profiles := database.profiles.filter (·.id != id)
      sessions := database.sessions.filter (·.userId != id) }

def deleteSessions (now : Timestamp) (chosen : SessionRow → Bool) (database : AuthDatabase) :
    Except DatabaseError AuthDatabase := do
  preventDemoMassLogout now database.users (database.sessions.filter chosen)
  .ok { database with sessions := database.sessions.filter (!chosen ·) }

inductive Statement where
  | insertUser (now : Timestamp) (row : AuthUserRow)
  | updateUser (now : Timestamp) (id : Uuid) (write : AuthUserRow → AuthUserRow)
  | deleteUser (now : Timestamp) (id : Uuid)
  | insertSession (session : SessionRow)
  | deleteSessions (now : Timestamp) (chosen : SessionRow → Bool)
  | patchProfile (now : Date) (userId : Uuid) (body : UpdateProfileBody)

/-- A refused statement leaves the tables as they are. -/
def step (services : Services) (database : AuthDatabase) (statement : Statement) : AuthDatabase :=
  let executed : Except DatabaseError AuthDatabase :=
    match statement with
    | .insertUser now row => insertUser services now row database
    | .updateUser now id write => updateUser services now id write database
    | .deleteUser now id => deleteUser now id database
    | .insertSession session => .ok { database with sessions := database.sessions ++ [session] }
    | .deleteSessions now chosen => deleteSessions now chosen database
    | .patchProfile now userId body =>
        match MyBuild.patchProfile services.textLength now userId body database.profiles with
        | .ok (_, profiles) => .ok { database with profiles }
        | .error _ => .ok database
  match executed with
  | .ok next => next
  | .error _ => database

end AuthDatabase

end MyBuild
