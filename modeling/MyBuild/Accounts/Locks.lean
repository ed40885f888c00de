import MyBuild.Accounts.Mirror

/-!
# The lock on a shared demo account

A trigger judges one statement; here is what follows for any number of them.  What a statement
may do to an account is said once.  A shared demo account keeps its password and its address
whatever its visitors write, and of its sessions a statement ends one at most.
-/

namespace MyBuild

namespace AuthDatabase

open Triggers

variable {services : Services} {database next : AuthDatabase} {id : Uuid} {old new : AuthUserRow}
  {statement : Statement} {statements : List Statement}

def account (id : Uuid) (database : AuthDatabase) : Option AuthUserRow :=
  database.users.find? (·.id == id)

theorem updateUser_rows {now : Timestamp} {write : AuthUserRow → AuthUserRow}
    (executed : updateUser services now id write database = .ok next) :
    next = database ∨ ∃ old new, database.account id = some old ∧
      beforeUpdate now old (write old) = .ok new ∧ new.id = id ∧
        next.users = Rows.updateWhere (·.id = id) (fun _ => new) database.users ∧
          next.sessions = database.sessions := by
  rw [updateUser] at executed
  cases found : database.users.find? (·.id == id) with
  | none =>
      simp only [found, Except.ok.injEq] at executed
      exact Or.inl executed.symm
  | some old =>
      have isId : old.id = id := by simpa using List.find?_some found
      simp only [found] at executed
      rcases Except.bind_eq_ok.mp executed with ⟨new, allowed, written⟩
      right
      refine ⟨old, new, found, allowed, ?_⟩
      split at written
      case isTrue => cases written
      case isFalse kept =>
        rw [not_ne_iff] at kept
        split at written <;> rcases Except.bind_eq_ok.mp written with ⟨profiles, _, returned⟩ <;>
          rw [← Except.ok.inj returned] <;> exact ⟨kept.trans isId, rfl, rfl⟩

/-- What one statement does to accounts and sessions. -/
inductive RowsStep (database next : AuthDatabase) : Statement → Prop where
  | kept (statement : Statement) (users : next.users = database.users)
      (sessions : next.sessions = database.sessions) : RowsStep database next statement
  | inserted (now : Timestamp) (row : AuthUserRow) (users : next.users = database.users ++ [row])
      (sessions : next.sessions = database.sessions) :
      RowsStep database next (.insertUser now row)
  | updated (now : Timestamp) (id : Uuid) (write : AuthUserRow → AuthUserRow)
      (old new : AuthUserRow) (found : database.account id = some old)
      (allowed : beforeUpdate now old (write old) = .ok new) (isId : new.id = id)
      (users : next.users = Rows.updateWhere (·.id = id) (fun _ => new) database.users)
      (sessions : next.sessions = database.sessions) :
      RowsStep database next (.updateUser now id write)
  | deleted (now : Timestamp) (id : Uuid)
      (users : next.users = database.users.filter (·.id != id))
      (sessions : next.sessions = database.sessions.filter (·.userId != id)) :
      RowsStep database next (.deleteUser now id)
  | signedIn (session : SessionRow) (users : next.users = database.users)
      (sessions : next.sessions = database.sessions ++ [session]) :
      RowsStep database next (.insertSession session)
  | signedOut (now : Timestamp) (chosen : SessionRow → Bool)
      (allowed : preventDemoMassLogout now database.users (database.sessions.filter chosen) =
        .ok ())
      (users : next.users = database.users)
      (sessions : next.sessions = database.sessions.filter (!chosen ·)) :
      RowsStep database next (.deleteSessions now chosen)

theorem rowsStep (statement : Statement) :
    RowsStep database (step services database statement) statement := by
  simp only [step]
  split
  case h_2 => exact .kept statement rfl rfl
  case h_1 next executed =>
    cases statement with
    | insertUser now row =>
        simp only [insertUser] at executed
        split at executed
        case isTrue => cases executed
        case isFalse =>
          rcases Except.bind_eq_ok.mp executed with ⟨profiles, _, returned⟩
          rw [← Except.ok.inj returned]
          exact .inserted now row rfl rfl
    | updateUser now id write =>
        rcases updateUser_rows executed with
          rfl | ⟨old, new, found, allowed, isId, users, sessions⟩
        · exact .kept _ rfl rfl
        · exact .updated now id write old new found allowed isId users sessions
    | deleteUser now id =>
        rcases Except.bind_eq_ok.mp executed with ⟨_, _, returned⟩
        rw [← Except.ok.inj returned]
        exact .deleted now id rfl rfl
    | insertSession session =>
        rw [← Except.ok.inj executed]
        exact .signedIn session rfl rfl
    | deleteSessions now chosen =>
        rcases Except.bind_eq_ok.mp executed with ⟨_, allowed, returned⟩
        rw [← Except.ok.inj returned]
        exact .signedOut now chosen allowed rfl rfl
    | patchProfile now userId body =>
        simp only at executed
        split at executed <;> rw [← Except.ok.inj executed] <;> exact .kept _ rfl rfl

/-- What one statement does to an account. -/
inductive AccountStep (id : Uuid) (old : AuthUserRow) : Statement → Option AuthUserRow → Prop where
  | kept (statement : Statement) : AccountStep id old statement (some old)
  | updated (now : Timestamp) (write : AuthUserRow → AuthUserRow) (new : AuthUserRow)
      (allowed : beforeUpdate now old (write old) = .ok new) :
      AccountStep id old (.updateUser now id write) (some new)
  | deleted (now : Timestamp) : AccountStep id old (.deleteUser now id) none

theorem accountStep (found : database.account id = some old) (statement : Statement) :
    AccountStep id old statement ((step services database statement).account id) := by
  cases @rowsStep services database statement with
  | kept _ users _ | signedIn _ users _ | signedOut _ _ _ users _ =>
      rw [account, users, ← account, found]
      exact .kept _
  | inserted now row users _ =>
      rw [account] at found
      rw [account, users, List.find?_append, found]
      exact .kept _
  | updated now other write before new isBefore allowed isNew users _ =>
      by_cases isId : other = id
      · subst isId
        have isOld : old = before := Option.some.inj (found.symm.trans isBefore)
        subst isOld
        rw [account, users, Rows.find?_updateWhere_key isBefore isNew]
        exact .updated now write new allowed
      · rw [account, users, Rows.find?_updateWhere_of_ne (Ne.symm isId) isNew, ← account, found]
        exact .kept _
  | deleted now other users _ =>
      rw [account, users, Rows.find?_filter_key]
      split
      case isTrue isId =>
        subst isId
        exact .deleted now
      case isFalse isOther =>
        rw [← account, found]
        exact .kept _

/-- A condition on the statements under which an account is never deleted and what its updates
write keeps a property of the row. -/
structure Keeps (id : Uuid) (Holds : AuthUserRow → Prop)
    (Condition : AuthDatabase → Statement → Prop) : Prop where
  notDeleted : ∀ database now, ¬Condition database (.deleteUser now id)
  updated : ∀ database now write old new, Condition database (.updateUser now id write) →
    database.account id = some old → Holds old →
      beforeUpdate now old (write old) = .ok new → Holds new

theorem account_kept {Holds : AuthUserRow → Prop} {Condition : AuthDatabase → Statement → Prop}
    (keeps : Keeps id Holds Condition) (found : database.account id = some old) (holds : Holds old)
    (along : Runs.Along (step services) Condition database statements) :
    ∃ row, (Runs.run (step services) database statements).account id = some row ∧ Holds row := by
  have preserved := @Runs.Along.invariant _ _ (step services) Condition
    (fun database => ∃ row, database.account id = some row ∧ Holds row)
  apply preserved _ along ⟨old, found, holds⟩
  rintro database statement allowed ⟨row, isRow, holdsRow⟩
  have stepped := @accountStep services database id row isRow statement
  cases stepped' : (step services database statement).account id with
  | none =>
      rw [stepped'] at stepped
      cases stepped with
      | deleted now => exact absurd allowed (keeps.notDeleted database now)
  | some after =>
      rw [stepped'] at stepped
      refine ⟨after, rfl, ?_⟩
      cases stepped with
      | kept => exact holdsRow
      | updated now write new written =>
          exact keeps.updated database now write row after allowed isRow holdsRow written

theorem beforeUpdate_eq_ok {now : Timestamp} {written : AuthUserRow}
    (allowed : beforeUpdate now old written = .ok new) :
    preventDemoAccountTakeover old written = .ok written ∧
      requireRecentSignInForPasswordChange now old written = .ok written ∧
        new = resetPasswordOnSignupConfirmation old written := by
  have locked : ∀ row, preventDemoAccountTakeover old written = .ok row → row = written := by
    intro row passed
    rw [preventDemoAccountTakeover] at passed
    split at passed
    case isTrue => cases passed
    case isFalse => exact (Except.ok.inj passed).symm
  have recent : ∀ row, requireRecentSignInForPasswordChange now old written = .ok row →
      row = written := by
    intro row passed
    rw [requireRecentSignInForPasswordChange] at passed
    split at passed
    case isTrue => cases passed
    case isFalse => exact (Except.ok.inj passed).symm
  rw [beforeUpdate] at allowed
  rcases Except.bind_eq_ok.mp allowed with ⟨first, isFirst, rest⟩
  have same := locked first isFirst
  subst same
  rcases Except.bind_eq_ok.mp rest with ⟨second, isSecond, reset⟩
  have same := recent second isSecond
  subst same
  exact ⟨isFirst, isSecond, (Except.ok.inj reset).symm⟩

/-- The account is not deleted, and no update of it takes the property away. -/
def Spares (id : Uuid) (Holds : AuthUserRow → Prop) (database : AuthDatabase) : Statement → Prop
  | .deleteUser _ other => other ≠ id
  | .updateUser _ other write => other = id → ∀ row, database.account id = some row →
      Holds row → Holds (write row)
  | _ => True

theorem resetPassword_kept {written : AuthUserRow} :
    (resetPasswordOnSignupConfirmation old written).emailConfirmedAt = written.emailConfirmedAt ∧
      (resetPasswordOnSignupConfirmation old written).confirmationSentAt =
        written.confirmationSentAt ∧
      (resetPasswordOnSignupConfirmation old written).isDemo = written.isDemo := by
  rw [resetPasswordOnSignupConfirmation]
  split <;> exact ⟨rfl, rfl, rfl⟩

section DemoAccount

/-- The account is a demo account and stays one. -/
def KeepsMark (id : Uuid) (database : AuthDatabase) (statement : Statement) : Prop :=
  Spares id (fun row => row.isDemo = true) database statement

/-- And it stays confirmed. -/
def KeepsDemo (id : Uuid) (database : AuthDatabase) (statement : Statement) : Prop :=
  KeepsMark id database statement ∧
    Spares id (fun row => row.emailConfirmedAt ≠ none) database statement

theorem keeps_mark : Keeps id (fun row => row.isDemo = true) (KeepsMark id) := by
  constructor
  · intro database now allowed
    exact allowed rfl
  · intro database now write old new condition found isDemo allowed
    rcases beforeUpdate_eq_ok allowed with ⟨_, _, rfl⟩
    exact resetPassword_kept.2.2.trans (condition rfl old found isDemo)

structure SameCredentials (first second : AuthUserRow) : Prop where
  password : second.encryptedPassword = first.encryptedPassword
  email : second.email = first.email
  emailChange : second.emailChange.getD "" = first.emailChange.getD ""

theorem demo_kept {now : Timestamp} {written : AuthUserRow} (isDemo : old.isDemo = true)
    (confirmed : old.emailConfirmedAt ≠ none)
    (allowed : beforeUpdate now old written = .ok new) :
    new = written ∧ SameCredentials old written := by
  rcases beforeUpdate_eq_ok allowed with ⟨locked, _, rfl⟩
  constructor
  · rw [resetPasswordOnSignupConfirmation, if_neg]
    exact fun confirms => confirmed confirms.1
  · rw [preventDemoAccountTakeover] at locked
    split at locked
    case isTrue => cases locked
    case isFalse same =>
      simp only [isDemo, true_and, not_or, not_ne_iff] at same
      exact ⟨same.1, same.2.1, same.2.2⟩

theorem keeps_demo (first : AuthUserRow) :
    Keeps id (fun row => row.isDemo = true ∧ row.emailConfirmedAt ≠ none ∧
      SameCredentials first row) (KeepsDemo id) := by
  constructor
  · intro database now allowed
    exact allowed.1 rfl
  · rintro database now write old new ⟨marked, stays⟩ found ⟨isDemo, confirmed, same⟩ allowed
    refine ⟨keeps_mark.updated database now write old new marked found isDemo allowed, ?_⟩
    rcases demo_kept isDemo confirmed allowed with ⟨rfl, kept⟩
    constructor
    · exact stays rfl old found confirmed
    · exact ⟨kept.password.trans same.password, kept.email.trans same.email,
        kept.emailChange.trans same.emailChange⟩

/-- Whatever visitors write, a demo account keeps its password, its address and the address that
waits to be confirmed, and its profile keeps the address. -/
theorem demo_account_kept (before : List Statement)
    (found : (Runs.run (step services) empty before).account id = some old)
    (isDemo : old.isDemo = true) (confirmed : old.emailConfirmedAt ≠ none)
    (along : Runs.Along (step services) (KeepsDemo id) (Runs.run (step services) empty before)
      statements) :
    ∃ row, (Runs.run (step services) empty (before ++ statements)).account id = some row ∧
      SameCredentials old row ∧
      ∃ profile ∈ (Runs.run (step services) empty (before ++ statements)).profiles,
        profile.id = id ∧ old.email = some profile.user.email := by
  rcases account_kept (keeps_demo old) found ⟨isDemo, confirmed, rfl, rfl, rfl⟩ along with
    ⟨row, isRow, _, _, same⟩
  rw [← Runs.run_append] at isRow
  refine ⟨row, isRow, same, ?_⟩
  have mirrored := run_mirrored services (before ++ statements)
  have mem := List.mem_of_find?_eq_some isRow
  have isId : row.id = id := by simpa using List.find?_some isRow
  rcases mirrored.profile_of_account mem with ⟨profile, isProfile, sameId, mirrors⟩
  exact ⟨profile, isProfile, sameId.trans isId, same.email.symm.trans mirrors.email⟩

theorem insertUser_empty {now : Timestamp} {user : User}
    (created : MyBuild.handleAuthUserUpsert services.upper new.email new.rawUserMetaData =
      .ok user) : (step services empty (.insertUser now new)).users = [new] := by
  simp [step, insertUser, empty, Triggers.handleAuthUserUpsert, created, emailTaken, bind,
    Except.bind]

def exampleServices : Services :=
  { upper := fun text => text, toTimestamp3 := fun _ => .epoch, textLength := .plain }

def exampleDemo : AuthUserRow :=
  { id := ⟨1⟩
    email := some "demo@b.test"
    emailChange := none
    encryptedPassword := some "$2a$10$hash"
    emailConfirmedAt := some 0
    confirmationSentAt := none
    lastSignInAt := some 0
    rawAppMetaData := fun key => if key = "demo" then some "true" else none
    rawUserMetaData := fun key =>
      if key = "role" then some "CLIENT"
      else if key = "firstName" then some "Анна"
      else if key = "phone" then some "+994501001001"
      else none }

theorem exampleDemo_account :
    (Runs.run (step exampleServices) empty [.insertUser 0 exampleDemo]).account ⟨1⟩ =
      some exampleDemo := by
  have isOk : (MyBuild.handleAuthUserUpsert exampleServices.upper exampleDemo.email
      exampleDemo.rawUserMetaData).toBool = true := by decide +kernel
  cases created : MyBuild.handleAuthUserUpsert exampleServices.upper exampleDemo.email
      exampleDemo.rawUserMetaData with
  | error message =>
      rw [created] at isOk
      cases isOk
  | ok user =>
      rw [Runs.run_cons, Runs.run_nil, account, insertUser_empty created]
      rfl

theorem demo_account_kept_example :
    ∃ row, (Runs.run (step exampleServices) empty ([.insertUser 0 exampleDemo] ++
        [.updateUser 1 ⟨1⟩ fun row => { row with encryptedPassword := some "" },
          .updateUser 2 ⟨1⟩ fun row => { row with lastSignInAt := some 2 }])).account ⟨1⟩ =
            some row ∧
      SameCredentials exampleDemo row ∧
      ∃ profile ∈ (Runs.run (step exampleServices) empty ([.insertUser 0 exampleDemo] ++
        [.updateUser 1 ⟨1⟩ fun row => { row with encryptedPassword := some "" },
          .updateUser 2 ⟨1⟩ fun row => { row with lastSignInAt := some 2 }])).profiles,
        profile.id = ⟨1⟩ ∧ exampleDemo.email = some profile.user.email := by
  apply demo_account_kept [.insertUser 0 exampleDemo] exampleDemo_account
  · decide
  · decide
  · exact ⟨⟨fun _ _ _ => id, fun _ _ _ => id⟩, ⟨fun _ _ _ => id, fun _ _ _ => id⟩, trivial⟩

/-- How many sessions of the account are live. -/
def liveSessions (id : Uuid) (moment : Timestamp) (database : AuthDatabase) : ℕ :=
  database.sessions.countP fun session => session.userId == id && session.isLive moment

def Statement.isDeleteSessions : Statement → Bool
  | .deleteSessions _ _ => true
  | _ => false

/-- The statement is executed no later. -/
def Statement.isBy (moment : Timestamp) : Statement → Prop
  | .deleteSessions now _ => now ≤ moment
  | _ => True

theorem isLive_of_le {session : SessionRow} {now moment : Timestamp} (isBy : now ≤ moment)
    (live : session.isLive moment = true) : session.isLive now = true := by
  simp only [SessionRow.isLive, Option.all_eq_true, decide_eq_true_eq] at live ⊢
  intro notAfter isSet
  exact Int.lt_of_le_of_lt isBy (live notAfter isSet)

/-- The trigger lets a statement delete one live session of a demo account at most. -/
theorem removed_le_one {now : Timestamp} {removed : List SessionRow}
    (allowed : preventDemoMassLogout now database.users removed = .ok ())
    (found : database.account id = some old) (isDemo : old.isDemo = true) :
    (removed.countP fun session => session.userId == id && session.isLive now) ≤ 1 := by
  rw [preventDemoMassLogout] at allowed
  split at allowed
  case isTrue => cases allowed
  case isFalse single =>
    have isId : old.id = id := by simpa using List.find?_some found
    simp only [List.any_eq_true, Bool.and_eq_true, decide_eq_true_eq, not_exists, not_and,
      not_lt] at single
    have few := single old (List.mem_of_find?_eq_some found) isDemo
    rw [isId] at few
    exact few

/-- One statement ends one live session of a demo account at most. -/
theorem liveSessions_step {moment : Timestamp} (found : database.account id = some old)
    (isDemo : old.isDemo = true) (notDeleted : ∀ now, statement ≠ .deleteUser now id)
    (isBy : statement.isBy moment) :
    liveSessions id moment database ≤
      liveSessions id moment (step services database statement) +
        if statement.isDeleteSessions then 1 else 0 := by
  cases @rowsStep services database statement with
  | kept _ _ sessions | inserted _ _ _ sessions | updated _ _ _ _ _ _ _ _ _ sessions =>
      rw [liveSessions, liveSessions, sessions]
      exact Nat.le_add_right _ _
  | deleted now other _ sessions =>
      have isOther : id ≠ other := fun same => notDeleted now (same ▸ rfl)
      rw [liveSessions, liveSessions, sessions, List.countP_filter]
      apply Nat.le_trans (Nat.le_of_eq _) (Nat.le_add_right _ _)
      apply List.countP_congr
      intro session mem
      simp only [Bool.and_eq_true, beq_iff_eq, bne_iff_ne]
      constructor
      · rintro ⟨rfl, live⟩
        exact ⟨⟨rfl, live⟩, isOther⟩
      · exact fun kept => kept.1
  | signedIn session _ sessions =>
      rw [liveSessions, liveSessions, sessions, List.countP_append]
      omega
  | signedOut now chosen allowed _ sessions =>
      have single := removed_le_one allowed found isDemo
      have fewer : ((database.sessions.filter chosen).countP fun session =>
          session.userId == id && session.isLive moment) ≤ 1 := by
        refine Nat.le_trans (List.countP_mono_left ?_) single
        intro session _ counted
        rw [Bool.and_eq_true] at counted ⊢
        exact ⟨counted.1, isLive_of_le isBy counted.2⟩
      simp only [liveSessions, Statement.isDeleteSessions, if_true, sessions]
      rw [List.countP_eq_countP_filter_add _ _ chosen]
      omega

/-- However visitors sign each other out: of the sessions with which a demo account could still be
used at a later moment, each that is lost by then has taken a statement of its own. -/
theorem demo_sessions_kept {moment : Timestamp} (found : database.account id = some old)
    (isDemo : old.isDemo = true)
    (along : Runs.Along (step services)
      (fun database statement => KeepsMark id database statement ∧ statement.isBy moment)
      database statements) :
    liveSessions id moment database ≤
      liveSessions id moment (Runs.run (step services) database statements) +
        Runs.count (step services) (fun _ statement => statement.isDeleteSessions) database
          statements := by
  apply @Runs.Along.measure_le _ _ (step services)
    (fun database statement => KeepsMark id database statement ∧ statement.isBy moment)
    (fun database => ∃ row, database.account id = some row ∧ row.isDemo = true)
    (liveSessions id moment) (fun _ statement => statement.isDeleteSessions) _ _ _ _ along
    ⟨old, found, isDemo⟩
  · rintro database statement ⟨allowed, _⟩ ⟨row, isRow, rowDemo⟩
    have single : Runs.Along (step services) (KeepsMark id) database [statement] :=
      ⟨allowed, trivial⟩
    exact account_kept keeps_mark isRow rowDemo single
  · rintro database statement ⟨allowed, isBy⟩ ⟨row, isRow, rowDemo⟩
    apply liveSessions_step isRow rowDemo _ isBy
    rintro now rfl
    exact allowed rfl

/-- The account with two visitors signed in. -/
def exampleShared : AuthDatabase :=
  { Runs.run (step exampleServices) empty [.insertUser 0 exampleDemo] with
    sessions := [⟨⟨2⟩, ⟨1⟩, none⟩, ⟨⟨3⟩, ⟨1⟩, none⟩] }

theorem demo_sessions_kept_example :
    liveSessions ⟨1⟩ 5 exampleShared ≤
      liveSessions ⟨1⟩ 5 (Runs.run (step exampleServices) exampleShared
        [.deleteSessions 4 (·.userId = ⟨1⟩), .deleteSessions 5 (·.id = ⟨2⟩)]) +
      Runs.count (step exampleServices) (fun _ statement => statement.isDeleteSessions)
        exampleShared [.deleteSessions 4 (·.userId = ⟨1⟩), .deleteSessions 5 (·.id = ⟨2⟩)] := by
  have found : exampleShared.account ⟨1⟩ = some exampleDemo := exampleDemo_account
  apply demo_sessions_kept found
  · decide
  · exact ⟨⟨trivial, show (4 : ℤ) ≤ 5 by decide⟩, ⟨trivial, Int.le_refl 5⟩, trivial⟩

end DemoAccount

end AuthDatabase

end MyBuild
