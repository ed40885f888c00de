import MyBuild.Accounts.Locks

/-!
# Who sets the password of an account

Nobody knows who set the password of an account before its address was confirmed.  The trigger
wipes it at the confirmation by letter, so the password of a confirmed account was written when
the account was confirmed already.  Later a session that is merely kept open cannot change the
password: without a new sign-in it stays once the window has closed.
-/

namespace MyBuild

namespace AuthDatabase

open Triggers

variable {services : Services} {database : AuthDatabase} {id : Uuid} {old new row : AuthUserRow}
  {statements : List Statement}

/-- No update takes the note of the letter away. -/
def KeepsNote (id : Uuid) (database : AuthDatabase) : Statement → Prop
  | .updateUser _ other write => other = id → ∀ row, database.account id = some row →
      row.confirmationSentAt ≠ none → (write row).confirmationSentAt ≠ none
  | _ => True

/-- A statement of the run has changed the password to this one when the account was confirmed. -/
def WrittenConfirmed (services : Services) (id : Uuid) (database : AuthDatabase)
    (statements : List Statement) (password : Option String) : Prop :=
  ∃ before now write after row new, statements = before ++ .updateUser now id write :: after ∧
    (Runs.run (step services) database before).account id = some row ∧
      row.emailConfirmedAt ≠ none ∧
        (Runs.run (step services) database (before ++ [.updateUser now id write])).account id =
          some new ∧
            new.encryptedPassword ≠ row.encryptedPassword ∧ new.encryptedPassword = password

theorem WrittenConfirmed.cons {statement : Statement} {password : Option String}
    (written : WrittenConfirmed services id (step services database statement) statements
      password) : WrittenConfirmed services id database (statement :: statements) password := by
  rcases written with ⟨before, now, write, after, row, new, rfl, found, confirmed, isNew, changed⟩
  exact ⟨statement :: before, now, write, after, row, new, rfl, found, confirmed, isNew, changed⟩

/-- A statement of the run has made the account anew when there was none. -/
def MadeAnew (services : Services) (id : Uuid) (database : AuthDatabase)
    (statements : List Statement) : Prop :=
  ∃ before now row after, statements = before ++ .insertUser now row :: after ∧ row.id = id ∧
    (Runs.run (step services) database before).account id = none ∧
      (Runs.run (step services) database (before ++ [.insertUser now row])).account id ≠ none

theorem MadeAnew.cons {statement : Statement}
    (made : MadeAnew services id (step services database statement) statements) :
    MadeAnew services id database (statement :: statements) := by
  rcases made with ⟨before, now, row, after, rfl, isId, missing, isMade⟩
  exact ⟨statement :: before, now, row, after, rfl, isId, missing, isMade⟩

/-- An account that is missing comes only of a statement that makes it. -/
theorem account_step_of_none {statement : Statement} (missing : database.account id = none) :
    (step services database statement).account id = none ∨
      ∃ now row, statement = .insertUser now row ∧ row.id = id := by
  have others : ∀ row ∈ database.users, row.id ≠ id := by
    intro row mem same
    have noOther := List.find?_eq_none.mp missing row mem
    simp [same] at noOther
  have none_of : ∀ next : AuthDatabase, (∀ row ∈ next.users, row.id ≠ id) →
      next.account id = none := by
    intro next distinct
    apply List.find?_eq_none.mpr
    intro row mem
    simpa using distinct row mem
  cases @rowsStep services database statement with
  | kept _ users _ | signedIn _ users _ | signedOut _ _ _ users _ =>
      left
      apply none_of
      rw [users]
      exact others
  | inserted now row users _ =>
      by_cases isId : row.id = id
      · exact Or.inr ⟨now, row, rfl, isId⟩
      · left
        apply none_of
        rw [users]
        intro other mem
        rcases List.mem_append.mp mem with mem | mem
        · exact others other mem
        · rw [List.mem_singleton.mp mem]
          exact isId
  | updated now other write old new found allowed isNew users _ =>
      left
      apply none_of
      rw [users]
      intro row mem
      rcases Rows.mem_updateWhere.mp mem with ⟨before, beforeMem, rfl⟩
      split
      case isTrue chosen =>
        rw [isNew, ← chosen]
        exact others before beforeMem
      case isFalse => exact others before beforeMem
  | deleted now other users _ =>
      left
      apply none_of
      rw [users]
      exact fun row mem => others row (List.mem_of_mem_filter mem)

theorem madeAnew_of_none (missing : database.account id = none)
    (final : (Runs.run (step services) database statements).account id = some row) :
    MadeAnew services id database statements := by
  induction statements generalizing database with
  | nil =>
      rw [Runs.run_nil, missing] at final
      cases final
  | cons statement statements ih =>
      by_cases stillMissing : (step services database statement).account id = none
      · exact (ih stillMissing final).cons
      · rcases @account_step_of_none services database id statement missing with
          isMissing | ⟨now, made, rfl, isId⟩
        · exact absurd isMissing stillMissing
        · exact ⟨[], now, made, statements, rfl, isId, missing, stillMissing⟩

/-- The row after one statement that keeps the note of the letter: the same, wiped by the
confirmation, or written. -/
theorem after_statement {statement : Statement} {after : AuthUserRow}
    (found : database.account id = some old) (sent : old.confirmationSentAt ≠ none)
    (allowed : KeepsNote id database statement)
    (isAfter : (step services database statement).account id = some after) :
    after.confirmationSentAt ≠ none ∧
      (after = old ∨ (old.emailConfirmedAt = none ∧
        (after.emailConfirmedAt ≠ none → after.encryptedPassword = some "")) ∨
        (old.emailConfirmedAt ≠ none ∧ ∃ now write, statement = .updateUser now id write)) := by
  have stepped := @accountStep services database id old found statement
  rw [isAfter] at stepped
  cases stepped with
  | kept => exact ⟨sent, Or.inl rfl⟩
  | updated now write new written =>
      rcases beforeUpdate_eq_ok written with ⟨_, _, rfl⟩
      constructor
      · rw [resetPassword_kept.2.1]
        exact allowed rfl old found sent
      · right
        by_cases unconfirmed : old.emailConfirmedAt = none
        · left
          refine ⟨unconfirmed, fun confirmed => ?_⟩
          rw [resetPassword_kept.1] at confirmed
          rw [resetPasswordOnSignupConfirmation, if_pos ⟨unconfirmed, confirmed, sent⟩]
        · exact Or.inr ⟨unconfirmed, now, write, rfl⟩

theorem password_of_confirmed (found : database.account id = some old)
    (sent : old.confirmationSentAt ≠ none)
    (along : Runs.Along (step services) (KeepsNote id) database statements)
    (final : (Runs.run (step services) database statements).account id = some row)
    (confirmed : row.emailConfirmedAt ≠ none) :
    (row.encryptedPassword = some "" ∨
      WrittenConfirmed services id database statements row.encryptedPassword ∨
        MadeAnew services id database statements) ∨
      (old.emailConfirmedAt ≠ none ∧ row.encryptedPassword = old.encryptedPassword) := by
  induction statements generalizing database old with
  | nil =>
      rw [Runs.run_nil, found, Option.some.injEq] at final
      exact Or.inr ⟨final ▸ confirmed, final ▸ rfl⟩
  | cons statement statements ih =>
      cases isAfter : (step services database statement).account id with
      | none => exact Or.inl (Or.inr (Or.inr (madeAnew_of_none isAfter final).cons))
      | some after =>
          rcases after_statement found sent along.1 isAfter with ⟨stillSent, stepped⟩
          rcases ih isAfter stillSent along.2 final with
            (wiped | written | made) | ⟨isConfirmed, same⟩
          · exact Or.inl (Or.inl wiped)
          · exact Or.inl (Or.inr (Or.inl written.cons))
          · exact Or.inl (Or.inr (Or.inr made.cons))
          · rcases stepped with rfl | ⟨_, wiped⟩ | ⟨wasConfirmed, now, write, rfl⟩
            · exact Or.inr ⟨isConfirmed, same⟩
            · exact Or.inl (Or.inl (same.trans (wiped isConfirmed)))
            · by_cases changed : after.encryptedPassword = old.encryptedPassword
              · exact Or.inr ⟨wasConfirmed, same.trans changed⟩
              · exact Or.inl (Or.inr (Or.inl ⟨[], now, write, statements, old, after, rfl, found,
                  wasConfirmed, isAfter, changed, same.symm⟩))

/-- Whoever set a password before the address was confirmed by letter, and however the run goes
on: where an account is confirmed its password is empty, or it was changed to this one when the
account was confirmed already, or the account itself was made anew. -/
theorem signup_password_not_kept (found : database.account id = some old)
    (unconfirmed : old.emailConfirmedAt = none) (sent : old.confirmationSentAt ≠ none)
    (along : Runs.Along (step services) (KeepsNote id) database statements)
    (final : (Runs.run (step services) database statements).account id = some row)
    (confirmed : row.emailConfirmedAt ≠ none) :
    row.encryptedPassword = some "" ∨
      WrittenConfirmed services id database statements row.encryptedPassword ∨
        MadeAnew services id database statements := by
  rcases password_of_confirmed found sent along final confirmed with kept | ⟨wasConfirmed, _⟩
  · exact kept
  · exact absurd unconfirmed wasConfirmed

/-- An account whose address waits for the letter. -/
def exampleSignup : AuthUserRow :=
  { exampleDemo with
    emailConfirmedAt := none
    confirmationSentAt := some 0
    rawAppMetaData := fun _ => none }

def exampleSignups : AuthDatabase := { users := [exampleSignup], profiles := [], sessions := [] }

theorem signup_password_not_kept_example :
    ∃ row, (Runs.run (step exampleServices) exampleSignups
        [.updateUser 5 ⟨1⟩ fun row => { row with emailConfirmedAt := some 5 }]).account ⟨1⟩ =
          some row ∧
      (row.encryptedPassword = some "" ∨
        WrittenConfirmed exampleServices ⟨1⟩ exampleSignups
          [.updateUser 5 ⟨1⟩ fun row => { row with emailConfirmedAt := some 5 }]
            row.encryptedPassword ∨
        MadeAnew exampleServices ⟨1⟩ exampleSignups
          [.updateUser 5 ⟨1⟩ fun row => { row with emailConfirmedAt := some 5 }]) := by
  have final : (Runs.run (step exampleServices) exampleSignups
      [.updateUser 5 ⟨1⟩ fun row => { row with emailConfirmedAt := some 5 }]).account ⟨1⟩ =
        some { exampleSignup with emailConfirmedAt := some 5, encryptedPassword := some "" } := by
    rfl
  have found : exampleSignups.account ⟨1⟩ = some exampleSignup := rfl
  refine ⟨_, final, ?_⟩
  apply signup_password_not_kept found rfl (by decide) _ final (by decide)
  exact ⟨fun _ _ _ sent => sent, trivial⟩

/-- From a moment on nobody signs in to the account; it is not deleted and stays confirmed, and a
new password is hashed by the algorithm and at the cost of the old one.  An account whose password
was wiped has no such hash and may be given a password at any time. -/
def KeptOpen (id : Uuid) (moment : Timestamp) (database : AuthDatabase) : Statement → Prop
  | .deleteUser _ other => other ≠ id
  | .updateUser now other write => other = id → moment ≤ now ∧
      ∀ row, database.account id = some row →
        (write row).lastSignInAt = row.lastSignInAt ∧
          hashPrefix (write row).encryptedPassword = hashPrefix row.encryptedPassword ∧
          (row.emailConfirmedAt ≠ none → (write row).emailConfirmedAt ≠ none)
  | _ => True

theorem password_kept {now : Timestamp} {written : AuthUserRow}
    (confirmed : old.emailConfirmedAt ≠ none)
    (closed : old.lastSignInAt.all (· < now - reauthWindow) = true)
    (sameCost : hashPrefix written.encryptedPassword = hashPrefix old.encryptedPassword)
    (allowed : beforeUpdate now old written = .ok new) :
    new = written ∧ written.encryptedPassword = old.encryptedPassword := by
  rcases beforeUpdate_eq_ok allowed with ⟨_, recent, rfl⟩
  rw [resetPasswordOnSignupConfirmation, if_neg fun confirms => confirmed confirms.1]
  refine ⟨rfl, ?_⟩
  rw [requireRecentSignInForPasswordChange] at recent
  split at recent
  case isTrue => cases recent
  case isFalse unchanged =>
    by_contra changed
    exact unchanged ⟨changed, sameCost, closed⟩

/-- Once the window after the last sign-in has closed, the password of a confirmed account is not
changed to another of the same algorithm and cost until somebody signs in, however long a session
is kept open. -/
theorem password_kept_without_sign_in {moment : Timestamp} (found : database.account id = some old)
    (confirmed : old.emailConfirmedAt ≠ none)
    (closed : old.lastSignInAt.all (· < moment - reauthWindow) = true)
    (along : Runs.Along (step services) (KeptOpen id moment) database statements) :
    ∃ row, (Runs.run (step services) database statements).account id = some row ∧
      row.encryptedPassword = old.encryptedPassword := by
  have keeps : Keeps id (fun row => row.emailConfirmedAt ≠ none ∧
      row.lastSignInAt = old.lastSignInAt ∧ row.encryptedPassword = old.encryptedPassword)
      (KeptOpen id moment) := by
    constructor
    · intro database now allowed
      exact allowed rfl
    · rintro database now write before after condition found ⟨isConfirmed, sameSignIn, same⟩ allowed
      rcases condition rfl with ⟨later, writes⟩
      rcases writes before found with ⟨keepsSignIn, sameCost, staysConfirmed⟩
      have stillClosed : before.lastSignInAt.all (· < now - reauthWindow) = true := by
        rw [sameSignIn]
        simp only [Option.all_eq_true, decide_eq_true_eq] at closed ⊢
        intro signedIn isSet
        exact Int.lt_of_lt_of_le (closed signedIn isSet) (Int.sub_le_sub_right later _)
      rcases password_kept isConfirmed stillClosed sameCost allowed with ⟨rfl, kept⟩
      exact ⟨staysConfirmed isConfirmed, keepsSignIn.trans sameSignIn, kept.trans same⟩
  rcases account_kept keeps found ⟨confirmed, rfl, rfl⟩ along with ⟨row, isRow, _, _, same⟩
  exact ⟨row, isRow, same⟩

/-- A quarter of an hour and a second after the sign-in the password is written. -/
def examplePassword : Statement :=
  .updateUser 901000000 ⟨1⟩ fun row => { row with encryptedPassword := some "$2a$10$new" }

theorem password_kept_without_sign_in_example :
    ∃ row, (Runs.run (step exampleServices)
        (Runs.run (step exampleServices) empty [.insertUser 0 exampleDemo])
        [examplePassword]).account ⟨1⟩ = some row ∧
      row.encryptedPassword = exampleDemo.encryptedPassword := by
  apply @password_kept_without_sign_in _ _ _ _ _ 901000000 exampleDemo_account
  · decide
  · decide
  · refine ⟨fun _ => ⟨Int.le_refl _, fun row found => ⟨rfl, ?_, fun confirmed => confirmed⟩⟩,
      trivial⟩
    rw [exampleDemo_account, Option.some.injEq] at found
    subst found
    decide +kernel

end AuthDatabase

end MyBuild
