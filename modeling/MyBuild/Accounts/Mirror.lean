import MyBuild.Accounts.AuthDatabase

/-!
# Every account has its profile

Whatever the authentication service writes, in whatever order, and however users change their
profiles: an account and its profile are made and deleted together, the profile carries the
address of the account and tells whether it is confirmed, no two profiles share an address, and
every profile is valid.  The role is the one the account was registered with.
-/

namespace MyBuild

/-- What a profile copies of its account. -/
structure Mirrors (services : Services) (user : AuthUserRow) (profile : ProfileRow) : Prop where
  email : user.email = some profile.user.email
  verified : profile.emailVerifiedAt = user.emailConfirmedAt.map services.toTimestamp3
  valid : profile.user.Valid

/-- The accounts and their profiles, one for one. -/
structure Mirrored (services : Services) (database : AuthDatabase) : Prop where
  ids : database.profiles.map (·.id) = database.users.map (·.id)
  unique : (database.users.map (·.id)).Nodup
  emails : (database.profiles.map (·.user.email)).Nodup
  mirrors : ∀ user ∈ database.users, ∀ profile ∈ database.profiles, profile.id = user.id →
    Mirrors services user profile

namespace Mirrored

variable {services : Services} {database : AuthDatabase} (mirrored : Mirrored services database)

include mirrored

theorem uniqueProfiles : (database.profiles.map (·.id)).Nodup :=
  mirrored.ids ▸ mirrored.unique

theorem profile_of_account {user : AuthUserRow} (mem : user ∈ database.users) :
    ∃ profile ∈ database.profiles, profile.id = user.id ∧ Mirrors services user profile := by
  have mapped := List.mem_map_of_mem (f := AuthUserRow.id) mem
  rw [← mirrored.ids] at mapped
  rcases List.mem_map.mp mapped with ⟨profile, isProfile, same⟩
  exact ⟨profile, isProfile, same, mirrored.mirrors user mem profile isProfile same⟩

theorem account_of_profile {profile : ProfileRow} (mem : profile ∈ database.profiles) :
    ∃ user ∈ database.users, user.id = profile.id ∧ Mirrors services user profile := by
  have mapped := List.mem_map_of_mem (f := ProfileRow.id) mem
  rw [mirrored.ids] at mapped
  rcases List.mem_map.mp mapped with ⟨user, isUser, same⟩
  exact ⟨user, isUser, same, mirrored.mirrors user isUser profile mem same.symm⟩

theorem profile_valid {profile : ProfileRow} (mem : profile ∈ database.profiles) :
    profile.user.Valid := by
  rcases mirrored.account_of_profile mem with ⟨user, -, -, mirrors⟩
  exact mirrors.valid

theorem isSome_emailVerifiedAt {profile : ProfileRow} (mem : profile ∈ database.profiles) :
    profile.emailVerifiedAt.isSome = true ↔ ∃ account ∈ database.users,
      account.id = profile.id ∧ account.emailConfirmedAt ≠ none := by
  constructor
  · intro verified
    rcases mirrored.account_of_profile mem with ⟨user, isUser, same, mirrors⟩
    rw [mirrors.verified, Option.isSome_map, Option.isSome_iff_ne_none] at verified
    exact ⟨user, isUser, same, verified⟩
  · rintro ⟨account, isAccount, same, confirmed⟩
    have mirrors := mirrored.mirrors account isAccount profile mem same.symm
    rw [mirrors.verified, Option.isSome_map, Option.isSome_iff_ne_none]
    exact confirmed

end Mirrored

namespace Triggers

variable {services : Services} {now : Timestamp} {old new : AuthUserRow} {id : Uuid}
  {email : String} {profiles next : List ProfileRow}

theorem emailTaken_eq_false :
    emailTaken id email profiles = false ↔
      ∀ row ∈ profiles, row.id ≠ id → row.user.email ≠ email := by
  simp [emailTaken]

/-- An address that no other profile has keeps the addresses apart. -/
theorem nodup_emails (unique : (profiles.map (·.id)).Nodup)
    (emails : (profiles.map (·.user.email)).Nodup) {change : ProfileRow → ProfileRow}
    (changed : ∀ row, (change row).user.email = row.user.email ∨
      ((change row).user.email = email ∧ emailTaken id email profiles = false)) :
    ((Rows.updateWhere (·.id = id) change profiles).map (·.user.email)).Nodup := by
  by_cases present : ∃ row ∈ profiles, row.id = id
  · rcases present with ⟨row, mem, rfl⟩
    rcases Rows.exists_split_updateWhere unique mem change with ⟨before, after, rfl, same, others⟩
    rw [same]
    rw [List.map_append, List.map_cons, List.nodup_middle, List.nodup_cons,
      ← List.map_append] at emails ⊢
    refine ⟨?_, emails.2⟩
    rcases changed row with kept | ⟨isEmail, free⟩
    · rw [kept]
      exact emails.1
    · rw [isEmail]
      intro taken
      rcases List.mem_map.mp taken with ⟨other, otherMem, isTaken⟩
      have isOther : other.id ≠ row.id := others other otherMem
      have inTable : other ∈ before ++ row :: after := by
        rcases List.mem_append.mp otherMem with first | second
        · exact List.mem_append_left _ first
        · exact List.mem_append_right _ (List.mem_cons_of_mem _ second)
      exact emailTaken_eq_false.mp free other inTable isOther isTaken
  · rw [Rows.updateWhere_eq_self]
    · exact emails
    · intro row mem isRow
      exact absurd ⟨row, mem, isRow⟩ present

/-- What an update copies into the profile of the account. -/
structure Copies (services : Services) (old new : AuthUserRow) (row changed : ProfileRow) :
    Prop where
  id : changed.id = row.id
  role : changed.user.role = row.user.role
  valid : row.user.Valid → changed.user.Valid
  email : old.email = new.email ∧ changed.user.email = row.user.email ∨
    new.email = some changed.user.email
  verified : changed.emailVerifiedAt =
    if old.emailConfirmedAt = new.emailConfirmedAt then row.emailVerifiedAt
    else new.emailConfirmedAt.map services.toTimestamp3

theorem syncUserEmailVerified_eq :
    ∃ change, syncUserEmailVerified services (some old) new profiles =
        Rows.updateWhere (·.id = new.id) change profiles ∧
      ∀ row, (change row).id = row.id ∧ (change row).user = row.user ∧
        (change row).emailVerifiedAt =
          if old.emailConfirmedAt = new.emailConfirmedAt then row.emailVerifiedAt
          else new.emailConfirmedAt.map services.toTimestamp3 := by
  simp only [syncUserEmailVerified, Option.any_some, beq_iff_eq]
  by_cases same : old.emailConfirmedAt = new.emailConfirmedAt
  · refine ⟨fun row => row, ?_, fun row => ⟨rfl, rfl, (if_pos same).symm⟩⟩
    rw [if_pos same, Rows.updateWhere_eq_self fun _ _ _ => rfl]
  · exact ⟨_, if_neg same, fun row => ⟨rfl, rfl, (if_neg same).symm⟩⟩

/-- With a profile there already, only its address is written. -/
theorem handleAuthUserUpsert_of_mem (present : ∃ row ∈ profiles, row.id = new.id)
    (returned : handleAuthUserUpsert services now new profiles = .ok next) :
    ∃ email, new.email = some email ∧ emailTaken new.id email profiles = false ∧
      next = Rows.updateWhere (·.id = new.id)
        (fun row => { row with
          user := { row.user with email }
          updatedAt := services.toTimestamp3 now }) profiles := by
  rw [handleAuthUserUpsert] at returned
  cases created : MyBuild.handleAuthUserUpsert services.upper new.email new.rawUserMetaData with
  | error message => simp [created] at returned
  | ok user =>
      have creates := HandleAuthUserUpsert.handleAuthUserUpsert_eq_ok.mp created
      have exists_ : profiles.any (·.id == new.id) = true := by simpa using present
      simp only [created, exists_, if_true] at returned
      split at returned
      case isTrue taken => cases returned
      case isFalse free =>
        exact ⟨user.email, creates.email, by simpa using free, (Except.ok.inj returned).symm⟩

/-- Without a profile, one is made of the metadata. -/
theorem handleAuthUserUpsert_of_not_mem (absent : ∀ row ∈ profiles, row.id ≠ new.id)
    (returned : handleAuthUserUpsert services now new profiles = .ok next) :
    ∃ user, HandleAuthUserUpsert.Creates services.upper new.email new.rawUserMetaData user ∧
      emailTaken new.id user.email profiles = false ∧
      next = profiles ++
        [{ id := new.id
           user
           emailVerifiedAt := none
           createdAt := services.toTimestamp3 now
           updatedAt := services.toTimestamp3 now }] := by
  rw [handleAuthUserUpsert] at returned
  cases created : MyBuild.handleAuthUserUpsert services.upper new.email new.rawUserMetaData with
  | error message => simp [created] at returned
  | ok user =>
      have creates := HandleAuthUserUpsert.handleAuthUserUpsert_eq_ok.mp created
      have missing : profiles.any (·.id == new.id) = false := by simpa using absent
      simp only [created, missing, Bool.false_eq_true, if_false] at returned
      split at returned
      case isTrue taken => cases returned
      case isFalse free =>
        exact ⟨user, creates, by simpa using free, (Except.ok.inj returned).symm⟩

end Triggers

namespace AuthDatabase

open Triggers

variable {services : Services} {now : Timestamp} {database next : AuthDatabase} {id : Uuid}
  {row : AuthUserRow} {write : AuthUserRow → AuthUserRow}

/-- An account is written, and its profile follows. -/
structure Updated (services : Services) (now : Timestamp) (old new : AuthUserRow)
    (change : ProfileRow → ProfileRow) (database next : AuthDatabase) : Prop where
  found : old ∈ database.users
  sameId : new.id = old.id
  users : next.users = Rows.updateWhere (·.id = old.id) (fun _ => new) database.users
  profiles : next.profiles = Rows.updateWhere (·.id = old.id) change database.profiles
  sessions : next.sessions = database.sessions
  copies : ∀ row, Copies services old new row (change row)
  email : old.email = new.email ∧ (∀ row, (change row).user.email = row.user.email) ∨
    ∃ email, new.email = some email ∧ emailTaken old.id email database.profiles = false ∧
      ∀ row, (change row).user.email = email

theorem updateUser_eq_ok (mirrored : Mirrored services database)
    (executed : updateUser services now id write database = .ok next) :
    next = database ∨ ∃ old new change, old.id = id ∧ beforeUpdate now old (write old) = .ok new ∧
      Updated services now old new change database next := by
  rw [updateUser] at executed
  cases found : database.users.find? (·.id == id) with
  | none =>
      simp only [found, Except.ok.injEq] at executed
      exact Or.inl executed.symm
  | some old =>
      have mem := List.mem_of_find?_eq_some found
      have isId : old.id = id := by simpa using List.find?_some found
      simp only [found, bind, Except.bind] at executed
      split at executed
      case h_1 => cases executed
      case h_2 new allowed =>
        right
        split at executed
        case isTrue => cases executed
        case isFalse kept =>
          rw [not_ne_iff] at kept
          rcases @syncUserEmailVerified_eq services old new database.profiles with
            ⟨sync, synced, copied⟩
          have present : ∃ row ∈ syncUserEmailVerified services (some old) new database.profiles,
              row.id = new.id := by
            rcases mirrored.profile_of_account mem with ⟨profile, isProfile, same, -⟩
            rw [synced]
            refine ⟨_, Rows.mem_updateWhere.mpr ⟨profile, isProfile, rfl⟩, ?_⟩
            rw [if_pos (same.trans kept.symm), (copied profile).1, same, kept]
          refine ⟨old, new, ?_⟩
          split at executed
          case isTrue changed =>
            split at executed
            case h_1 => cases executed
            case h_2 profiles upserted =>
              rcases handleAuthUserUpsert_of_mem present upserted with
                ⟨email, isEmail, free, rfl⟩
              have written := (Except.ok.inj executed).symm
              subst written
              refine ⟨fun row => { sync row with
                user := { (sync row).user with email }
                updatedAt := services.toTimestamp3 now }, isId, allowed, ?_⟩
              constructor
              · exact mem
              · exact kept
              · rw [isId]
              · simp only [synced, kept]
                apply Rows.updateWhere_updateWhere
                intro row isRow
                rw [(copied row).1, isRow]
              · rfl
              · intro row
                have user := (copied row).2.1
                constructor
                · exact (copied row).1
                · simp only [user]
                · intro valid
                  simp only [user]
                  exact valid.withEmail email
                · exact Or.inr isEmail
                · exact (copied row).2.2
              · refine Or.inr ⟨email, isEmail, ?_, fun row => rfl⟩
                rw [kept, emailTaken_eq_false, synced] at free
                rw [emailTaken_eq_false]
                intro row rowMem isOther
                refine free row ?_ isOther
                rw [Rows.mem_updateWhere]
                exact ⟨row, rowMem, (if_neg (kept.symm ▸ isOther)).symm⟩
          case isFalse same =>
            rw [not_ne_iff] at same
            have written := (Except.ok.inj executed).symm
            subst written
            refine ⟨sync, isId, allowed, ?_⟩
            constructor
            · exact mem
            · exact kept
            · rw [isId]
            · rw [← kept]
              exact synced
            · rfl
            · intro row
              have user := (copied row).2.1
              exact ⟨(copied row).1, congrArg User.role user, fun valid => user ▸ valid,
                Or.inl ⟨same, congrArg User.email user⟩, (copied row).2.2⟩
            · exact Or.inl ⟨same, fun row => congrArg User.email (copied row).2.1⟩

theorem updated_mirrored (mirrored : Mirrored services database) {old new : AuthUserRow}
    {change : ProfileRow → ProfileRow}
    (updated : Updated services now old new change database next) : Mirrored services next := by
  have userIds : next.users.map (·.id) = database.users.map (·.id) := by
    rw [updated.users]
    apply Rows.map_updateWhere_of_chosen
    intro row _ isRow
    exact updated.sameId.trans isRow.symm
  have profileIds : next.profiles.map (·.id) = database.profiles.map (·.id) := by
    rw [updated.profiles]
    exact Rows.map_updateWhere fun row => (updated.copies row).id
  constructor
  · rw [userIds, profileIds, mirrored.ids]
  · rw [userIds]
    exact mirrored.unique
  · rw [updated.profiles]
    rcases updated.email with ⟨_, kept⟩ | ⟨email, _, free, written⟩
    · rw [Rows.map_updateWhere kept]
      exact mirrored.emails
    · exact nodup_emails mirrored.uniqueProfiles mirrored.emails fun row =>
        Or.inr ⟨written row, free⟩
  · intro user userMem profile profileMem same
    rw [updated.users, Rows.mem_updateWhere] at userMem
    rw [updated.profiles, Rows.mem_updateWhere] at profileMem
    rcases userMem with ⟨oldUser, oldUserMem, rfl⟩
    rcases profileMem with ⟨row, rowMem, rfl⟩
    by_cases isOld : oldUser.id = old.id
    · have isSame := Rows.eq_of_key mirrored.unique oldUserMem updated.found isOld
      subst isSame
      rw [if_pos rfl] at same ⊢
      have isRow : row.id = oldUser.id := by
        by_cases chosen : row.id = oldUser.id
        · exact chosen
        · rw [if_neg chosen] at same
          exact same.trans updated.sameId
      rw [if_pos isRow]
      have held := mirrored.mirrors oldUser oldUserMem row rowMem isRow
      have copies := updated.copies row
      constructor
      · rcases copies.email with ⟨sameEmail, kept⟩ | written
        · rw [← sameEmail, kept]
          exact held.email
        · exact written
      · rw [copies.verified, held.verified]
        split
        case isTrue unchanged => rw [unchanged]
        case isFalse changed => rfl
      · exact copies.valid held.valid
    · rw [if_neg isOld] at same ⊢
      have isOther : row.id ≠ old.id := by
        intro chosen
        rw [if_pos chosen, (updated.copies row).id, chosen] at same
        exact isOld same.symm
      rw [if_neg isOther] at same ⊢
      exact mirrored.mirrors oldUser oldUserMem row rowMem same

/-- An account is made, and a profile with it. -/
structure Inserted (services : Services) (row : AuthUserRow) (made : ProfileRow)
    (database next : AuthDatabase) : Prop where
  newId : ∀ user ∈ database.users, user.id ≠ row.id
  noProfile : ∀ profile ∈ database.profiles, profile.id ≠ row.id
  users : next.users = database.users ++ [row]
  profiles : next.profiles = database.profiles ++ [made]
  id : made.id = row.id
  creates : HandleAuthUserUpsert.Creates services.upper row.email row.rawUserMetaData made.user
  free : emailTaken row.id made.user.email database.profiles = false
  verified : made.emailVerifiedAt = row.emailConfirmedAt.map services.toTimestamp3

theorem insertUser_eq_ok (mirrored : Mirrored services database)
    (executed : insertUser services now row database = .ok next) :
    ∃ made, Inserted services row made database next := by
  rw [insertUser] at executed
  split at executed
  case isTrue => cases executed
  case isFalse fresh =>
    have newId : ∀ user ∈ database.users, user.id ≠ row.id := by simpa using fresh
    have noProfile : ∀ profile ∈ database.profiles, profile.id ≠ row.id := by
      intro profile mem same
      rcases mirrored.account_of_profile mem with ⟨user, isUser, isId, -⟩
      exact newId user isUser (isId.trans same)
    simp only [bind, Except.bind] at executed
    split at executed
    case h_1 => cases executed
    case h_2 profiles upserted =>
      rcases handleAuthUserUpsert_of_not_mem noProfile upserted with ⟨user, creates, free, rfl⟩
      have others : Rows.updateWhere (·.id = row.id) (fun profile => { profile with
          emailVerifiedAt := row.emailConfirmedAt.map services.toTimestamp3 })
            database.profiles = database.profiles :=
        Rows.updateWhere_eq_self fun profile mem same => absurd same (noProfile profile mem)
      have written := (Except.ok.inj executed).symm
      simp only [syncUserEmailVerified, Option.any_none, Bool.false_eq_true, if_false,
        Rows.updateWhere_append, others] at written
      simp only [Rows.updateWhere, List.map_cons, List.map_nil, if_true] at written
      subst written
      exact ⟨_, newId, noProfile, rfl, rfl, rfl, creates, free, rfl⟩

theorem inserted_mirrored (mirrored : Mirrored services database) {made : ProfileRow}
    (inserted : Inserted services row made database next) : Mirrored services next := by
  have newId := inserted.newId
  constructor
  · rw [inserted.users, inserted.profiles]
    simp [mirrored.ids, inserted.id]
  · rw [inserted.users, List.map_append, List.map_singleton, List.nodup_append]
    refine ⟨mirrored.unique, List.nodup_singleton _, ?_⟩
    intro id mem other isRow
    rcases List.mem_map.mp mem with ⟨user, isUser, rfl⟩
    rw [List.mem_singleton.mp isRow]
    exact newId user isUser
  · rw [inserted.profiles, List.map_append, List.map_singleton, List.nodup_append]
    refine ⟨mirrored.emails, List.nodup_singleton _, ?_⟩
    intro email mem other isUser
    rcases List.mem_map.mp mem with ⟨profile, isProfile, rfl⟩
    rw [List.mem_singleton.mp isUser]
    exact emailTaken_eq_false.mp inserted.free profile isProfile
      (inserted.noProfile profile isProfile)
  · intro account accountMem profile profileMem same
    rw [inserted.users] at accountMem
    rw [inserted.profiles] at profileMem
    rcases List.mem_append.mp accountMem with isOld | isNew
    · rcases List.mem_append.mp profileMem with wasThere | isMade
      · exact mirrored.mirrors account isOld profile wasThere same
      · rw [List.mem_singleton.mp isMade, inserted.id] at same
        exact absurd same.symm (newId account isOld)
    · rw [List.mem_singleton.mp isNew] at same ⊢
      rcases List.mem_append.mp profileMem with wasThere | isMade
      · exact absurd same (inserted.noProfile profile wasThere)
      · rw [List.mem_singleton.mp isMade]
        exact ⟨inserted.creates.email, inserted.verified, inserted.creates.valid⟩

theorem deleted_mirrored (mirrored : Mirrored services database)
    (users : next.users = database.users.filter (·.id != id))
    (profiles : next.profiles = database.profiles.filter (·.id != id)) :
    Mirrored services next := by
  constructor
  · have byId := congrArg (List.filter (· != id)) mirrored.ids
    rw [users, profiles]
    rwa [List.filter_map, List.filter_map] at byId
  · rw [users]
    exact (List.filter_sublist.map _).nodup mirrored.unique
  · rw [profiles]
    exact (List.filter_sublist.map _).nodup mirrored.emails
  · rw [users, profiles]
    intro user userMem profile profileMem
    exact mirrored.mirrors user (List.mem_of_mem_filter userMem) profile
      (List.mem_of_mem_filter profileMem)

/-- A request writes the row of its user. -/
structure Patched (row updated : ProfileRow) (database next : AuthDatabase) : Prop where
  mem : row ∈ database.profiles
  id : updated.id = row.id
  email : updated.user.email = row.user.email
  role : updated.user.role = row.user.role
  verified : updated.emailVerifiedAt = row.emailVerifiedAt
  valid : row.user.Valid → updated.user.Valid
  users : next.users = database.users
  profiles : next.profiles = Rows.updateWhere (·.id = row.id) (fun _ => updated) database.profiles

theorem patchProfile_eq_ok {textLength : TextLength} {moment : Date} {userId : Uuid}
    {body : UpdateProfileBody} {profile : UserProfile} {profiles : List ProfileRow}
    (patched : patchProfile textLength moment userId body database.profiles =
      .ok (profile, profiles)) :
    ∃ row updated, Patched row updated database { database with profiles } := by
  rw [patchProfile] at patched
  split at patched
  case isFalse => cases patched
  case isTrue checked =>
    rcases UsersService.updateProfile_eq_ok.mp patched with ⟨row, found, allowed, -, rfl⟩
    have isUser : row.id = userId := by simpa using List.find?_some found
    subst isUser
    have isPatched := fun valid : row.user.Valid =>
      UsersService.updated_valid valid checked allowed
    refine ⟨row, { row with
      user := UsersService.updated body.trimmed body.trimmed.companyName row.user
      updatedAt := moment }, ?_⟩
    exact ⟨List.mem_of_find?_eq_some found, rfl, rfl, rfl, rfl, isPatched, rfl, rfl⟩

theorem patched_mirrored (mirrored : Mirrored services database) {row updated : ProfileRow}
    (patched : Patched row updated database next) : Mirrored services next := by
  have unique := mirrored.uniqueProfiles
  have isRow : ∀ other ∈ database.profiles, other.id = row.id → other = row :=
    fun other otherMem same => Rows.eq_of_key unique otherMem patched.mem same
  constructor
  · rw [patched.profiles, patched.users, ← mirrored.ids]
    apply Rows.map_updateWhere_of_chosen
    intro other _ same
    exact patched.id.trans same.symm
  · rw [patched.users]
    exact mirrored.unique
  · rw [patched.profiles, Rows.map_updateWhere_of_chosen]
    · exact mirrored.emails
    · intro other otherMem same
      rw [isRow other otherMem same]
      exact patched.email
  · intro user userMem written writtenMem same
    rw [patched.users] at userMem
    rw [patched.profiles] at writtenMem
    rcases Rows.mem_updateWhere.mp writtenMem with ⟨other, otherMem, rfl⟩
    split at same
    case isTrue chosen =>
      rw [if_pos chosen]
      have held := mirrored.mirrors user userMem row patched.mem (patched.id.symm.trans same)
      exact ⟨held.email.trans (congrArg some patched.email.symm),
        patched.verified.trans held.verified, patched.valid held.valid⟩
    case isFalse other =>
      rw [if_neg other]
      exact mirrored.mirrors user userMem _ otherMem same

/-- What a statement does to accounts and profiles, if anything. -/
theorem step_cases (mirrored : Mirrored services database) (statement : Statement) :
    let next := step services database statement
    next.users = database.users ∧ next.profiles = database.profiles ∨
      (∃ now row made, statement = .insertUser now row ∧
        Inserted services row made database next) ∨
      (∃ now id write old new change, statement = .updateUser now id write ∧ old.id = id ∧
        beforeUpdate now old (write old) = .ok new ∧
          Updated services now old new change database next) ∨
      (∃ now id, statement = .deleteUser now id ∧
        next.users = database.users.filter (·.id != id) ∧
          next.profiles = database.profiles.filter (·.id != id)) ∨
      (∃ now userId body row updated, statement = .patchProfile now userId body ∧
        Patched row updated database next) := by
  have unchanged : ∀ same : AuthDatabase, same = database →
      same.users = database.users ∧ same.profiles = database.profiles := by
    rintro same rfl
    exact ⟨rfl, rfl⟩
  simp only [step]
  split
  case h_2 => exact Or.inl ⟨rfl, rfl⟩
  case h_1 next executed =>
    cases statement with
    | insertUser now row =>
        rcases insertUser_eq_ok mirrored executed with ⟨made, inserted⟩
        exact Or.inr (Or.inl ⟨now, row, made, rfl, inserted⟩)
    | updateUser now id write =>
        rcases updateUser_eq_ok mirrored executed with same | ⟨old, new, change, isId, allowed,
          updated⟩
        · exact Or.inl (unchanged next same)
        · exact Or.inr (Or.inr (Or.inl ⟨now, id, write, old, new, change, rfl, isId, allowed,
            updated⟩))
    | deleteUser now id =>
        simp only [deleteUser, bind, Except.bind] at executed
        split at executed
        case h_1 => cases executed
        case h_2 =>
          rw [← Except.ok.inj executed]
          exact Or.inr (Or.inr (Or.inr (Or.inl ⟨now, id, rfl, rfl, rfl⟩)))
    | insertSession session =>
        rw [← Except.ok.inj executed]
        exact Or.inl ⟨rfl, rfl⟩
    | deleteSessions now chosen =>
        simp only [deleteSessions, bind, Except.bind] at executed
        split at executed
        case h_1 => cases executed
        case h_2 =>
          rw [← Except.ok.inj executed]
          exact Or.inl ⟨rfl, rfl⟩
    | patchProfile now userId body =>
        simp only at executed
        split at executed
        case h_2 =>
          rw [← Except.ok.inj executed]
          exact Or.inl ⟨rfl, rfl⟩
        case h_1 profile profiles patched =>
          rw [← Except.ok.inj executed]
          rcases patchProfile_eq_ok patched with ⟨row, updated, patched⟩
          exact Or.inr (Or.inr (Or.inr (Or.inr ⟨now, userId, body, row, updated, rfl, patched⟩)))

theorem step_mirrored (statement : Statement) (mirrored : Mirrored services database) :
    Mirrored services (step services database statement) := by
  rcases step_cases mirrored statement with ⟨users, profiles⟩ | ⟨now, row, made, -, inserted⟩ |
    ⟨now, id, write, old, new, change, -, -, -, updated⟩ | ⟨now, id, -, users, profiles⟩ |
      ⟨now, userId, body, row, updated, -, patched⟩
  · constructor
    · rw [users, profiles]
      exact mirrored.ids
    · rw [users]
      exact mirrored.unique
    · rw [profiles]
      exact mirrored.emails
    · rw [users, profiles]
      exact mirrored.mirrors
  · exact inserted_mirrored mirrored inserted
  · exact updated_mirrored mirrored updated
  · exact deleted_mirrored mirrored users profiles
  · exact patched_mirrored mirrored patched

/-- No statement but the deletion of the account takes the profile away or changes its role. -/
theorem role_step {statement : Statement} (mirrored : Mirrored services database)
    {profile : ProfileRow} (mem : profile ∈ database.profiles)
    (kept : ∀ now, statement ≠ .deleteUser now profile.id) :
    ∃ later ∈ (step services database statement).profiles,
      later.id = profile.id ∧ later.user.role = profile.user.role := by
  rcases step_cases mirrored statement with ⟨-, profiles⟩ | ⟨now, row, made, -, inserted⟩ |
    ⟨now, id, write, old, new, change, -, -, -, updated⟩ | ⟨now, id, rfl, -, profiles⟩ |
      ⟨now, userId, body, row, updated, -, patched⟩
  · rw [profiles]
    exact ⟨profile, mem, rfl, rfl⟩
  · rw [inserted.profiles]
    exact ⟨profile, List.mem_append_left _ mem, rfl, rfl⟩
  · rw [updated.profiles]
    refine ⟨_, Rows.mem_updateWhere.mpr ⟨profile, mem, rfl⟩, ?_⟩
    have copies := updated.copies profile
    split
    case isTrue => exact ⟨copies.id, copies.role⟩
    case isFalse => exact ⟨rfl, rfl⟩
  · rw [profiles]
    refine ⟨profile, ?_, rfl, rfl⟩
    have other : profile.id ≠ id := by
      rintro rfl
      exact kept now rfl
    simpa [mem] using other
  · rw [patched.profiles]
    have unique := mirrored.uniqueProfiles
    refine ⟨_, Rows.mem_updateWhere.mpr ⟨profile, mem, rfl⟩, ?_⟩
    split
    case isFalse => exact ⟨rfl, rfl⟩
    case isTrue chosen =>
      rw [Rows.eq_of_key unique mem patched.mem chosen]
      exact ⟨patched.id, patched.role⟩

theorem role_kept {statements : List Statement} (mirrored : Mirrored services database)
    {profile : ProfileRow} (mem : profile ∈ database.profiles)
    (kept : ∀ now, .deleteUser now profile.id ∉ statements) :
    ∃ later ∈ (Runs.run (step services) database statements).profiles,
      later.id = profile.id ∧ later.user.role = profile.user.role := by
  induction statements generalizing database profile with
  | nil => exact ⟨profile, mem, rfl, rfl⟩
  | cons statement statements ih =>
      have first : ∀ now, statement ≠ .deleteUser now profile.id := by
        rintro now rfl
        exact kept now List.mem_cons_self
      rcases role_step mirrored mem first with ⟨next, nextMem, sameId, sameRole⟩
      have rest : ∀ now, .deleteUser now next.id ∉ statements := by
        intro now deleted
        exact kept now (List.mem_cons_of_mem _ (sameId ▸ deleted))
      rcases ih (step_mirrored statement mirrored) nextMem rest with ⟨later, laterMem, isId, isRole⟩
      exact ⟨later, laterMem, isId.trans sameId, isRole.trans sameRole⟩

/-- However accounts are made, written and deleted and profiles changed: accounts and profiles
correspond one to one, and each profile copies its account and is valid. -/
theorem run_mirrored (services : Services) (statements : List Statement) :
    Mirrored services (Runs.run (step services) empty statements) := by
  apply Runs.run_invariant fun _ statement => step_mirrored statement
  constructor <;> simp [empty]

end AuthDatabase

end MyBuild
