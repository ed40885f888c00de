import MyBuild.Accounts.Locks
import MyBuild.Common.ListQueries
import MyBuild.Common.Uuid
import MyBuild.Orders.OrderSearch

/-!
# The catalogue of contractors

Clients look for companies in a list, page by page, and open the card of one.  The list has no
contacts; the card does.  Both read the profiles, and a profile tells of its account only what the
triggers have copied into it.
-/

namespace MyBuild

structure ContractorListItem where
  id : Uuid
  companyName : Option String
  city : Option String
  country : Option String
  completedOrdersCount : ℕ
  deriving DecidableEq

structure ContractorCard extends ContractorListItem where
  email : String
  phone : String
  deriving DecidableEq

/-- The order of texts in the database; texts that compare as equal are equal. -/
structure Collation where
  le : String → String → Bool
  total : ∀ first second, le first second = true ∨ le second first = true
  trans : ∀ {first second third}, le first second = true → le second third = true →
    le first third = true
  antisymm : ∀ {first second}, le first second = true → le second first = true → first = second

/-- The collation `C`. -/
def Collation.codePoints : Collation where
  le first second := decide (first ≤ second)
  total first second := by simpa using String.le_total first second
  trans before after := by
    simpa using String.le_trans (by simpa using before) (by simpa using after)
  antisymm before after := String.le_antisymm (by simpa using before) (by simpa using after)

/-- What the queries read, besides the query: how texts compare, the offers on all orders, the
profiles. -/
structure Catalogue where
  collation : Collation
  folding : likeMarks.Folding
  offers : List Offer
  profiles : List ProfileRow

def buildContractorsWhere (folding : likeMarks.Folding) (query : Option String)
    (row : ProfileRow) : Bool :=
  row.user.role == .company && row.user.companyName.isSome && row.emailVerifiedAt.isSome &&
    query.all fun query =>
      containsInsensitive folding (escapeLike query) row.user.companyName ||
        containsInsensitive folding (escapeLike query) row.user.city

namespace ContractorsService

variable (catalogue : Catalogue)

def completedOffers (companyId : Uuid) : ℕ :=
  catalogue.offers.countP fun offer => offer.companyId == companyId && offer.status == .completed

def toListItem (row : ProfileRow) : ContractorListItem :=
  { id := row.id
    companyName := row.user.companyName
    city := row.user.city
    country := row.user.country
    completedOrdersCount := completedOffers catalogue row.id }

def toContractorCard (row : ProfileRow) : ContractorCard :=
  { toListItem catalogue row with email := row.user.email, phone := row.user.phone }

/-- By name, and by the identifier where names are the same. -/
def orderBy (first second : ProfileRow) : Bool :=
  let firstName := first.user.companyName.getD ""
  let secondName := second.user.companyName.getD ""
  if firstName = secondName then first.id.value ≤ second.id.value
  else catalogue.collation.le firstName secondName

def rows (query : Option String) : List ProfileRow :=
  (catalogue.profiles.filter (buildContractorsWhere catalogue.folding query)).mergeSort
    (orderBy catalogue)

def list (query : SearchQueryDto) : Paginated ContractorListItem :=
  let request := pageRequest query.page query.pageSize
  let found := rows catalogue query.q
  toPage (((found.drop request.skip).take request.pageSize).map (toListItem catalogue)) request
    found.length

def getById (contractorId : String) : Option ContractorCard :=
  if isUuid : isUuid contractorId = true then
    ((catalogue.profiles.find? fun row =>
      buildContractorsWhere catalogue.folding none row &&
        row.id == UuidText.value ⟨contractorId, isUuid⟩).map (toContractorCard catalogue))
  else none

variable {catalogue} {query : Option String} {row : ProfileRow}

theorem orderBy_total (first second : ProfileRow) :
    (orderBy catalogue first second || orderBy catalogue second first) = true := by
  simp only [orderBy]
  by_cases same : first.user.companyName.getD "" = second.user.companyName.getD ""
  · simpa [same] using BitVec.le_total first.id.value second.id.value
  · simpa [same, Ne.symm same] using catalogue.collation.total _ _

theorem orderBy_trans (first second third : ProfileRow)
    (before : orderBy catalogue first second = true)
    (after : orderBy catalogue second third = true) : orderBy catalogue first third = true := by
  simp only [orderBy] at before after ⊢
  by_cases firstSame : first.user.companyName.getD "" = second.user.companyName.getD ""
  · by_cases secondSame : second.user.companyName.getD "" = third.user.companyName.getD ""
    · simp only [firstSame, secondSame, if_true, decide_eq_true_eq] at before after ⊢
      exact BitVec.le_trans before after
    · simpa [firstSame, secondSame] using after
  · by_cases secondSame : second.user.companyName.getD "" = third.user.companyName.getD ""
    · simp only [← secondSame, firstSame, if_false] at before ⊢
      exact before
    · simp only [firstSame, secondSame, if_false] at before after
      split
      case isTrue same =>
        rw [← same] at after
        exact absurd (catalogue.collation.antisymm before after) firstSame
      case isFalse => exact catalogue.collation.trans before after

theorem pairwise_rows : (rows catalogue query).Pairwise fun first second =>
    orderBy catalogue first second = true :=
  List.pairwise_mergeSort orderBy_trans orderBy_total _

theorem mem_rows : row ∈ rows catalogue query ↔
    row ∈ catalogue.profiles ∧ buildContractorsWhere catalogue.folding query row = true := by
  simp [rows]

theorem nodup_rows (unique : (catalogue.profiles.map (·.id)).Nodup) :
    ((rows catalogue query).map (·.id)).Nodup := by
  have perm := (List.mergeSort_perm (catalogue.profiles.filter
    (buildContractorsWhere catalogue.folding query)) (orderBy catalogue)).map ProfileRow.id
  exact perm.nodup_iff.mpr ((List.filter_sublist.map _).nodup unique)

/-- The list, page after page. -/
def shown (catalogue : Catalogue) (pageSize : Option ℕ) (query : Option String) :
    List ContractorListItem :=
  (List.range (list catalogue ⟨⟨none, pageSize⟩, query⟩).totalPages).flatMap fun index =>
    (list catalogue ⟨⟨some (index + 1), pageSize⟩, query⟩).items

theorem pageSize_pos (page pageSize : Option ℕ) : 0 < (pageRequest page pageSize).pageSize := by
  simp only [pageRequest]
  split
  case isTrue => decide
  case isFalse given => omega

theorem items_eq {number : ℕ} (pageSize : Option ℕ) (positive : number ≠ 0) :
    (list catalogue ⟨⟨some number, pageSize⟩, query⟩).items =
      (Paging.page (pageRequest none pageSize).pageSize number (rows catalogue query)).map
        (toListItem catalogue) := by
  simp [list, toPage, pageRequest, Paging.page, positive]

theorem shown_eq (pageSize : Option ℕ) :
    shown catalogue pageSize query = (rows catalogue query).map (toListItem catalogue) := by
  have positive := pageSize_pos none pageSize
  have pages := @Paging.flatten_pages _ _ (rows catalogue query) positive
  have each : (fun index => (list catalogue ⟨⟨some (index + 1), pageSize⟩, query⟩).items) =
      fun index => (Paging.page (pageRequest none pageSize).pageSize (index + 1)
        (rows catalogue query)).map (toListItem catalogue) :=
    funext fun index => items_eq pageSize (Nat.succ_ne_zero index)
  rw [shown, each, ← List.map_flatMap, List.flatMap_def]
  exact congrArg (List.map _) pages

theorem where_iff {services : Services} {database : AuthDatabase}
    (mirrored : Mirrored services database) (mem : row ∈ database.profiles)
    {folding : likeMarks.Folding} :
    buildContractorsWhere folding query row = true ↔
      row.user.role = .company ∧
        (∃ account ∈ database.users, account.id = row.id ∧ account.emailConfirmedAt ≠ none) ∧
          ∀ text ∈ query, ∃ value,
            (row.user.companyName = some value ∨ row.user.city = some value) ∧
              ContainsText folding text value := by
  have named : row.user.role = .company → row.user.companyName.isSome = true :=
    (mirrored.profile_valid mem).isCompany.mpr
  have contains : ∀ (text : String) (value : Option String),
      containsInsensitive folding (escapeLike text) value = true ↔
        ∃ held, value = some held ∧ ContainsText folding text held := by
    intro text value
    cases value with
    | none => simp [containsInsensitive]
    | some held => simp [containsInsensitive_escapeLike]
  have searched : (query.all fun text =>
        containsInsensitive folding (escapeLike text) row.user.companyName ||
          containsInsensitive folding (escapeLike text) row.user.city) = true ↔
      ∀ text ∈ query, ∃ value, (row.user.companyName = some value ∨ row.user.city = some value) ∧
        ContainsText folding text value := by
    cases query with
    | none => simp
    | some text =>
        simp only [Option.all_some, Bool.or_eq_true, contains, Option.mem_def, Option.some.injEq,
          forall_eq', or_and_right, exists_or]
  rw [← mirrored.isSome_emailVerifiedAt mem, ← searched]
  simp only [buildContractorsWhere, Bool.and_eq_true, beq_iff_eq]
  tauto

theorem named_of_mem {services : Services} {database : AuthDatabase}
    (mirrored : Mirrored services database) {collation : Collation} {folding : likeMarks.Folding}
    {offers : List Offer}
    (mem : row ∈ rows { collation, folding, offers, profiles := database.profiles } query) :
    ∃ name, row.user.companyName = some name := by
  rcases mem_rows.mp mem with ⟨isProfile, listed⟩
  have isCompany := ((where_iff mirrored isProfile).mp listed).1
  exact Option.isSome_iff_exists.mp ((mirrored.profile_valid isProfile).isCompany.mpr isCompany)

theorem getById_eq_some (unique : (catalogue.profiles.map (·.id)).Nodup) {contractorId : String}
    {card : ContractorCard} :
    getById catalogue contractorId = some card ↔
      ∃ isUuid, ∃ row ∈ rows catalogue none, row.id = UuidText.value ⟨contractorId, isUuid⟩ ∧
        toContractorCard catalogue row = card := by
  rw [getById]
  split
  case isFalse invalid => simp [invalid]
  case isTrue valid =>
    simp only [valid, exists_true_left, Option.map_eq_some_iff]
    constructor
    · rintro ⟨row, found, isCard⟩
      have named := List.find?_some found
      simp only [Bool.and_eq_true, beq_iff_eq] at named
      exact ⟨row, mem_rows.mpr ⟨List.mem_of_find?_eq_some found, named.1⟩, named.2, isCard⟩
    · rintro ⟨row, mem, isId, isCard⟩
      rcases mem_rows.mp mem with ⟨isProfile, listed⟩
      refine ⟨row, Rows.find?_eq_some_of_sole isProfile (by simp [listed, isId]) ?_, isCard⟩
      intro other otherMem named
      simp only [Bool.and_eq_true, beq_iff_eq] at named
      exact Rows.eq_of_key unique otherMem isProfile (named.2.trans isId.symm)

/-- The catalogue, whatever became of the accounts.  Read page by page, whatever the size of a
page, the list shows each company with a confirmed account, as its profile is, and no one else,
once and in the order of the names; with a text, those that have it in their name or their city.
No name is missing.
Every page tells how many there are, and there is nothing after the last one.  A card opens exactly
for who is in the list, shows the same as the list does and the address of the account. -/
theorem catalogue_lists_companies (services : Services)
    (statements : List AuthDatabase.Statement) (collation : Collation)
    (folding : likeMarks.Folding) (offers : List Offer) (pageSize : Option ℕ)
    (query : Option String) :
    let database := Runs.run (AuthDatabase.step services) AuthDatabase.empty statements
    let catalogue : Catalogue := { collation, folding, offers, profiles := database.profiles }
    let answer (page : ℕ) := list catalogue ⟨⟨some page, pageSize⟩, query⟩
    ((shown catalogue pageSize query).map (·.id)).Nodup ∧
      (∀ item, item ∈ shown catalogue pageSize query ↔
        ∃ profile ∈ database.profiles, toListItem catalogue profile = item ∧
          profile.user.role = .company ∧
          (∃ account ∈ database.users, account.id = profile.id ∧
            account.emailConfirmedAt ≠ none) ∧
            ∀ text ∈ query, ∃ value,
              (profile.user.companyName = some value ∨ profile.user.city = some value) ∧
                ContainsText folding text value) ∧
      ((shown catalogue pageSize query).Pairwise fun first second =>
        ∃ firstName secondName, first.companyName = some firstName ∧
          second.companyName = some secondName ∧ collation.le firstName secondName = true) ∧
      (∀ page, (answer page).total = (shown catalogue pageSize query).length ∧
        ((answer page).totalPages < page → (answer page).items = [])) ∧
      (∀ contractorId card, getById catalogue contractorId = some card →
        card.toContractorListItem ∈ shown catalogue pageSize none ∧
          ∃ account ∈ database.users, account.id = card.id ∧ account.email = some card.email) ∧
      ∀ item ∈ shown catalogue pageSize none, ∃ card,
        getById catalogue item.id.toText = some card ∧ card.toContractorListItem = item := by
  intro database catalogue answer
  have mirrored : Mirrored services database := AuthDatabase.run_mirrored services statements
  refine ⟨?_, ?_, ?_, ?_, ?_, ?_⟩
  · rw [shown_eq, List.map_map]
    exact nodup_rows mirrored.uniqueProfiles
  · intro item
    rw [shown_eq, List.mem_map]
    constructor
    · rintro ⟨row, mem, rfl⟩
      rcases mem_rows.mp mem with ⟨isProfile, listed⟩
      exact ⟨row, isProfile, rfl, (where_iff mirrored isProfile).mp listed⟩
    · rintro ⟨row, isProfile, rfl, listed⟩
      exact ⟨row, mem_rows.mpr ⟨isProfile, (where_iff mirrored isProfile).mpr listed⟩, rfl⟩
  · rw [shown_eq, List.pairwise_map]
    apply pairwise_rows.imp_of_mem
    intro first second firstMem secondMem ordered
    rcases named_of_mem mirrored firstMem with ⟨firstName, isFirst⟩
    rcases named_of_mem mirrored secondMem with ⟨secondName, isSecond⟩
    refine ⟨firstName, secondName, isFirst, isSecond, ?_⟩
    simp only [orderBy, isFirst, isSecond, Option.getD_some] at ordered
    split at ordered
    case isTrue same => simpa [same] using collation.total secondName secondName
    case isFalse => exact ordered
  · intro page
    constructor
    · rw [shown_eq, List.length_map]
      rfl
    · intro outside
      have positive : page ≠ 0 := by omega
      rw [items_eq pageSize positive, Paging.page_eq_nil (pageSize_pos none pageSize) outside,
        List.map_nil]
  · intro contractorId card opened
    rcases (getById_eq_some mirrored.uniqueProfiles).mp opened with ⟨_, row, mem, -, rfl⟩
    rcases mirrored.account_of_profile (mem_rows.mp mem).1 with ⟨account, isAccount, same, mirrors⟩
    refine ⟨?_, account, isAccount, same, mirrors.email⟩
    rw [shown_eq]
    exact List.mem_map_of_mem mem
  · intro item mem
    rw [shown_eq, List.mem_map] at mem
    rcases mem with ⟨row, rowMem, rfl⟩
    refine ⟨toContractorCard catalogue row, ?_, rfl⟩
    rw [getById_eq_some mirrored.uniqueProfiles]
    exact ⟨UuidText.isUuid_toText row.id, row, rowMem, (UuidText.value_ofUuid row.id).symm, rfl⟩

/-- The account of a company, with a confirmed address. -/
def exampleCompany (id : Uuid) (email companyName : String) : AuthUserRow :=
  { AuthDatabase.exampleDemo with
    id
    email := some email
    rawAppMetaData := fun _ => none
    rawUserMetaData := fun key =>
      if key = "role" then some "COMPANY"
      else if key = "companyName" then some companyName
      else AuthDatabase.exampleDemo.rawUserMetaData key }

def exampleCompanies : List AuthDatabase.Statement :=
  [.insertUser 0 (exampleCompany ⟨1⟩ "b@b.test" "Град"),
    .insertUser 0 (exampleCompany ⟨2⟩ "a@b.test" "Арка")]

def exampleDatabase : AuthDatabase :=
  Runs.run (AuthDatabase.step AuthDatabase.exampleServices) AuthDatabase.empty exampleCompanies

theorem exampleDatabase_profiles :
    exampleDatabase.profiles.map (fun row => (row.id, row.user.role, row.user.companyName)) =
      [(⟨1⟩, .company, some "Град"), (⟨2⟩, .company, some "Арка")] := by
  decide +kernel

theorem exampleDatabase_confirmed :
    ∀ id ∈ [(⟨1⟩ : Uuid), ⟨2⟩], ∃ account ∈ exampleDatabase.users,
      account.id = id ∧ account.emailConfirmedAt ≠ none := by
  have users : exampleDatabase.users.map (fun row => (row.id, row.emailConfirmedAt)) =
      [(⟨1⟩, some 0), (⟨2⟩, some 0)] := by
    decide +kernel
  intro id mem
  have given : (id, some 0) ∈ exampleDatabase.users.map fun row =>
      (row.id, row.emailConfirmedAt) := by
    rw [users]
    simpa using mem
  rcases List.mem_map.mp given with ⟨account, isAccount, same⟩
  rcases Prod.mk.inj same with ⟨isId, confirmed⟩
  exact ⟨account, isAccount, isId, by simp [confirmed]⟩

def exampleCatalogue : Catalogue :=
  { collation := .codePoints
    folding := lowerFolding
    offers := []
    profiles := exampleDatabase.profiles }

/-- Two companies on two pages, in the order of their names. -/
theorem catalogue_lists_companies_example :
    (shown exampleCatalogue (some 1) none).map (·.companyName) = [some "Арка", some "Град"] := by
  rcases catalogue_lists_companies AuthDatabase.exampleServices exampleCompanies .codePoints
    lowerFolding [] (some 1) none with ⟨unique, members, ordered, -⟩
  change ((shown exampleCatalogue (some 1) none).map (·.id)).Nodup at unique
  change ∀ item, item ∈ shown exampleCatalogue (some 1) none ↔
    ∃ profile ∈ exampleDatabase.profiles, toListItem exampleCatalogue profile = item ∧
      profile.user.role = .company ∧ (∃ account ∈ exampleDatabase.users, _ ∧ _) ∧ _ at members
  rcases List.map_eq_cons_iff.mp exampleDatabase_profiles with ⟨grad, rest, isRows, isGrad, others⟩
  rcases List.map_eq_cons_iff.mp others with ⟨arka, empty, rfl, isArka, isEmpty⟩
  rw [List.map_eq_nil_iff.mp isEmpty] at isRows
  simp only [Prod.mk.injEq] at isGrad isArka
  have distinct : [toListItem exampleCatalogue arka, toListItem exampleCatalogue grad].Nodup := by
    apply List.Nodup.of_map (·.id)
    simp [toListItem, isGrad.1, isArka.1]
  have perm : (shown exampleCatalogue (some 1) none).Perm
      [toListItem exampleCatalogue arka, toListItem exampleCatalogue grad] := by
    apply (List.perm_ext_iff_of_nodup (List.Nodup.of_map _ unique) distinct).mpr
    intro item
    rw [members, isRows]
    have gradConfirmed := exampleDatabase_confirmed ⟨1⟩ (by simp)
    have arkaConfirmed := exampleDatabase_confirmed ⟨2⟩ (by simp)
    rw [← isGrad.1] at gradConfirmed
    rw [← isArka.1] at arkaConfirmed
    constructor
    · rintro ⟨profile, mem, rfl, -⟩
      rcases List.mem_pair.mp mem with rfl | rfl <;> simp
    · intro mem
      rcases List.mem_pair.mp mem with rfl | rfl
      · exact ⟨arka, by simp, rfl, isArka.2.1, arkaConfirmed, fun text given => nomatch given⟩
      · exact ⟨grad, by simp, rfl, isGrad.2.1, gradConfirmed, fun text given => nomatch given⟩
  have names : ((shown exampleCatalogue (some 1) none).map (·.companyName)).Perm
      [some "Арка", some "Град"] := by
    simpa [toListItem, isGrad.2.2, isArka.2.2] using perm.map (·.companyName)
  let Before (first second : Option String) : Prop := ∃ firstName secondName,
    first = some firstName ∧ second = some secondName ∧
      Collation.codePoints.le firstName secondName = true
  have sorted : ((shown exampleCatalogue (some 1) none).map (·.companyName)).Pairwise Before :=
    List.pairwise_map.mpr ordered
  have inOrder : [some "Арка", some "Град"].Pairwise Before :=
    List.pairwise_pair.mpr ⟨"Арка", "Град", rfl, rfl, by decide⟩
  apply List.Perm.eq_of_pairwise _ sorted inOrder names
  rintro first second _ _ ⟨name, other, rfl, rfl, before⟩ ⟨_, _, same, again, after⟩
  rw [← Option.some.inj same, ← Option.some.inj again] at after
  rw [Collation.codePoints.antisymm before after]

end ContractorsService

end MyBuild
