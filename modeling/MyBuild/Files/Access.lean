import MyBuild.Common.Guards
import MyBuild.Orders.Coupling
import MyBuild.Orders.Detail

/-!
# Who may download a file

One policy on the files of an order is written three times: as a filter of the card, as
the check before a download, and as the condition of the list of documents.  The files of
the client are open to every company while the order accepts offers, the files of the
executor to the parties of the deal only.
-/

namespace MyBuild

namespace FilesService

def accessDenied : String := "Нет доступа к файлам этого заказа"

/-- What a company that does not own the order may download of it, by whose file it is. -/
def allowsFile (viewer : AuthUser) (ownerType : FileOwnerType) (tables : OrderTables) : Bool :=
  let ownOffer := tables.offers.find? (·.companyId == viewer.id)
  viewer.role == some .company &&
    match ownerType with
    | .client => companySeesTaskFiles tables.order.status (ownOffer.map Offer.status)
    | .company => ownOffer.any (isExecutorOffer ·.status)

def assertFileAccess (orderId : Uuid) (viewer : AuthUser) (ownerType : FileOwnerType) :
    OrderTx Unit := do
  let tables ← get
  if tables.order.id = orderId then
    if tables.order.clientId = viewer.id then return ()
    else if allowsFile viewer ownerType tables then return ()
    else throw (.forbidden accessDenied)
  else throw (.notFound "Заказ не найден")

end FilesService

structure DocumentScope where
  userId : Uuid
  ownerType : Option FileOwnerType
  orderId : Option Uuid

/-- The condition of the list of documents, on a file and the rows of its order. -/
def buildDocumentsWhere (scope : DocumentScope) (tables : OrderTables) (file : OrderFile) :
    Bool :=
  (tables.order.clientId == scope.userId ||
      tables.offers.any fun offer =>
        offer.companyId == scope.userId && executorOfferStatuses.contains offer.status) &&
    scope.ownerType.all (· == file.ownerType) && scope.orderId.all (· == file.orderId)

namespace OrderTables

/-- Every offer was sent from the account of a company. -/
def OffersByCompanies (users : Uuid → User) (tables : OrderTables) : Prop :=
  ∀ offer ∈ tables.offers, (users offer.companyId).role = .company

end OrderTables

/-- A submission comes from the account of a company, which is what the guard of its route
checks. -/
def Request.ByCompany (users : Uuid → User) : Request → Prop
  | .submitOffer _ _ companyId _ => (users companyId).role = .company
  | _ => True

section

variable {users : Uuid → User} {tables : OrderTables}

theorem OrderChange.offersByCompanies {kind : RequestKind} {next : OrderTables}
    (change : OrderChange tables kind next)
    (submitted : ∀ environment editedAt companyId dto,
      kind = .offerSubmission environment editedAt companyId dto →
        (users companyId).role = .company)
    (authors : tables.OffersByCompanies users) : next.OffersByCompanies users := by
  have ofCompanies : ∀ other : List Offer,
      other.map Offer.companyId = tables.offers.map Offer.companyId →
        ∀ offer ∈ other, (users offer.companyId).role = .company := by
    intro other same
    have listed : ∀ company ∈ other.map Offer.companyId, (users company).role = .company := by
      rw [same]
      exact List.forall_mem_map.mpr authors
    exact List.forall_mem_map.mp listed
  cases change with
  | offerCreated environment editedAt companyId dto _ _ _ =>
      intro offer mem
      rcases List.mem_append.mp mem with old | new
      · exact authors offer old
      · rw [List.mem_singleton.mp new]
        exact submitted _ _ _ _ rfl
  | offerEdited _ _ _ _ _ _ _ _ =>
      exact ofCompanies _ (Rows.map_updateWhere fun _ => rfl)
  | transition _ _ _ _ _ =>
      exact ofCompanies _ (OrderTransitionCommand.after_offers_map fun _ _ => rfl)
  | workSubmitted _ _ _ _ _ _ _ =>
      exact ofCompanies _ (Rows.map_updateWhere fun _ => rfl)
  | offersDropped demoIds =>
      intro offer mem
      exact authors offer (List.mem_of_mem_filter mem)
  | submissionOpened _ _ _ _ _ => exact authors
  | submissionFilled _ _ _ _ _ _ _ => exact authors
  | clientFilesAdded _ _ => exact authors
  | areaVerified _ _ _ => exact authors

/-- In a run whose submissions come from companies every offer is a company's. -/
theorem run_offersByCompanies {world : World} {requests : List Request}
    (wellFormed : world.WellFormed) (authors : world.tables.OffersByCompanies users)
    (guarded : Runs.Along World.step (fun _ request => request.ByCompany users) world requests) :
    (Runs.run World.step world requests).tables.OffersByCompanies users := by
  have preserved : ∀ (state : World) (request : Request), request.ByCompany users →
      state.WellFormed ∧ state.tables.OffersByCompanies users →
        (state.step request).WellFormed ∧
          (state.step request).tables.OffersByCompanies users := by
    rintro state request byCompany ⟨stateWellFormed, stateAuthors⟩
    refine ⟨stateWellFormed.step request, ?_⟩
    have submitted : ∀ environment editedAt companyId dto,
        request.kind = .offerSubmission environment editedAt companyId dto →
          (users companyId).role = .company := by
      intro environment editedAt companyId dto isKind
      cases request <;> cases isKind
      exact byCompany
    rcases World.step_changes stateWellFormed request with same | ⟨middle, change, same⟩
    · rw [OrderTables.OffersByCompanies, same.2.1]
      exact stateAuthors
    · rw [OrderTables.OffersByCompanies, same.2.1]
      exact change.offersByCompanies submitted stateAuthors
  exact (guarded.invariant preserved ⟨wellFormed, authors⟩).2

end

section

variable {users : Uuid → User} {tables : OrderTables} {user : AuthUser}

theorem FilesService.assertFileAccess_succeeds_iff {orderId : Uuid} {ownerType : FileOwnerType} :
    Transaction.succeeds (assertFileAccess orderId user ownerType) tables = true ↔
      tables.order.id = orderId ∧
        (tables.order.clientId = user.id ∨ allowsFile user ownerType tables = true) := by
  simp only [Transaction.succeeds, assertFileAccess, Transaction.run_get_bind]
  by_cases found : tables.order.id = orderId
  · by_cases isOwner : tables.order.clientId = user.id
    · simp only [found, isOwner, if_true, true_and, true_or, iff_true]
      rfl
    · by_cases allowed : allowsFile user ownerType tables
      · simp only [found, isOwner, allowed, if_true, if_false, true_and, or_true, iff_true]
        rfl
      · simp only [found, isOwner, allowed, if_true, if_false, Bool.false_eq_true, or_false,
          and_false, iff_false]
        exact Bool.false_ne_true
  · simp only [found, if_false, false_and, iff_false]
    exact Bool.false_ne_true

theorem FilesService.allowsFile_iff {ownerType : FileOwnerType} :
    allowsFile user ownerType tables = true ↔
      user.role = some .company ∧
        ((tables.offers.find? (·.companyId == user.id)).any (isExecutorOffer ·.status) = true ∨
          ownerType = .client ∧ acceptsOffers tables.order.status = true) := by
  simp only [allowsFile, Bool.and_eq_true, beq_iff_eq]
  cases tables.offers.find? (·.companyId == user.id) <;> cases ownerType <;>
    simp [companySeesTaskFiles]

theorem FilesService.mem_listOrderFiles {file : OrderFileDto} :
    file ∈ listOrderFiles tables ↔ ∃ row ∈ tables.files, toOrderFileDto row = file := by
  simp [listOrderFiles]

/-- Which files the card of a viewer lists, asked of the rows. -/
theorem OrdersService.mem_card_files (companies : (tables.offers.map Offer.companyId).Nodup)
    {viewer : Uuid} {file : OrderFile} (mem : file ∈ tables.files) :
    toOrderFileDto file ∈ (card users tables viewer).files ↔
      tables.order.clientId = viewer ∨
        (tables.offers.find? (·.companyId == viewer)).any (isExecutorOffer ·.status) = true ∨
        file.ownerType = .client ∧ acceptsOffers tables.order.status = true := by
  have listed : toOrderFileDto file ∈ (detailRow users tables).files :=
    FilesService.mem_listOrderFiles.mpr ⟨file, mem, rfl⟩
  have status : (detailRow users tables).status = tables.order.status := rfl
  have sameOwner : (toOrderFileDto file).ownerType = file.ownerType := rfl
  rcases @visibility_eq users tables viewer companies with ⟨_, ownOffer, _, isParty⟩
  simp only [card, toOrderDetail, visibleFiles, isParty, ownOffer, status]
  by_cases isOwner : tables.order.clientId = viewer
  · simp [isOwner, listed]
  · cases own : tables.offers.find? (·.companyId == viewer) with
    | none =>
        cases accepts : acceptsOffers tables.order.status <;>
          simp [isOwner, listed, companySeesTaskFiles, accepts, sameOwner]
    | some offer =>
        have sameStatus : (offer.toRow users).status = offer.status := rfl
        cases executes : isExecutorOffer offer.status <;>
          cases accepts : acceptsOffers tables.order.status <;>
            simp [isOwner, listed, companySeesTaskFiles, accepts, executes, sameStatus,
              sameOwner]

/-- The documents of a user: all files of the orders it owns or executes. -/
theorem buildDocumentsWhere_executes {scope : DocumentScope} {file : OrderFile}
    (companies : (tables.offers.map Offer.companyId).Nodup)
    (selected : buildDocumentsWhere scope tables file = true) :
    tables.order.clientId = scope.userId ∨
      ∃ offer ∈ tables.offers, offer.companyId = scope.userId ∧
        (tables.offers.find? (·.companyId == scope.userId)).any (isExecutorOffer ·.status) =
          true := by
  simp only [buildDocumentsWhere, Bool.and_eq_true, Bool.or_eq_true, beq_iff_eq,
    List.any_eq_true] at selected
  rcases selected.1.1 with isOwner | ⟨offer, mem, isOwn, executes⟩
  · exact Or.inl isOwner
  · right
    refine ⟨offer, mem, isOwn, ?_⟩
    rw [← isOwn, Rows.find?_eq_some_of_mem companies mem]
    exact executes

/-- Whoever may open the card of an order finds exactly those files on it that it may download,
and the list of documents holds nothing its reader may not download. -/
theorem file_rules_agree (users : Uuid → User) (tables : OrderTables) (user : AuthUser)
    (companies : (tables.offers.map Offer.companyId).Nodup)
    (authors : tables.OffersByCompanies users)
    (orderIds : ∀ file ∈ tables.files, file.orderId = tables.order.id)
    (matching : user.role = some (users user.id).role) :
    (Transaction.succeeds (OwnershipGuard.canActivate .viewer user tables.order.id) tables =
        true → ∀ file ∈ tables.files,
      (toOrderFileDto file ∈ (OrdersService.card users tables user.id).files ↔
        Transaction.succeeds (FilesService.assertFileAccess file.orderId user file.ownerType)
          tables = true)) ∧
      ∀ (ownerType : Option FileOwnerType) (orderId : Option Uuid), ∀ file ∈ tables.files,
        buildDocumentsWhere { userId := user.id, ownerType, orderId } tables file = true →
          Transaction.succeeds (FilesService.assertFileAccess file.orderId user file.ownerType)
            tables = true := by
  constructor
  · intro opened file mem
    rw [OrdersService.mem_card_files companies mem, FilesService.assertFileAccess_succeeds_iff,
      FilesService.allowsFile_iff]
    have found : tables.order.id = file.orderId := (orderIds file mem).symm
    by_cases isOwner : tables.order.clientId = user.id
    · simp [isOwner, found]
    · have isCompany : user.role = some .company := by
        cases allowed : OwnershipGuard.allows .viewer user tables with
        | true => simpa [OwnershipGuard.allows, isOwner] using allowed
        | false =>
            rw [Transaction.succeeds, run_ownershipGuard_error allowed] at opened
            cases opened
      simp [isOwner, isCompany, found]
  · intro ownerType orderId file mem selected
    rw [FilesService.assertFileAccess_succeeds_iff, FilesService.allowsFile_iff]
    refine ⟨(orderIds file mem).symm, ?_⟩
    have related := buildDocumentsWhere_executes companies selected
    dsimp only at related
    rcases related with isOwner | ⟨offer, offerMem, isOwn, executes⟩
    · exact Or.inl isOwner
    · have isCompany : (users user.id).role = .company := isOwn ▸ authors offer offerMem
      rw [isCompany] at matching
      exact Or.inr ⟨matching, Or.inl executes⟩

/-- An order with a file of the client, on which company 3 has offered. -/
def accessExample : OrderTables :=
  (reached ⟨1⟩ 7 Date.epoch ⟨2⟩ exampleOrder
    [.attachClientFiles (exampleEnvironment ⟨11⟩) ⟨0, 0⟩ ⟨1⟩
      [{ originalName := "plan.pdf", safeName := "plan.pdf", mimeType := "application/pdf"
         sizeBytes := 100, fileHash := "a" }],
      exampleSubmission ⟨3⟩ ⟨11⟩ 100]).tables

theorem file_rules_agree_offered :
    let users := (exampleEnvironment ⟨11⟩).users
    let user : AuthUser := ⟨⟨3⟩, some .company⟩
    let file := accessExample.files.head (by decide)
    (toOrderFileDto file ∈ (OrdersService.card users accessExample user.id).files ↔
      Transaction.succeeds (FilesService.assertFileAccess file.orderId user file.ownerType)
        accessExample = true) := by
  have agree := file_rules_agree (exampleEnvironment ⟨11⟩).users accessExample
    ⟨⟨3⟩, some .company⟩ (by decide) (fun _ _ => rfl) (by decide) (by decide)
  exact agree.1 (by decide) _ (List.head_mem _)

end

end MyBuild
