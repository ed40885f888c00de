import Mathlib.Algebra.Order.BigOperators.Group.List
import MyBuild.Files.Quota

/-!
# Files of an order

Attaching files has two halves with an upload in between.  Before the upload the files
that the submission already has are dropped; after it one transaction runs the caller's
guard, checks the quota by the rows as they are, and inserts what is still missing.
This module has the rows' side of it; the bucket, the reservations and the interleaving
of several calls are the subject of the later modules on files.
-/

namespace MyBuild

/-- A file that passed its checks: the type is canonical, the content hashed. -/
structure PreparedFile where
  originalName : String
  safeName : String
  mimeType : String
  sizeBytes : ℕ
  fileHash : String
  deriving DecidableEq

def FileOwnerType.toKeyPart : FileOwnerType → String
  | .client => "client"
  | .company => "company"

/-- The key of an object in the bucket: the first digits of the hash and a readable name. -/
def buildStorageKey (orderId : String) (ownerType : FileOwnerType) (submissionRound : ℕ)
    (file : PreparedFile) : String :=
  "orders/" ++ orderId ++ "/" ++ ownerType.toKeyPart ++ "/" ++ toString submissionRound ++
    "/" ++ String.ofList (file.fileHash.toList.take 16) ++ "-" ++ file.safeName

def sumSizes (files : List PreparedFile) : ℕ :=
  (files.map PreparedFile.sizeBytes).sum

def uniqueInBatch : List String → List PreparedFile → List PreparedFile
  | _, [] => []
  | seen, file :: files =>
      if file.fileHash ∈ seen then uniqueInBatch seen files
      else file :: uniqueInBatch (file.fileHash :: seen) files

/-- The row is the unique one for this content in this submission. -/
def OrderFile.isAt (submissionRound : ℕ) (fileHash : String) (row : OrderFile) : Bool :=
  row.submissionRound == submissionRound && row.fileHash == fileHash

namespace FilesService

/-- Drop what the submission already has: repeats within the batch and earlier uploads. -/
def dropDuplicates (rows : List OrderFile) (submissionRound : ℕ) (prepared : List PreparedFile) :
    List PreparedFile :=
  (uniqueInBatch [] prepared).filter fun file =>
    !rows.any (OrderFile.isAt submissionRound file.fileHash)

/-- Room taken by the other rows of the service: those of the client's other orders, and those
of the orders of other clients. -/
structure Elsewhere where
  client : ℕ
  others : ℕ

def orderBytes (rows : List OrderFile) : ℕ :=
  (rows.map OrderFile.sizeBytes).sum

def readStorageUsage (elsewhere : Elsewhere) (orderId : Uuid) : OrderTx StorageUsage := do
  let tables ← get
  if tables.order.id = orderId then
    return {
      order := orderBytes tables.files
      client := orderBytes tables.files + elsewhere.client
      total := orderBytes tables.files + elsewhere.client + elsewhere.others }
  else throw (.notFound "Заказ не найден")

def assertStorageQuota (elsewhere : Elsewhere) (orderId : Uuid) (uploader : FileOwnerType)
    (adding : List PreparedFile) : OrderTx Unit := do
  let usage ← readStorageUsage elsewhere orderId
  liftM (refuseOverQuota (checkStorageQuota usage (sumSizes adding) uploader))

def toRow (environment : Environment) (orderId : Uuid) (ownerType : FileOwnerType)
    (submissionRound : ℕ) (index : ℕ) (file : PreparedFile) : OrderFile :=
  { id := environment.fileId index
    orderId
    storageKey := buildStorageKey orderId.toText ownerType submissionRound file
    ownerType
    submissionRound
    fileHash := file.fileHash
    originalName := file.originalName
    mimeType := file.mimeType
    sizeBytes := file.sizeBytes
    createdAt := environment.now }

/-- The rows that are really inserted: one that is there already is skipped, whether it was
there before or came with the same batch. -/
def skipDuplicates : List OrderFile → List OrderFile → List OrderFile
  | _, [] => []
  | present, row :: rows =>
      if present.any (OrderFile.isAt row.submissionRound row.fileHash) then
        skipDuplicates present rows
      else row :: skipDuplicates (present ++ [row]) rows

def createFiles (rows : List OrderFile) : OrderTx (List OrderFile) := do
  let tables ← get
  let created := skipDuplicates tables.files rows
  set { tables with files := tables.files ++ created }
  return created

structure AttachFilesParams where
  orderId : Uuid
  ownerType : FileOwnerType
  submissionRound : ℕ
  guard : OrderTx Unit
  onAttached : List OrderFile → OrderTx Unit

/-- The transaction after the upload: the guard, the quota, the rows, the caller's addition. -/
def insertFiles (environment : Environment) (elsewhere : Elsewhere) (params : AttachFilesParams)
    (fresh : List PreparedFile) : OrderTx (List OrderFile) := do
  params.guard
  assertStorageQuota elsewhere params.orderId params.ownerType fresh
  let created ← createFiles (fresh.mapIdx (toRow environment params.orderId params.ownerType
    params.submissionRound))
  if created.length > 0 then params.onAttached created
  return created

variable {environment : Environment} {elsewhere : Elsewhere} {tables next : OrderTables}

theorem run_readStorageUsage_eq_ok {orderId : Uuid} {usage : StorageUsage} :
    (readStorageUsage elsewhere orderId).run tables = .ok (usage, next) ↔
      tables.order.id = orderId ∧ usage = {
        order := orderBytes tables.files
        client := orderBytes tables.files + elsewhere.client
        total := orderBytes tables.files + elsewhere.client + elsewhere.others } ∧
        next = tables := by
  simp only [readStorageUsage]
  rw [Transaction.run_get_bind]
  by_cases found : tables.order.id = orderId
  · rw [if_pos found, Transaction.run_pure_eq_ok, Prod.mk.injEq]
    simp [found]
  · rw [if_neg found, Transaction.run_throw]
    simp [found]

theorem run_assertStorageQuota_eq_ok {orderId : Uuid} {uploader : FileOwnerType}
    {adding : List PreparedFile} :
    (assertStorageQuota elsewhere orderId uploader adding).run tables = .ok ((), next) ↔
      tables.order.id = orderId ∧
        orderBytes tables.files + sumSizes adding ≤ maxOrderFilesBytes ∧
        orderBytes tables.files + elsewhere.client + sumSizes adding ≤ maxClientFilesBytes ∧
        orderBytes tables.files + elsewhere.client + elsewhere.others + sumSizes adding ≤
          maxTotalFilesBytes ∧ next = tables := by
  simp only [assertStorageQuota]
  rw [Transaction.run_bind_eq_ok]
  simp only [run_readStorageUsage_eq_ok, Transaction.run_liftM_eq_ok, refuseOverQuota_eq_ok_iff,
    checkStorageQuota_eq_none_iff]
  constructor
  · rintro ⟨_, _, ⟨found, rfl, rfl⟩, ⟨fitsOrder, fitsClient, fitsTotal⟩, rfl⟩
    exact ⟨found, fitsOrder, fitsClient, fitsTotal, rfl⟩
  · rintro ⟨found, fitsOrder, fitsClient, fitsTotal, rfl⟩
    exact ⟨_, _, ⟨found, rfl, rfl⟩, ⟨fitsOrder, fitsClient, fitsTotal⟩, rfl⟩

@[simp]
theorem run_createFiles (rows : List OrderFile) :
    (createFiles rows).run tables = .ok (skipDuplicates tables.files rows,
      { tables with files := tables.files ++ skipDuplicates tables.files rows }) := rfl

theorem skipDuplicates_sublist (present rows : List OrderFile) :
    (skipDuplicates present rows).Sublist rows := by
  induction rows generalizing present with
  | nil => exact List.Sublist.refl []
  | cons row rows ih =>
      simp only [skipDuplicates]
      split
      · exact (ih present).cons row
      · exact (ih (present ++ [row])).cons_cons row

theorem orderBytes_skipDuplicates_le (present rows : List OrderFile) :
    orderBytes (skipDuplicates present rows) ≤ orderBytes rows := by
  apply List.Sublist.sum_le_sum
  · exact (skipDuplicates_sublist present rows).map OrderFile.sizeBytes
  · simp

theorem orderBytes_toRow (orderId : Uuid) (ownerType : FileOwnerType) (submissionRound : ℕ)
    (files : List PreparedFile) :
    orderBytes (files.mapIdx (toRow environment orderId ownerType submissionRound)) =
      sumSizes files := by
  have sizes : (files.mapIdx (toRow environment orderId ownerType submissionRound)).map
      OrderFile.sizeBytes = files.map PreparedFile.sizeBytes := by
    apply List.ext_getElem
    · simp
    · intro index first second
      simp [toRow]
  exact congrArg List.sum sizes

/-- What the insert transaction that returned has done, the caller's parts left open. -/
theorem insertFiles_ok {params : AttachFilesParams} {fresh : List PreparedFile}
    {created : List OrderFile}
    (returned : (insertFiles environment elsewhere params fresh).run tables = .ok (created, next)) :
    ∃ guarded, params.guard.run tables = .ok ((), guarded) ∧
      guarded.order.id = params.orderId ∧
      orderBytes guarded.files + sumSizes fresh ≤ maxOrderFilesBytes ∧
      created = skipDuplicates guarded.files (fresh.mapIdx (toRow environment params.orderId
        params.ownerType params.submissionRound)) ∧
      (created = [] ∧ next = { guarded with files := guarded.files ++ created } ∨
        created ≠ [] ∧ (params.onAttached created).run
          { guarded with files := guarded.files ++ created } = .ok ((), next)) := by
  simp only [insertFiles] at returned
  rcases Transaction.run_bind_eq_ok.mp returned with ⟨_, guarded, ranGuard, afterGuard⟩
  rcases Transaction.run_bind_eq_ok.mp afterGuard with ⟨_, _, ranQuota, afterQuota⟩
  rcases run_assertStorageQuota_eq_ok.mp ranQuota with ⟨found, fits, _, _, rfl⟩
  rw [Transaction.run_bind_of_ok (run_createFiles _)] at afterQuota
  refine ⟨_, ranGuard, found, fits, ?_⟩
  split at afterQuota
  · rcases Transaction.run_bind_eq_ok.mp afterQuota with ⟨_, attached, ranAttached, ranPure⟩
    rw [Transaction.run_pure_eq_ok] at ranPure
    cases ranPure
    exact ⟨rfl, Or.inr ⟨List.ne_nil_of_length_pos ‹_›, ranAttached⟩⟩
  · cases Transaction.run_pure_eq_ok.mp afterQuota
    refine ⟨rfl, Or.inl ⟨?_, rfl⟩⟩
    exact List.eq_nil_of_length_eq_zero (by omega)

end FilesService

end MyBuild
