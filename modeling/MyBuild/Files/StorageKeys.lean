import Mathlib.Logic.Function.Basic
import MyBuild.Common.Uuid
import MyBuild.Files.Service

/-!
# Keys of the bucket

An upload overwrites the object under its key, so two rows may share a key only when they
have the same content.  The parts of a key can be told apart: no part before the last has a
slash in it, and the digits of the hash are always sixteen.  But sixteen are not all of them:
two contents whose hashes begin alike, under one name, meet in one object.
-/

namespace MyBuild

/-- What `hashFile` returns: the digits of a SHA-256. -/
def isSha256Hex (fileHash : String) : Bool :=
  fileHash.toList.length == 64 &&
    fileHash.toList.all fun char => char.isDigit || ('a' ≤ char && char ≤ 'f')

structure StorageObject where
  body : List UInt8
  contentType : String

/-- Put an object into the bucket, over the one that is there. -/
def StorageService.upload (bucket : String → Option StorageObject) (key : String)
    (body : List UInt8) (contentType : String) : String → Option StorageObject :=
  Function.update bucket key (some { body, contentType })

/-- A prepared file with the place it goes to: an order named as in the request, an owner and a
round. -/
structure UploadTarget where
  orderId : String
  ownerType : FileOwnerType
  submissionRound : ℕ
  file : PreparedFile
  isUuid : isUuid orderId = true
  isHashed : isSha256Hex file.fileHash = true

namespace UploadTarget

def key (target : UploadTarget) : String :=
  buildStorageKey target.orderId target.ownerType target.submissionRound target.file

def hashPrefix (target : UploadTarget) : List Char :=
  target.file.fileHash.toList.take 16

/-- The targets share the order, the owner and the round, and the files have one hash. -/
structure SameContent (first second : UploadTarget) : Prop where
  orderId : first.orderId = second.orderId
  ownerType : first.ownerType = second.ownerType
  submissionRound : first.submissionRound = second.submissionRound
  fileHash : first.file.fileHash = second.file.fileHash

/-- One key is one content, and the bytes of the first outlive any upload of another content. -/
structure Separated (first second : UploadTarget) : Prop where
  contents : first.key = second.key → first.SameContent second
  bytes : ¬first.SameContent second → ∀ bucket body contentType,
    StorageService.upload bucket second.key body contentType first.key = bucket first.key

variable {first second : UploadTarget}

theorem length_hashPrefix (target : UploadTarget) : target.hashPrefix.length = 16 := by
  have isHashed := target.isHashed
  simp only [isSha256Hex, Bool.and_eq_true, beq_iff_eq] at isHashed
  simp [hashPrefix, isHashed.1]

theorem toList_key (target : UploadTarget) :
    target.key.toList = "orders".toList ++ '/' :: (target.orderId.toList ++ '/' ::
      (target.ownerType.toKeyPart.toList ++ '/' :: (Nat.toDigits 10 target.submissionRound ++
        '/' :: (target.hashPrefix ++ '-' :: target.file.safeName.toList)))) := by
  have spelled : target.key = "orders/" ++ target.orderId ++ "/" ++ target.ownerType.toKeyPart ++
      "/" ++ toString target.submissionRound ++ "/" ++ String.ofList target.hashPrefix ++ "-" ++
        target.file.safeName := rfl
  simp [spelled]

theorem toKeyPart_injective : Function.Injective FileOwnerType.toKeyPart := by
  intro first second same
  cases first <;> cases second <;> simp [FileOwnerType.toKeyPart] at same ⊢

theorem slash_not_mem_toKeyPart (ownerType : FileOwnerType) :
    '/' ∉ ownerType.toKeyPart.toList := by
  cases ownerType <;> simp [FileOwnerType.toKeyPart]

theorem slash_not_mem_toDigits (number : ℕ) : '/' ∉ Nat.toDigits 10 number := by
  intro mem
  have isDigit := Decimal.toDigits_isDigit mem
  simp at isDigit

theorem toDigits_injective : Function.Injective (Nat.toDigits 10) := by
  intro first second same
  have values := congrArg (fun digits => Nat.ofDigitChars 10 digits 0) same
  simpa using values

/-- Where the separator is in neither of the first parts, both parts can be told. -/
theorem append_separator_inj {separator : Char} {before after other rest : List Char}
    (noSeparator : separator ∉ before) (alsoNone : separator ∉ other)
    (same : before ++ separator :: after = other ++ separator :: rest) :
    before = other ∧ after = rest := by
  induction before generalizing other with
  | nil =>
      cases other with
      | nil => exact ⟨rfl, (List.cons.inj same).2⟩
      | cons char other =>
          have isSeparator := (List.cons.inj same).1
          exact absurd (by simp [isSeparator]) alsoNone
  | cons char before ih =>
      cases other with
      | nil =>
          have isSeparator := (List.cons.inj same).1
          exact absurd (by simp [isSeparator]) noSeparator
      | cons other others =>
          rcases List.cons.inj same with ⟨rfl, rests⟩
          rw [List.mem_cons, not_or] at noSeparator alsoNone
          rcases ih noSeparator.2 alsoNone.2 rests with ⟨rfl, rfl⟩
          exact ⟨rfl, rfl⟩

/-- A key is as good as its parts. -/
theorem key_eq_iff :
    first.key = second.key ↔
      first.orderId = second.orderId ∧ first.ownerType = second.ownerType ∧
        first.submissionRound = second.submissionRound ∧ first.hashPrefix = second.hashPrefix ∧
        first.file.safeName = second.file.safeName := by
  constructor
  · intro same
    have digits := congrArg String.toList same
    rw [toList_key, toList_key, List.append_right_inj, List.cons.injEq] at digits
    rcases append_separator_inj (slash_not_mem first.isUuid) (slash_not_mem second.isUuid)
      digits.2 with ⟨orderId, afterOrder⟩
    rcases append_separator_inj (slash_not_mem_toKeyPart _) (slash_not_mem_toKeyPart _)
      afterOrder with ⟨ownerType, afterOwner⟩
    rcases append_separator_inj (slash_not_mem_toDigits _) (slash_not_mem_toDigits _)
      afterOwner with ⟨submissionRound, afterRound⟩
    rcases List.append_inj afterRound
      (first.length_hashPrefix.trans second.length_hashPrefix.symm) with ⟨hashPrefix, name⟩
    refine ⟨String.toList_inj.mp orderId, toKeyPart_injective (String.toList_inj.mp ownerType),
      toDigits_injective submissionRound, hashPrefix, String.toList_inj.mp ?_⟩
    simpa using name
  · rintro ⟨orderId, ownerType, submissionRound, hashPrefix, safeName⟩
    apply String.toList_inj.mp
    rw [toList_key, toList_key, orderId, ownerType, submissionRound, hashPrefix, safeName]

theorem upload_of_ne (differ : first.key ≠ second.key) (bucket : String → Option StorageObject)
    (body : List UInt8) (contentType : String) :
    StorageService.upload bucket second.key body contentType first.key = bucket first.key :=
  Function.update_of_ne differ _ _

/-- The keys keep two contents apart exactly when their hashes do not begin alike, or their
names, rounds, owners or orders differ. -/
theorem separated_iff (first second : UploadTarget) :
    first.Separated second ↔
      (first.orderId = second.orderId → first.ownerType = second.ownerType →
        first.submissionRound = second.submissionRound →
        first.file.safeName = second.file.safeName → first.hashPrefix = second.hashPrefix →
        first.file.fileHash = second.file.fileHash) := by
  constructor
  · intro separated orderId ownerType submissionRound safeName hashPrefix
    have same := key_eq_iff.mpr ⟨orderId, ownerType, submissionRound, hashPrefix, safeName⟩
    exact (separated.contents same).fileHash
  · intro hashes
    have contents : first.key = second.key → first.SameContent second := by
      intro same
      rcases key_eq_iff.mp same with ⟨orderId, ownerType, submissionRound, hashPrefix, safeName⟩
      exact ⟨orderId, ownerType, submissionRound,
        hashes orderId ownerType submissionRound safeName hashPrefix⟩
    refine ⟨contents, ?_⟩
    intro differ
    exact upload_of_ne fun same => differ (contents same)

/-- A plan of twenty-one bytes with the given hash. -/
def exampleTarget (fileHash : String) (isHashed : isSha256Hex fileHash = true) : UploadTarget :=
  { orderId := "6f1c7a0e-0000-4000-8000-000000000001"
    ownerType := .company
    submissionRound := 1
    file :=
      { originalName := "plan.pdf", safeName := "plan.pdf", mimeType := "application/pdf"
        sizeBytes := 21, fileHash }
    isUuid := by decide +kernel
    isHashed }

/-- The bytes `%PDF-8cfda3505c937ad6` and `%PDF-d019595fc2133a25`: their hashes begin alike. -/
theorem not_separated_beginning_alike :
    ¬∀ first second : UploadTarget, first.Separated second := by
  intro separated
  have contents := (separated
    (exampleTarget "45b357f8edc52a00e4f9946627c237b389b16b768c051ffcea1fe6b0234d3d24"
      (by decide +kernel))
    (exampleTarget "45b357f8edc52a00aaebceb8ae9d92f9f9e9448fa3ee8669aaf09fc19d22eba2"
      (by decide +kernel))).contents (by decide +kernel)
  exact absurd contents.fileHash (by decide +kernel)

end UploadTarget

end MyBuild
