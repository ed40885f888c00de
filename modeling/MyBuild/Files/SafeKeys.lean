import MyBuild.Files.FileValidation
import MyBuild.Files.StorageKeys

/-!
# The keys are safe paths

A key is a path of five parts, and the last one comes from the user.  Whatever passes the
checks of a name, the name in the key has ASCII letters, digits, points, underscores and
hyphens alone, so that no part can be empty, point upwards, or break into several.
-/

namespace MyBuild

def isSafeKeyChar (char : Char) : Bool :=
  char.isAlphanum || char == '.' || char == '_' || char == '-'

/-- A part of a path that names an entry of the directory it is in. -/
structure IsSafeSegment (segment : List Char) : Prop where
  nonempty : segment ≠ []
  notHere : segment ≠ ".".toList
  notUp : segment ≠ "..".toList
  chars : ∀ char ∈ segment, isSafeKeyChar char = true

/-- The key is a path of five safe parts of bounded length. -/
structure IsSafeKey (orderId : String) (ownerType : FileOwnerType) (submissionRound : ℕ)
    (key : String) : Prop where
  segments : ∃ name, key.toList.splitOn '/' =
    ["orders".toList, orderId.toList, ownerType.toKeyPart.toList, Nat.toDigits 10 submissionRound,
      name]
  safe : ∀ segment ∈ key.toList.splitOn '/', IsSafeSegment segment
  length : key.length ≤ 155 + (Nat.toDigits 10 submissionRound).length
  columnLength : submissionRound ≤ 2147483647 → key.length ≤ 165

variable {endsWord : List Char → List Char → Bool} {name cleaned declared mimeType : String}

theorem isSafeStemChar_of_mem_safeStem {stem : List Char} {char : Char}
    (mem : char ∈ safeStem endsWord stem) : isSafeStemChar char = true := by
  have joined := Pieces.mem_of_mem_trim (List.mem_of_mem_take mem)
  rcases Pieces.mem_collapse joined with rfl | ⟨replaced, _⟩
  · rfl
  · rcases Pieces.mem_collapse replaced with rfl | ⟨_, wanted⟩
    · rfl
    · simpa using wanted

theorem length_safeStem_le (stem : List Char) : (safeStem endsWord stem).length ≤ 80 := by
  simp only [safeStem, List.length_take, maxSafeNameLength]
  omega

theorem afterLast_append {before after : List Char} {isSeparator : Char → Bool}
    (none : ∀ char ∈ after, isSeparator char = false) :
    Pieces.afterLast isSeparator (before ++ after) =
      Pieces.afterLast isSeparator before ++ after := by
  have kept : ∀ char ∈ after.reverse, (!isSeparator char) = true := by
    intro char mem
    simp [none char (List.mem_reverse.mp mem)]
  simp only [Pieces.afterLast, List.rtakeWhile, List.reverse_append]
  rw [List.takeWhile_append_of_pos kept]
  simp

/-- The last part of an accepted name: its ending is the same, and what stood before the point
may have gone with the path. -/
theorem toList_baseName {stem ending : List Char}
    (split : cleaned.toList = stem ++ '.' :: ending)
    (allowed : isAllowedEnding ('.' :: ending) = true) :
    ∃ front, (trim (String.ofList (Pieces.afterLast isPathSeparator cleaned.toList))).toList =
      front ++ '.' :: ending := by
  have ofEnding : ∀ char ∈ '.' :: ending, IsEndingChar char := fun char mem =>
    isEndingChar_of_mem allowed mem
  have noSeparator : ∀ char ∈ '.' :: ending, isPathSeparator char = false := by
    intro char mem
    rcases (ofEnding char mem).isLetter with isLetter | rfl
    · simp only [isPathSeparator, Bool.or_eq_false_iff, beq_eq_false_iff_ne]
      constructor
      · rintro rfl
        simp at isLetter
      · rintro rfl
        simp at isLetter
    · rfl
  have noSpace : ending.rdropWhile isWhitespace = ending := by
    rw [List.rdropWhile_eq_self_iff]
    intro some isSpace
    have stays := (ofEnding _ (List.mem_cons_of_mem _ (List.getLast_mem some))).notSpace
    rw [stays] at isSpace
    exact absurd isSpace Bool.false_ne_true
  refine ⟨(Pieces.afterLast isPathSeparator stem).dropWhile isWhitespace, ?_⟩
  rw [toList_trim, String.toList_ofList, split, afterLast_append noSeparator,
    Pieces.trim_append_cons (by decide), noSpace]

/-- The name in the key, whatever was accepted. -/
structure IsSafeName (name : List Char) : Prop where
  chars : ∀ char ∈ name, isSafeKeyChar char = true
  length : name.length ≤ 85

theorem isSafeKeyChar_of_isSafeStemChar {char : Char} (safe : isSafeStemChar char = true) :
    isSafeKeyChar char = true := by
  simp only [isSafeStemChar, Bool.or_eq_true] at safe
  have alphanumeric : char.isAlphanum = ((char.isUpper || char.isLower) || char.isDigit) := rfl
  simp only [isSafeKeyChar, alphanumeric, Bool.or_eq_true]
  tauto

theorem isSafeName_append {stem extension : List Char}
    (safe : ∀ char ∈ extension, isSafeKeyChar char = true) (short : extension.length ≤ 5) :
    IsSafeName ((if (safeStem endsWord stem).isEmpty then "file".toList
      else safeStem endsWord stem) ++ extension) := by
  have front : ∀ char ∈ (if (safeStem endsWord stem).isEmpty then "file".toList
      else safeStem endsWord stem), isSafeKeyChar char = true := by
    split
    · exact List.all_eq_true.mp (show "file".toList.all isSafeKeyChar = true by decide +kernel)
    · exact fun char mem => isSafeKeyChar_of_isSafeStemChar (isSafeStemChar_of_mem_safeStem mem)
  have frontLength : (if (safeStem endsWord stem).isEmpty then "file".toList
      else safeStem endsWord stem).length ≤ 80 := by
    split
    · decide
    · exact length_safeStem_le stem
  constructor
  · intro char mem
    rcases List.mem_append.mp mem with ofStem | ofExtension
    · exact front char ofStem
    · exact safe char ofExtension
  · rw [List.length_append]
    omega

theorem allowedFileExtension_safe {extension : String} (mem : extension ∈ allowedFileExtensions) :
    (∀ char ∈ extension.toList, isSafeKeyChar char = true) ∧ extension.toList.length ≤ 5 := by
  have known : (allowedFileExtensions.all fun extension =>
      extension.toList.all isSafeKeyChar && extension.toList.length ≤ 5) = true := by
    decide +kernel
  have facts := List.all_eq_true.mp known _ mem
  rw [Bool.and_eq_true, List.all_eq_true, decide_eq_true_eq] at facts
  exact facts

theorem isSafeName_sanitizeFileName (accepted : assertFileName name = .ok cleaned)
    (resolved : resolveMimeType endsWord cleaned declared = .ok mimeType) :
    IsSafeName (sanitizeFileName endsWord cleaned).toList := by
  have isClean := (assertFileName_eq_ok_iff.mp accepted).1
  rcases fileExtension_mem_allowed_iff.mp (allowed_of_resolveMimeType resolved) with
    ⟨stem, ending, split, last, _, allowed⟩
  rw [← toList_trim, isClean, trim_cleanFileName, ← isClean] at split
  rcases toList_baseName split allowed with ⟨front, base⟩
  simp only [sanitizeFileName, String.toList_ofList]
  have trimmed : Pieces.trim isWhitespace
      (trim (String.ofList (Pieces.afterLast isPathSeparator cleaned.toList))).toList =
        front ++ '.' :: ending := by
    rw [← base, toList_trim, Pieces.trim_trim]
  have extension := @fileExtension_of_point endsWord _ _ _ trimmed last
  have safe : (∀ char ∈ (fileExtension endsWord (trim (String.ofList (Pieces.afterLast
      isPathSeparator cleaned.toList)))).toList, isSafeKeyChar char = true) ∧
      (fileExtension endsWord (trim (String.ofList (Pieces.afterLast isPathSeparator
        cleaned.toList)))).toList.length ≤ 5 := by
    rw [extension]
    split
    · simp
    · exact allowedFileExtension_safe (toLowerCase_mem_allowed_iff.mpr allowed)
  exact isSafeName_append safe.1 safe.2

theorem isSafeKeyChar_of_hex {char : Char} (allowed : isHexDigit char = true ∨ char = '-') :
    isSafeKeyChar char = true := by
  have known : (uuidChars.all isSafeKeyChar) = true := by decide +kernel
  exact List.all_eq_true.mp known char (mem_uuidChars allowed)

theorem IsSafeSegment.of_mem {segment : List Char} {char : Char} (mem : char ∈ segment)
    (notPoint : char ≠ '.') (safe : ∀ char ∈ segment, isSafeKeyChar char = true) :
    IsSafeSegment segment := by
  refine ⟨List.ne_nil_of_mem mem, ?_, ?_, safe⟩
  · rintro rfl
    simp [notPoint] at mem
  · rintro rfl
    simp [notPoint] at mem

theorem length_toDigits_le {round : ℕ} (bound : round ≤ 2147483647) :
    (Nat.toDigits 10 round).length ≤ 10 := by
  exact (Nat.length_toDigits_le_iff (by omega) (by omega)).mpr (by omega)

theorem isSafeSegment_orders : IsSafeSegment "orders".toList :=
  IsSafeSegment.of_mem (show 'o' ∈ "orders".toList by decide) (by decide)
    (List.all_eq_true.mp (show "orders".toList.all isSafeKeyChar = true by decide +kernel))

theorem isSafeSegment_orderId (orderId : UuidText) : IsSafeSegment orderId.text.toList := by
  have length := length_of_isUuid orderId.isUuid
  refine ⟨?_, ?_, ?_, fun char mem => isSafeKeyChar_of_hex (hexDigit_or_hyphen orderId.isUuid mem)⟩
  · rintro none
    simp [none] at length
  · rintro here
    simp [here] at length
  · rintro up
    simp [up] at length

theorem isSafeSegment_owner (ownerType : FileOwnerType) :
    IsSafeSegment ownerType.toKeyPart.toList := by
  have known : ownerType.toKeyPart.toList.contains 'c' = true ∧
      ownerType.toKeyPart.toList.all isSafeKeyChar = true := by
    cases ownerType <;> decide +kernel
  exact IsSafeSegment.of_mem (List.contains_iff_mem.mp known.1) (by decide)
    (List.all_eq_true.mp known.2)

theorem isSafeSegment_round (round : ℕ) : IsSafeSegment (Nat.toDigits 10 round) := by
  rcases List.exists_mem_of_ne_nil _ (@Nat.toDigits_ne_nil round 10) with ⟨digit, mem⟩
  have notPoint : digit ≠ '.' := by
    rintro rfl
    simpa using Decimal.toDigits_isDigit mem
  apply IsSafeSegment.of_mem mem notPoint
  intro char charMem
  simp [isSafeKeyChar, Char.isAlphanum, Decimal.toDigits_isDigit charMem]

theorem isSafeSegment_name {hash name : List Char}
    (safeHash : ∀ char ∈ hash, isHexDigit char = true) (safeName : IsSafeName name) :
    IsSafeSegment (hash ++ '-' :: name) := by
  apply @IsSafeSegment.of_mem _ '-' (by simp) (by decide)
  intro char mem
  rcases List.mem_append.mp mem with ofHash | rest
  · exact isSafeKeyChar_of_hex (Or.inl (safeHash char ofHash))
  · rcases List.mem_cons.mp rest with rfl | ofName
    · rfl
    · exact safeName.chars char ofName

theorem isHexDigit_of_mem_hash {fileHash : String} {char : Char}
    (hashed : isSha256Hex fileHash = true) (mem : char ∈ fileHash.toList) :
    isHexDigit char = true := by
  simp only [isSha256Hex, Bool.and_eq_true, List.all_eq_true] at hashed
  have digit := hashed.2 char mem
  simp only [isHexDigit, digit, Bool.true_or]

/-- The parts of a key, from the first to the last. -/
def UploadTarget.segments (target : UploadTarget) : List (List Char) :=
  ["orders".toList, target.orderId.toList, target.ownerType.toKeyPart.toList,
    Nat.toDigits 10 target.submissionRound, target.hashPrefix ++ '-' :: target.file.safeName.toList]

namespace UploadTarget

theorem toList_key_eq_intercalate (target : UploadTarget) :
    target.key.toList = ['/'].intercalate target.segments := by
  rw [toList_key]
  simp [List.intercalate, segments]

theorem isSafeSegment_of_mem_segments {target : UploadTarget} {segment : List Char}
    (safeName : IsSafeName target.file.safeName.toList) (mem : segment ∈ target.segments) :
    IsSafeSegment segment := by
  have all : ∀ segment ∈ target.segments, IsSafeSegment segment := by
    simp only [segments, List.forall_mem_cons, List.not_mem_nil, false_imp_iff, implies_true,
      and_true]
    exact ⟨isSafeSegment_orders, isSafeSegment_orderId ⟨_, target.isUuid⟩, isSafeSegment_owner _,
      isSafeSegment_round _, isSafeSegment_name (fun char mem =>
        isHexDigit_of_mem_hash target.isHashed (List.mem_of_mem_take mem)) safeName⟩
  exact all segment mem

theorem length_key_le {target : UploadTarget}
    (safeName : IsSafeName target.file.safeName.toList) :
    target.key.length ≤ 155 + (Nat.toDigits 10 target.submissionRound).length := by
  have idLength := length_of_isUuid target.isUuid
  have ownerLength : target.ownerType.toKeyPart.toList.length ≤ 7 := by
    cases target.ownerType <;> decide
  have nameLength := safeName.length
  have hashLength := target.length_hashPrefix
  have ordersLength : "orders".toList.length = 6 := by decide
  rw [← String.length_toList, toList_key]
  simp only [List.length_append, List.length_cons, idLength]
  omega

/-- The key of a file with a safe name is a safe path of five parts. -/
theorem isSafeKey (target : UploadTarget) (safeName : IsSafeName target.file.safeName.toList) :
    IsSafeKey target.orderId target.ownerType target.submissionRound target.key := by
  have noSlash : ∀ segment ∈ target.segments, '/' ∉ segment := by
    intro segment mem slash
    have safe := isSafeSegment_of_mem_segments safeName mem
    exact absurd (safe.chars '/' slash) (by decide)
  have split := List.splitOn_intercalate '/' noSlash (by simp [segments])
  rw [← target.toList_key_eq_intercalate] at split
  have length := length_key_le safeName
  refine ⟨⟨_, split⟩, ?_, length, ?_⟩
  · intro segment mem
    exact isSafeSegment_of_mem_segments safeName (split ▸ mem)
  · intro bound
    have digits := length_toDigits_le bound
    exact length.trans (by omega)

/-- Where a file goes that the server has prepared. -/
def ofPrepared {sha256 : List UInt8 → String} {input : UploadedFileInput} {file : PreparedFile}
    (documented : ∀ content, isSha256Hex (sha256 content) = true)
    (prepared : prepareFile endsWord sha256 input = .ok file) (orderId : UuidText)
    (ownerType : FileOwnerType) (submissionRound : ℕ) : UploadTarget :=
  { orderId := orderId.text, ownerType, submissionRound, file
    isUuid := orderId.isUuid
    isHashed := (prepareFile_eq_ok.mp prepared).fileHash ▸ documented input.content }

/-- Every file the server has prepared goes under a safe key, with a content that is not empty,
not too large, and begins as its type does. -/
theorem ofPrepared_isSafeKey {sha256 : List UInt8 → String} {input : UploadedFileInput}
    {file : PreparedFile} (documented : ∀ content, isSha256Hex (sha256 content) = true)
    (prepared : prepareFile endsWord sha256 input = .ok file) (orderId : UuidText)
    (ownerType : FileOwnerType) (submissionRound : ℕ) :
    let target := ofPrepared documented prepared orderId ownerType submissionRound
    IsSafeKey orderId.text ownerType submissionRound target.key ∧
      0 < target.file.sizeBytes ∧ target.file.sizeBytes ≤ maxFileSizeBytes ∧
        hasSignature target.file.mimeType (input.content.take fileHeadBytes) = true := by
  intro target
  have isPrepared := prepareFile_eq_ok.mp prepared
  refine ⟨target.isSafeKey ?_, isPrepared.size.1, isPrepared.size.2, isPrepared.signature⟩
  change IsSafeName file.safeName.toList
  rw [isPrepared.safeName]
  exact isSafeName_sanitizeFileName isPrepared.originalName isPrepared.mimeType

end UploadTarget

/-- Whatever name is accepted, its key is a safe path of five parts. -/
theorem buildStorageKey_isSafeKey (orderId : UuidText) (ownerType : FileOwnerType)
    (submissionRound : ℕ) (file : PreparedFile) (hashed : isSha256Hex file.fileHash = true)
    (accepted : assertFileName name = .ok cleaned)
    (resolved : resolveMimeType endsWord cleaned declared = .ok mimeType)
    (named : file.safeName = sanitizeFileName endsWord cleaned) :
    IsSafeKey orderId.text ownerType submissionRound
      (buildStorageKey orderId.text ownerType submissionRound file) := by
  let target : UploadTarget :=
    { orderId := orderId.text, ownerType, submissionRound, file
      isUuid := orderId.isUuid, isHashed := hashed }
  apply target.isSafeKey
  change IsSafeName file.safeName.toList
  rw [named]
  exact isSafeName_sanitizeFileName accepted resolved

/-- A drawing sent with its whole path. -/
def examplePrepared : PreparedFile :=
  { originalName := "C:\\Users\\План этажа (финал).PDF"
    safeName := sanitizeFileName (fun _ _ => false) "C:\\Users\\План этажа (финал).PDF"
    mimeType := "application/pdf"
    sizeBytes := 21
    fileHash := "45b357f8edc52a00e4f9946627c237b389b16b768c051ffcea1fe6b0234d3d24" }

theorem buildStorageKey_isSafeKey_example :
    IsSafeKey "6f1c7a0e-0000-4000-8000-000000000001" .company 2
      (buildStorageKey "6f1c7a0e-0000-4000-8000-000000000001" .company 2 examplePrepared) :=
  @buildStorageKey_isSafeKey (fun _ _ => false) "C:\\Users\\План этажа (финал).PDF"
    "C:\\Users\\План этажа (финал).PDF" "application/octet-stream" "application/pdf"
    ⟨"6f1c7a0e-0000-4000-8000-000000000001", by decide +kernel⟩ .company 2 examplePrepared
    (by decide +kernel) (by decide +kernel) (by decide +kernel) rfl

end MyBuild
