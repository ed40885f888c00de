import MyBuild.Files.Service
import MyBuild.Shared.FileNames

/-!
# Checks on an uploaded file

The server's rules for a file before it is stored: its name, its size, the type its extension
stands for, and the first bytes of its content.  The name under which it is stored is spelled
in ASCII; the name the user gave is kept beside it.
-/

namespace MyBuild

inductive FileRefusal where
  | badRequest (message : String)
  | payloadTooLarge (message : String)
  deriving DecidableEq, Repr

structure UploadedFileInput where
  originalName : String
  mimeType : String
  content : List UInt8

/-- Names that browsers and programs give to one and the same type. -/
def mimeAliases : List (String × String) :=
  [("application/pdf", "application/pdf"), ("image/png", "image/png"),
    ("image/jpeg", "image/jpeg"), ("image/jpg", "image/jpeg"), ("image/webp", "image/webp"),
    ("image/vnd.dwg", "image/vnd.dwg"), ("image/x-dwg", "image/vnd.dwg"),
    ("application/acad", "image/vnd.dwg"), ("application/x-acad", "image/vnd.dwg"),
    ("application/dxf", "application/dxf"), ("image/vnd.dxf", "application/dxf")]

def unknownMimeTypes : List String :=
  ["", "application/octet-stream", "binary/octet-stream"]

def maxSafeNameLength : ℕ := 80

def translit : List (Char × String) :=
  [('а', "a"), ('б', "b"), ('в', "v"), ('г', "g"), ('д', "d"), ('е', "e"), ('ё', "e"),
    ('ж', "zh"), ('з', "z"), ('и', "i"), ('й', "y"), ('к', "k"), ('л', "l"), ('м', "m"),
    ('н', "n"), ('о', "o"), ('п', "p"), ('р', "r"), ('с', "s"), ('т', "t"), ('у', "u"),
    ('ф', "f"), ('х', "h"), ('ц', "ts"), ('ч', "ch"), ('ш', "sh"), ('щ', "sch"), ('ъ', ""),
    ('ы', "y"), ('ь', ""), ('э', "e"), ('ю', "yu"), ('я', "ya")]

def namePreviewLength : ℕ := 40

def assertFileName (originalName : String) : Except FileRefusal String :=
  let name := cleanFileName originalName
  if name.toList.length = 0 then .error (.badRequest "У файла нет имени")
  else if maxFileNameLength < name.toList.length then
    .error (.badRequest ("Имя файла «" ++ String.ofList (name.toList.take namePreviewLength) ++
      "…» длиннее " ++ toString maxFileNameLength ++ " символов — переименуйте файл"))
  else .ok name

def assertUploadSize (originalName : String) (sizeBytes : ℕ) : Except FileRefusal Unit :=
  if sizeBytes = 0 then .error (.badRequest ("Файл «" ++ originalName ++ "» пустой"))
  else if maxFileSizeBytes < sizeBytes then
    .error (.payloadTooLarge ("Файл «" ++ originalName ++ "» больше " ++
      toString (maxFileSizeBytes / 1024 / 1024) ++ " МБ"))
  else .ok ()

def fileHeadBytes : ℕ := 16

/-- The beginning of a file of a type; a type without one is not checked. -/
def hasSignature (mimeType : String) (head : List UInt8) : Bool :=
  if mimeType = "application/pdf" then head.take 5 == [0x25, 0x50, 0x44, 0x46, 0x2D]
  else if mimeType = "image/png" then
    head.take 8 == [0x89, 0x50, 0x4E, 0x47, 0x0D, 0x0A, 0x1A, 0x0A]
  else if mimeType = "image/jpeg" then head.take 3 == [0xFF, 0xD8, 0xFF]
  else if mimeType = "image/webp" then
    head.take 4 == [0x52, 0x49, 0x46, 0x46] &&
      (head.take 12).drop 8 == [0x57, 0x45, 0x42, 0x50]
  else if mimeType = "image/vnd.dwg" then
    (head.take 2 == [0x41, 0x43]) && (head.take 6).length == 6 &&
      ((head.take 6).drop 2).all fun byte => 0x30 ≤ byte && byte ≤ 0x39
  else true

section Checks

variable (endsWord : List Char → List Char → Bool)

def assertFileSignature (originalName mimeType : String) (head : List UInt8) :
    Except FileRefusal Unit :=
  if hasSignature mimeType head then .ok ()
  else
    .error (.badRequest ("Файл «" ++ originalName ++ "»: содержимое не похоже на " ++
      String.ofList (((fileExtension endsWord originalName).toList.drop 1).map Char.toUpper)))

/-- The type by the extension, compared with the declared one unless that says nothing. -/
def resolveMimeType (originalName declaredMimeType : String) : Except FileRefusal String :=
  let extension := fileExtension endsWord originalName
  match fileExtensionMime.lookup extension with
  | none =>
      .error (.badRequest ("Файл «" ++ originalName ++
        "»: такой тип загрузить нельзя. Разрешены " ++ allowedFileExtensionsHint))
  | some expected =>
      let declared := toLowerCase endsWord
        (trim (String.ofList (declaredMimeType.toList.takeWhile (· != ';'))))
      if unknownMimeTypes.contains declared then .ok expected
      else if mimeAliases.lookup declared = some expected then .ok expected
      else
        .error (.badRequest ("Файл «" ++ originalName ++ "»: тип «" ++ declaredMimeType ++
          "» не совпадает с расширением «" ++ extension ++ "»"))

/-- Take UTF-16 units off the end of a text that is given backwards; half of a pair that is cut
through stays as a character that stands for nothing. -/
def dropUnits : ℕ → List Char → List Char
  | 0, chars => chars
  | _ + 1, [] => []
  | units + 1, char :: rest =>
      if utf16Width char = 1 then dropUnits units rest
      else if units = 0 then '\uFFFD' :: rest
      else dropUnits (units - 1) rest

def isPathSeparator (char : Char) : Bool := char == '/' || char == '\\'

def isSafeStemChar (char : Char) : Bool :=
  char.isLower || char.isDigit || char == '.' || char == '_' || char == '-'

def isStemEdge (char : Char) : Bool := char == '-' || char == '.' || char == '_'

def transliterate (chars : List Char) : List Char :=
  chars.flatMap fun char => ((translit.lookup char).map String.toList).getD [char]

def safeStem (stem : List Char) : List Char :=
  let transliterated := transliterate (lowerChars endsWord [] stem)
  let replaced := Pieces.collapse (!isSafeStemChar ·) '-' false transliterated
  let joined := Pieces.collapse (· == '-') '-' false replaced
  (Pieces.trim isStemEdge joined).take maxSafeNameLength

/-- The name in the key: the last part of a path, in ASCII. -/
def sanitizeFileName (originalName : String) : String :=
  let baseName := trim (String.ofList (Pieces.afterLast isPathSeparator originalName.toList))
  let extension := fileExtension endsWord baseName
  let stem :=
    if extension.toList.isEmpty then baseName.toList
    else (dropUnits (utf16Length extension) baseName.toList.reverse).reverse
  let safe := safeStem endsWord stem
  String.ofList ((if safe.isEmpty then "file".toList else safe) ++ extension.toList)

/-- The checks of a file in their order; the hash is the one of its content. -/
def prepareFile (sha256 : List UInt8 → String) (input : UploadedFileInput) :
    Except FileRefusal PreparedFile := do
  let originalName ← assertFileName input.originalName
  assertUploadSize originalName input.content.length
  let mimeType ← resolveMimeType endsWord originalName input.mimeType
  assertFileSignature endsWord originalName mimeType (input.content.take fileHeadBytes)
  return {
    originalName
    safeName := sanitizeFileName endsWord originalName
    mimeType
    sizeBytes := input.content.length
    fileHash := sha256 input.content }

end Checks

variable {endsWord : List Char → List Char → Bool} {name cleaned declared mimeType : String}

theorem assertFileName_eq_ok_iff : assertFileName name = .ok cleaned ↔
    cleaned = cleanFileName name ∧ (cleanFileName name).toList ≠ [] ∧
      (cleanFileName name).toList.length ≤ maxFileNameLength := by
  simp only [assertFileName]
  split
  case isTrue none =>
    simp [List.length_eq_zero_iff.mp none]
  case isFalse some =>
    have nonempty : (cleanFileName name).toList ≠ [] := fun none => some (by simp [none])
    split
    case isTrue long =>
      simp only [reduceCtorEq, false_iff, not_and, not_le]
      intro _ _
      exact long
    case isFalse short =>
      simp only [Except.ok.injEq, nonempty, ne_eq, not_false_eq_true, true_and, eq_comm]
      exact (and_iff_left (by omega)).symm

theorem assertUploadSize_eq_ok {sizeBytes : ℕ} : assertUploadSize name sizeBytes = .ok () ↔
    0 < sizeBytes ∧ sizeBytes ≤ maxFileSizeBytes := by
  simp only [assertUploadSize]
  split
  case isTrue empty => simp [empty]
  case isFalse given =>
    split
    case isTrue large =>
      simp only [reduceCtorEq, false_iff, not_and, not_le]
      exact fun _ => large
    case isFalse fits =>
      simp only [true_iff]
      omega

theorem assertFileSignature_eq_ok {head : List UInt8} :
    assertFileSignature endsWord name mimeType head = .ok () ↔
      hasSignature mimeType head = true := by
  simp only [assertFileSignature]
  split
  case isTrue isSigned => simp [isSigned]
  case isFalse unsigned => simp [unsigned]

/-- What every file that is stored has passed, and what is kept of it. -/
structure IsPrepared (endsWord : List Char → List Char → Bool) (sha256 : List UInt8 → String)
    (input : UploadedFileInput) (file : PreparedFile) : Prop where
  originalName : assertFileName input.originalName = .ok file.originalName
  size : 0 < file.sizeBytes ∧ file.sizeBytes ≤ maxFileSizeBytes
  mimeType : resolveMimeType endsWord file.originalName input.mimeType = .ok file.mimeType
  signature : hasSignature file.mimeType (input.content.take fileHeadBytes) = true
  safeName : file.safeName = sanitizeFileName endsWord file.originalName
  sizeBytes : file.sizeBytes = input.content.length
  fileHash : file.fileHash = sha256 input.content

theorem prepareFile_eq_ok {sha256 : List UInt8 → String} {input : UploadedFileInput}
    {file : PreparedFile} :
    prepareFile endsWord sha256 input = .ok file ↔ IsPrepared endsWord sha256 input file := by
  simp only [prepareFile, Except.bind_eq_ok, pure, Except.pure, Except.ok.injEq]
  constructor
  · rintro ⟨originalName, isName, _, size, mimeType, isType, _, isSigned, rfl⟩
    exact ⟨isName, assertUploadSize_eq_ok.mp size, isType, assertFileSignature_eq_ok.mp isSigned,
      rfl, rfl, rfl⟩
  · rintro ⟨isName, size, isType, isSigned, safeName, sizeBytes, fileHash⟩
    rcases file with ⟨originalName, safe, mimeType, bytes, hash⟩
    simp only at safeName sizeBytes fileHash
    subst safeName sizeBytes fileHash
    exact ⟨originalName, isName, (), assertUploadSize_eq_ok.mpr size, mimeType, isType, (),
      assertFileSignature_eq_ok.mpr isSigned, rfl⟩

theorem fileExtensionMime_lookup_isSome {extension : String} :
    (fileExtensionMime.lookup extension).isSome = true ↔ extension ∈ allowedFileExtensions := by
  rw [List.lookup_isSome_iff, allowedFileExtensions, List.mem_map]
  constructor
  · rintro ⟨entry, mem, same⟩
    exact ⟨entry, mem, (beq_iff_eq.mp same).symm⟩
  · rintro ⟨entry, mem, rfl⟩
    exact ⟨entry, mem, beq_self_eq_true _⟩

theorem allowed_of_resolveMimeType
    (resolved : resolveMimeType endsWord name declared = .ok mimeType) :
    fileExtension endsWord name ∈ allowedFileExtensions := by
  rw [← fileExtensionMime_lookup_isSome]
  cases found : fileExtensionMime.lookup (fileExtension endsWord name) with
  | none => simp [resolveMimeType, found] at resolved
  | some expected => rfl

end MyBuild
