import MyBuild.Shared.Text

/-!
# Names of files

The rule for names that the form and the server share: which characters are taken out of a
name, how long it may be, and which extensions are allowed.  An extension is what stands from
the last point on, unless nothing stands before the point.
-/

namespace MyBuild

def maxFileSizeBytes : ℕ := 20 * 1024 * 1024

def maxFileNameLength : ℕ := 255

def maxFilesPerRequest : ℕ := 10

/-- Control characters, and those that turn the direction of the text. -/
def unsafeNameCodeRanges : List (ℕ × ℕ) :=
  [(0x0000, 0x001F), (0x007F, 0x009F), (0x061C, 0x061C), (0x200E, 0x200F), (0x202A, 0x202E),
    (0x2066, 0x2069)]

def isUnsafeNameCharacter (char : Char) : Bool :=
  unsafeNameCodeRanges.any fun (first, last) => first ≤ char.toNat && char.toNat ≤ last

/-- The rule of the form and of the server alike: what is left of a name. -/
def cleanFileName (name : String) : String :=
  trim (String.ofList (name.toList.filter (!isUnsafeNameCharacter ·)))

def fileExtensionMime : List (String × String) :=
  [(".pdf", "application/pdf"), (".png", "image/png"), (".jpg", "image/jpeg"),
    (".jpeg", "image/jpeg"), (".webp", "image/webp"), (".dwg", "image/vnd.dwg"),
    (".dxf", "application/dxf")]

def allowedFileExtensions : List String := fileExtensionMime.map Prod.fst

def allowedFileExtensionsHint : String := "PDF, DWG, DXF, PNG, JPEG, WEBP"

/-- The extension in lower case with its point; empty when there is none. -/
def fileExtension (endsWord : List Char → List Char → Bool) (fileName : String) : String :=
  let trimmed := trim fileName
  match Pieces.lastIndexOf '.' trimmed.toList with
  | none => ""
  | some dot =>
      if 0 < dot then toLowerCase endsWord (String.ofList (trimmed.toList.drop dot)) else ""

/-- The end of a name, in whichever case, is that of an allowed type. -/
def isAllowedEnding (ending : List Char) : Bool :=
  allowedFileExtensions.contains (String.ofList (ending.map Char.toLower))

variable {endsWord : List Char → List Char → Bool} {name : String} {stem ending : List Char}

@[simp]
theorem toList_trim (text : String) : (trim text).toList = Pieces.trim isWhitespace text.toList :=
  String.toList_ofList

theorem toList_cleanFileName (name : String) : (cleanFileName name).toList =
    Pieces.trim isWhitespace (name.toList.filter (!isUnsafeNameCharacter ·)) := by
  simp [cleanFileName]

theorem trim_cleanFileName (name : String) : trim (cleanFileName name) = cleanFileName name := by
  apply String.toList_inj.mp
  rw [toList_trim, toList_cleanFileName, Pieces.trim_trim]

/-- What an allowed ending is made of. -/
structure IsEndingChar (char : Char) : Prop where
  isAscii : char.toNat < 128
  isLetter : char.isAlpha = true ∨ char = '.'
  lowerIsAlphanum : char.toLower.isAlphanum = true ∨ char = '.'
  notSpace : isWhitespace char = false
  isKept : isUnsafeNameCharacter char = false

theorem isEndingChar_of_mem {char : Char} (allowed : isAllowedEnding ending = true)
    (mem : char ∈ ending) : IsEndingChar char := by
  have lowered : char.toLower ∈ ".pdfngjewbx".toList := by
    have known : (allowedFileExtensions.all fun extension =>
        extension.toList.all (".pdfngjewbx".toList.contains ·)) = true := by
      decide +kernel
    have chars := List.all_eq_true.mp known _ (List.contains_iff_mem.mp allowed)
    rw [String.toList_ofList, List.all_eq_true] at chars
    exact List.contains_iff_mem.mp (chars _ (List.mem_map_of_mem mem))
  have isAscii : char.toNat < 128 := by
    by_contra notAscii
    rw [toLower_of_not_ascii (by omega)] at lowered
    have small : (".pdfngjewbx".toList.all (·.toNat < 128)) = true := by decide +kernel
    have bound := List.all_eq_true.mp small _ lowered
    simp only [decide_eq_true_eq] at bound
    exact notAscii bound
  have known : ((List.range 128).all fun code =>
      !".pdfngjewbx".toList.contains (Char.ofNat code).toLower ||
        (((Char.ofNat code).isAlpha || Char.ofNat code == '.') &&
          ((Char.ofNat code).toLower.isAlphanum || Char.ofNat code == '.') &&
          !isWhitespace (Char.ofNat code) && !isUnsafeNameCharacter (Char.ofNat code))) = true := by
    decide +kernel
  have facts := List.all_eq_true.mp known char.toNat (List.mem_range.mpr isAscii)
  rw [Char.ofNat_toNat, List.contains_iff_mem.mpr lowered] at facts
  simp only [Bool.not_true, Bool.false_or, Bool.and_eq_true, Bool.or_eq_true, beq_iff_eq,
    Bool.not_eq_true'] at facts
  exact ⟨isAscii, facts.1.1.1, facts.1.1.2, facts.1.2, facts.2⟩

theorem isPlain_allowedFileExtensions {extension : String}
    (mem : extension ∈ allowedFileExtensions) : extension.toList.all isPlain = true := by
  have known : (allowedFileExtensions.all (·.toList.all isPlain)) = true := by decide +kernel
  exact List.all_eq_true.mp known _ mem

theorem toLowerCase_mem_allowed_iff :
    toLowerCase endsWord (String.ofList ending) ∈ allowedFileExtensions ↔
      isAllowedEnding ending = true := by
  simp only [isAllowedEnding, List.contains_iff_mem, toLowerCase, String.toList_ofList]
  have same : ∀ {extension : String}, extension ∈ allowedFileExtensions →
      (lowerChars endsWord [] ending = extension.toList ↔
        ending.map Char.toLower = extension.toList) :=
    fun mem => lowerChars_eq_iff (isPlain_allowedFileExtensions mem)
  constructor
  · intro mem
    have lowered := (same mem).mp String.toList_ofList.symm
    rw [String.toList_ofList] at lowered
    rw [lowered]
    exact mem
  · intro mem
    have lowered := (same mem).mpr String.toList_ofList.symm
    rw [String.toList_ofList] at lowered
    rw [lowered]
    exact mem

theorem fileExtension_of_point
    (split : Pieces.trim isWhitespace name.toList = stem ++ '.' :: ending)
    (last : '.' ∉ ending) : fileExtension endsWord name =
      if stem = [] then "" else toLowerCase endsWord (String.ofList ('.' :: ending)) := by
  simp only [fileExtension, toList_trim, split, Pieces.lastIndexOf_append_cons last,
    List.drop_left, List.length_pos_iff, ne_eq, ite_not]

theorem fileExtension_of_no_point (none : '.' ∉ Pieces.trim isWhitespace name.toList) :
    fileExtension endsWord name = "" := by
  simp [fileExtension, Pieces.lastIndexOf_eq_none none]

theorem empty_not_mem_allowed : "" ∉ allowedFileExtensions := by
  decide

/-- An allowed extension: something before the last point, and an allowed ending after it. -/
theorem fileExtension_mem_allowed_of_point
    (split : Pieces.trim isWhitespace name.toList = stem ++ '.' :: ending)
    (last : '.' ∉ ending) : fileExtension endsWord name ∈ allowedFileExtensions ↔
      stem ≠ [] ∧ isAllowedEnding ('.' :: ending) = true := by
  rw [fileExtension_of_point split last]
  by_cases none : stem = []
  · rw [if_pos none]
    exact iff_of_false empty_not_mem_allowed fun both => both.1 none
  · rw [if_neg none, toLowerCase_mem_allowed_iff]
    exact (and_iff_right none).symm

theorem fileExtension_mem_allowed_iff :
    fileExtension endsWord name ∈ allowedFileExtensions ↔
      ∃ stem ending, Pieces.trim isWhitespace name.toList = stem ++ '.' :: ending ∧
        '.' ∉ ending ∧ stem ≠ [] ∧ isAllowedEnding ('.' :: ending) = true := by
  constructor
  · intro mem
    by_cases point : '.' ∈ Pieces.trim isWhitespace name.toList
    · rcases Pieces.exists_last point with ⟨stem, ending, split, last⟩
      exact ⟨stem, ending, split, last, (fileExtension_mem_allowed_of_point split last).mp mem⟩
    · rw [fileExtension_of_no_point point] at mem
      exact absurd mem empty_not_mem_allowed
  · rintro ⟨stem, ending, split, last, allowed⟩
    exact (fileExtension_mem_allowed_of_point split last).mpr allowed

end MyBuild
