import MyBuild.Files.FileValidation
import MyBuild.Frontend.OrderFiles

/-!
# Whether form and server agree on a name

Both sides measure the cleaned name, but the form looks for the extension in the name as it
was given, the server in the cleaned one.  They part where a character that cleaning takes out
stands in the extension, or makes up all that stands before the point.
-/

namespace MyBuild

/-- The server takes a file by its name and the type it is declared to have. -/
def serverTakesName (endsWord : List Char → List Char → Bool) (name declaredMimeType : String) :
    Bool :=
  match assertFileName name with
  | .error _ => false
  | .ok cleaned => (resolveMimeType endsWord cleaned declaredMimeType).toBool

/-- What cleaning leaves of the part before the last point, and of the part after it. -/
def cleanStem (stem : List Char) : List Char :=
  (stem.filter (!isUnsafeNameCharacter ·)).dropWhile isWhitespace

def cleanEnding (ending : List Char) : List Char :=
  (ending.filter (!isUnsafeNameCharacter ·)).rdropWhile isWhitespace

/-- The cleaned name is too long, or has no allowed ending; or an ending that cleaning leaves
alone still has something before it, if it had; or one that cleaning makes has nothing. -/
def CleaningKeepsName (name : String) : Prop :=
  maxFileNameLength < (cleanFileName name).toList.length ∨
    ∀ stem ending, Pieces.trim isWhitespace name.toList = stem ++ '.' :: ending → '.' ∉ ending →
      isAllowedEnding ('.' :: cleanEnding ending) = true →
        (cleanEnding ending = ending → stem ≠ [] → cleanStem stem ≠ []) ∧
          (cleanEnding ending ≠ ending → cleanStem stem = [])

/-- The form takes a file exactly when the server takes its name. -/
def FormAgrees (endsWord : List Char → List Char → Bool) (file : BrowserFile)
    (declaredMimeType : String) : Prop :=
  fileRejectionReason endsWord file = none ↔
    serverTakesName endsWord file.name declaredMimeType = true

variable {endsWord : List Char → List Char → Bool} {name declared : String} {file : BrowserFile}
  {stem ending : List Char}

theorem fileRejectionReason_eq_none_iff (nonempty : 0 < file.size)
    (small : file.size ≤ maxFileSizeBytes) : fileRejectionReason endsWord file = none ↔
      fileExtension endsWord file.name ∈ allowedFileExtensions ∧
        (cleanFileName file.name).toList.length ≤ maxFileNameLength := by
  have notEmpty : file.size ≠ 0 := by omega
  have notLarge : ¬maxFileSizeBytes < file.size := by omega
  simp only [fileRejectionReason]
  by_cases allowed : fileExtension endsWord file.name ∈ allowedFileExtensions
  · rw [if_neg (by simp [allowed]), if_neg notEmpty]
    by_cases long : maxFileNameLength < (cleanFileName file.name).toList.length
    · rw [if_pos long]
      simp only [reduceCtorEq, false_iff, not_and, not_le]
      exact fun _ => long
    · rw [if_neg long, if_neg notLarge]
      exact iff_of_true rfl ⟨allowed, by omega⟩
  · rw [if_pos (by simp [allowed])]
    simp [allowed]

theorem unknownMimeTypes_contains
    (unknown : declared = "" ∨ declared = "application/octet-stream") :
    unknownMimeTypes.contains (toLowerCase endsWord
      (trim (String.ofList (declared.toList.takeWhile (· != ';'))))) = true := by
  have isAscii : ∀ text : List Char, text.all (·.toNat < 128) = true →
      lowerChars endsWord [] text = text.map Char.toLower := by
    intro text small
    apply lowerChars_of_ascii
    intro char mem
    simpa using List.all_eq_true.mp small char mem
  rcases unknown with rfl | rfl
  · rw [toLowerCase, isAscii _ (by decide +kernel)]
    decide +kernel
  · rw [toLowerCase, isAscii _ (by decide +kernel)]
    decide +kernel

theorem resolveMimeType_toBool (unknown : declared = "" ∨ declared = "application/octet-stream") :
    (resolveMimeType endsWord name declared).toBool = true ↔
      fileExtension endsWord name ∈ allowedFileExtensions := by
  rw [← fileExtensionMime_lookup_isSome]
  cases found : fileExtensionMime.lookup (fileExtension endsWord name) with
  | none => simp [resolveMimeType, found, Except.toBool]
  | some expected =>
      simp only [resolveMimeType, found, unknownMimeTypes_contains unknown, if_true]
      simp [Except.toBool]

theorem serverTakesName_iff (unknown : declared = "" ∨ declared = "application/octet-stream") :
    serverTakesName endsWord name declared = true ↔
      (cleanFileName name).toList.length ≤ maxFileNameLength ∧
        fileExtension endsWord (cleanFileName name) ∈ allowedFileExtensions := by
  simp only [serverTakesName]
  cases judged : assertFileName name with
  | error refusal =>
      simp only [Bool.false_eq_true, false_iff, not_and]
      intro short allowed
      have empty : (cleanFileName name).toList = [] := by
        by_contra some
        have accepted := assertFileName_eq_ok_iff.mpr ⟨rfl, some, short⟩
        rw [judged] at accepted
        cases accepted
      rw [String.toList_eq_nil_iff.mp empty] at allowed
      rw [fileExtension_of_no_point (by decide)] at allowed
      exact empty_not_mem_allowed allowed
  | ok cleaned =>
      rcases assertFileName_eq_ok_iff.mp judged with ⟨rfl, _, short⟩
      simp only [resolveMimeType_toBool unknown]
      exact (and_iff_right short).symm

/-- Around the last point the cleaned name is what cleaning leaves of the two parts. -/
theorem toList_cleanFileName_of_point
    (split : Pieces.trim isWhitespace name.toList = stem ++ '.' :: ending) :
    Pieces.trim isWhitespace (cleanFileName name).toList =
      cleanStem stem ++ '.' :: cleanEnding ending := by
  rw [← toList_trim, trim_cleanFileName, toList_cleanFileName, ← Pieces.trim_filter_trim, split,
    List.filter_append, List.filter_cons_of_pos (by decide), Pieces.trim_append_cons (by decide)]
  rfl

theorem cleanEnding_of_allowed (allowed : isAllowedEnding ('.' :: ending) = true) :
    cleanEnding ending = ending := by
  have ofEnding : ∀ char ∈ ending, IsEndingChar char := fun char mem =>
    isEndingChar_of_mem allowed (List.mem_cons_of_mem _ mem)
  have kept : ending.filter (!isUnsafeNameCharacter ·) = ending :=
    List.filter_eq_self.mpr fun char mem => by simp [(ofEnding char mem).isKept]
  rw [cleanEnding, kept, List.rdropWhile_eq_self_iff]
  intro some isSpace
  rw [(ofEnding _ (List.getLast_mem some)).notSpace] at isSpace
  cases isSpace

theorem point_mem_of_cleaned (mem : '.' ∈ Pieces.trim isWhitespace (cleanFileName name).toList) :
    '.' ∈ Pieces.trim isWhitespace name.toList := by
  have cleaned := Pieces.mem_of_mem_trim mem
  rw [toList_cleanFileName] at cleaned
  have given := (List.mem_filter.mp (Pieces.mem_of_mem_trim cleaned)).1
  exact Pieces.mem_trim_of_mem given (by decide)

/-- Before and after cleaning the two parts are good together, unless cleaning reaches them. -/
theorem parts_agree_iff :
    (stem ≠ [] ∧ isAllowedEnding ('.' :: ending) = true ↔
        cleanStem stem ≠ [] ∧ isAllowedEnding ('.' :: cleanEnding ending) = true) ↔
      (isAllowedEnding ('.' :: cleanEnding ending) = true →
        (cleanEnding ending = ending → stem ≠ [] → cleanStem stem ≠ []) ∧
          (cleanEnding ending ≠ ending → cleanStem stem = [])) := by
  have keeps := @cleanEnding_of_allowed ending
  have hadStem : cleanStem stem ≠ [] → stem ≠ [] := by
    rintro some rfl
    exact some rfl
  constructor
  · intro agree allowed
    constructor
    · intro same some
      rw [same] at agree allowed
      exact (agree.mp ⟨some, allowed⟩).1
    · intro differ
      by_contra some
      exact differ (keeps (agree.mpr ⟨some, allowed⟩).2)
  · intro cut
    constructor
    · rintro ⟨some, allowed⟩
      have same := keeps allowed
      rw [same] at cut ⊢
      exact ⟨(cut allowed).1 rfl some, allowed⟩
    · rintro ⟨some, allowed⟩
      have same : cleanEnding ending = ending := by
        by_contra differ
        exact some ((cut allowed).2 differ)
      rw [same] at allowed
      exact ⟨hadStem some, allowed⟩

/-- A name has one last point. -/
theorem cleaningKeepsName_of_point
    (short : (cleanFileName name).toList.length ≤ maxFileNameLength)
    (split : Pieces.trim isWhitespace name.toList = stem ++ '.' :: ending) (last : '.' ∉ ending) :
    CleaningKeepsName name ↔
      (isAllowedEnding ('.' :: cleanEnding ending) = true →
        (cleanEnding ending = ending → stem ≠ [] → cleanStem stem ≠ []) ∧
          (cleanEnding ending ≠ ending → cleanStem stem = [])) := by
  constructor
  · rintro (long | cut)
    · omega
    · exact cut stem ending split last
  · intro cut
    right
    intro other otherEnding otherSplit otherLast
    rcases Pieces.last_cut_inj (split.symm.trans otherSplit) last otherLast with ⟨rfl, rfl⟩
    exact cut

theorem cleaningKeepsName_of_no_point (point : '.' ∉ Pieces.trim isWhitespace name.toList) :
    CleaningKeepsName name := by
  right
  intro stem ending split
  rw [split] at point
  simp at point

/-- Form and server agree on a name exactly when cleaning does not reach its extension. -/
theorem formAgrees_iff (nonempty : 0 < file.size) (small : file.size ≤ maxFileSizeBytes)
    (unknown : declared = "" ∨ declared = "application/octet-stream") :
    FormAgrees endsWord file declared ↔ CleaningKeepsName file.name := by
  rw [FormAgrees, fileRejectionReason_eq_none_iff nonempty small, serverTakesName_iff unknown]
  by_cases short : (cleanFileName file.name).toList.length ≤ maxFileNameLength
  · simp only [short, true_and, and_true]
    by_cases point : '.' ∈ Pieces.trim isWhitespace file.name.toList
    · rcases Pieces.exists_last point with ⟨stem, ending, split, last⟩
      have lastCleaned : '.' ∉ cleanEnding ending := fun mem =>
        last (List.mem_filter.mp ((List.rdropWhile_prefix _ _).subset mem)).1
      rw [fileExtension_mem_allowed_of_point split last,
        fileExtension_mem_allowed_of_point (toList_cleanFileName_of_point split) lastCleaned,
        cleaningKeepsName_of_point short split last]
      exact parts_agree_iff
    · have none : '.' ∉ Pieces.trim isWhitespace (cleanFileName file.name).toList := fun mem =>
        point (point_mem_of_cleaned mem)
      rw [fileExtension_of_no_point point, fileExtension_of_no_point none]
      exact iff_of_true Iff.rfl (cleaningKeepsName_of_no_point point)
  · have long : CleaningKeepsName file.name := Or.inl (not_le.mp short)
    simp [short, long]

/-- A mark of direction after the extension: the form looks at it, the server does not. -/
theorem not_formAgrees_of_mark :
    ¬∀ (endsWord : List Char → List Char → Bool) (file : BrowserFile) (declared : String),
      0 < file.size → file.size ≤ maxFileSizeBytes →
        declared = "" ∨ declared = "application/octet-stream" →
          FormAgrees endsWord file declared := by
  intro agrees
  have taken := (agrees (fun _ _ => false) ⟨"plan.pdf\u200E", 1⟩ "" (by decide) (by decide)
    (Or.inl rfl)).mpr (by decide +kernel)
  exact absurd taken (by decide +kernel)

theorem formAgrees_iff_example :
    FormAgrees (fun _ _ => false) ⟨"plan\u200E.pdf", 1⟩ "" ↔
      CleaningKeepsName "plan\u200E.pdf" :=
  @formAgrees_iff (fun _ _ => false) "" ⟨"plan\u200E.pdf", 1⟩ (by decide) (by decide) (Or.inl rfl)

end MyBuild
