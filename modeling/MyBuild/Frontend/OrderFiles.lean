import MyBuild.Files.Quota
import MyBuild.Library.Admission
import MyBuild.Library.Grouping
import MyBuild.Shared.FileNames

/-!
# Files attached in the form

The form turns away what the server would refuse, before anything is sent, and keeps the list
of attached files within the limits of a request and of an order.
-/

namespace MyBuild

/-- A file that the user has picked. -/
structure BrowserFile where
  name : String
  size : ℕ
  deriving DecidableEq

def formatFileSize (bytes : ℕ) : String :=
  if bytes < 1024 then toString bytes ++ " Б"
  else if bytes < 1024 * 1024 then toString ((bytes + 512) / 1024) ++ " КБ"
  else toMegabytes bytes ++ " МБ"

section Form

variable (endsWord : List Char → List Char → Bool)

/-- Why a file cannot be attached. -/
def fileRejectionReason (file : BrowserFile) : Option String :=
  let name := (cleanFileName file.name).toList
  if !allowedFileExtensions.contains (fileExtension endsWord file.name) then
    some ("«" ++ file.name ++ "»: такой тип загрузить нельзя. Разрешены " ++
      allowedFileExtensionsHint)
  else if file.size = 0 then some ("«" ++ file.name ++ "»: файл пустой")
  else if maxFileNameLength < name.length then
    some ("«" ++ String.ofList (name.take 40) ++ "…»: имя длиннее " ++
      toString maxFileNameLength ++ " символов — переименуйте файл")
  else if maxFileSizeBytes < file.size then
    some ("«" ++ file.name ++ "»: больше " ++ toString (maxFileSizeBytes / 1024 / 1024) ++ " МБ")
  else none

def sameName (left right : BrowserFile) : Bool :=
  toLowerCase endsWord left.name == toLowerCase endsWord right.name

/-- The variables of the loop; `full` once it was left. -/
structure AddingFiles where
  files : List BrowserFile
  rejected : List String
  occupied : ℕ
  full : Bool

/-- One turn of the loop. -/
def addFile (takenNames : List String) (state : AddingFiles) (file : BrowserFile) : AddingFiles :=
  if state.full then state
  else
    match fileRejectionReason endsWord file with
    | some reason => { state with rejected := state.rejected ++ [reason] }
    | none =>
        if state.files.any (sameName endsWord · file) then
          { state with
            rejected := state.rejected ++ ["«" ++ file.name ++ "» уже в списке. Два файла с " ++
              "одинаковым именем в одну загрузку не добавить — переименуйте один из них"] }
        else if takenNames.contains (toLowerCase endsWord file.name) then
          { state with
            rejected := state.rejected ++ ["«" ++ file.name ++
              "» уже приложен — переименуйте файл или загрузите другой"] }
        else if maxFilesPerRequest ≤ state.files.length then
          { state with
            rejected := state.rejected ++ ["Больше " ++ toString maxFilesPerRequest ++
              " файлов за раз приложить нельзя"]
            full := true }
        else if maxOrderFilesBytes < state.occupied + file.size then
          { state with
            rejected := state.rejected ++ ["«" ++ file.name ++ "» не помещается: на заказ отведено "
              ++ formatFileSize maxOrderFilesBytes] }
        else
          { state with
            files := state.files ++ [file]
            occupied := state.occupied + file.size }

structure AddedFiles where
  files : List BrowserFile
  rejected : List String

def totalSize (files : List BrowserFile) : ℕ :=
  (files.map BrowserFile.size).sum

/-- The files attached so far, with those of the incoming ones that may join them. -/
def addFiles (current incoming : List BrowserFile) (usedBytes : ℕ) (taken : List String) :
    AddedFiles :=
  let takenNames := taken.map (toLowerCase endsWord)
  let state := incoming.foldl (addFile endsWord takenNames)
    { files := current, rejected := [], occupied := usedBytes + totalSize current, full := false }
  { files := state.files, rejected := Grouping.distinct state.rejected }

/-- The file may join those attached: no reason against it, a free name, and room left. -/
def fitsSelection (usedBytes : ℕ) (taken : List String) (files : List BrowserFile)
    (file : BrowserFile) : Bool :=
  (fileRejectionReason endsWord file).isNone && !files.any (sameName endsWord · file) &&
    !(taken.map (toLowerCase endsWord)).contains (toLowerCase endsWord file.name) &&
    files.length < maxFilesPerRequest &&
    usedBytes + totalSize files + file.size ≤ maxOrderFilesBytes

/-- The limits of the form, on the selection and on what the order has already. -/
structure WithinLimits (usedBytes : ℕ) (taken : List String) (files : List BrowserFile) :
    Prop where
  count : files.length ≤ maxFilesPerRequest
  names : (files.map fun file => toLowerCase endsWord file.name).Nodup
  notTaken : ∀ file ∈ files,
    toLowerCase endsWord file.name ∉ taken.map (toLowerCase endsWord)
  bytes : usedBytes + totalSize files ≤ maxOrderFilesBytes

/-- What adding files comes to. -/
structure AddsWithinLimits (current incoming : List BrowserFile) (usedBytes : ℕ)
    (taken : List String) (result : AddedFiles) : Prop where
  added : ∃ added, result.files = current ++ added ∧ added.Sublist incoming ∧
    ∀ file ∈ added, fileRejectionReason endsWord file = none
  limits : WithinLimits endsWord usedBytes taken result.files
  explained : result.files ≠ current ++ incoming → result.rejected ≠ []
  batches : ∀ batches : List (List BrowserFile), batches.flatten = incoming →
    batches.foldl (fun files batch => (addFiles endsWord files batch usedBytes taken).files)
      current = result.files

end Form

variable {endsWord : List Char → List Char → Bool} {usedBytes : ℕ} {taken : List String}
  {current incoming files : List BrowserFile} {file : BrowserFile}

theorem totalSize_append_singleton : totalSize (files ++ [file]) = totalSize files + file.size := by
  simp [totalSize]

/-- The variables of the loop after some of the files, against the rule by which a file joins. -/
structure AddingFiles.Follows (endsWord : List Char → List Char → Bool) (usedBytes : ℕ)
    (taken : List String) (current processed : List BrowserFile) (state : AddingFiles) :
    Prop where
  files : state.files =
    Admission.receiveAll (fitsSelection endsWord usedBytes taken) current processed
  occupied : state.occupied = usedBytes + totalSize state.files
  full : state.full = true → maxFilesPerRequest ≤ state.files.length
  explained : state.rejected = [] → state.full = false ∧ state.files = current ++ processed

/-- One turn: the loop was left, the file is turned away, it is the one that ends the loop, or
it joins the list. -/
theorem addFile_cases {state next : AddingFiles}
    (occupied : state.occupied = usedBytes + totalSize state.files)
    (isNext : addFile endsWord (taken.map (toLowerCase endsWord)) state file = next) :
    (state.full = true ∧ next = state) ∨
      (fitsSelection endsWord usedBytes taken state.files file = false ∧
        ∃ reason, next = { state with rejected := state.rejected ++ [reason] }) ∨
      (fitsSelection endsWord usedBytes taken state.files file = false ∧
        maxFilesPerRequest ≤ state.files.length ∧ ∃ reason,
          next = { state with rejected := state.rejected ++ [reason], full := true }) ∨
      (fitsSelection endsWord usedBytes taken state.files file = true ∧
        next = { state with
          files := state.files ++ [file], occupied := state.occupied + file.size }) := by
  subst isNext
  simp only [addFile]
  by_cases full : state.full = true
  · exact Or.inl ⟨full, by rw [if_pos full]⟩
  · rw [if_neg full]
    refine Or.inr ?_
    cases judged : fileRejectionReason endsWord file with
    | some reason => exact Or.inl ⟨by simp [fitsSelection, judged], reason, rfl⟩
    | none =>
        by_cases present : state.files.any (sameName endsWord · file) = true
        · simp only [if_pos present]
          exact Or.inl ⟨by simp only [fitsSelection, present]; simp, _, rfl⟩
        · by_cases isTaken : (taken.map (toLowerCase endsWord)).contains
              (toLowerCase endsWord file.name) = true
          · simp only [if_neg present, if_pos isTaken]
            exact Or.inl ⟨by simp only [fitsSelection, isTaken]; simp, _, rfl⟩
          · by_cases many : maxFilesPerRequest ≤ state.files.length
            · simp only [if_neg present, if_neg isTaken, if_pos many]
              have noRoom : ¬state.files.length < maxFilesPerRequest := by omega
              exact Or.inr (Or.inl ⟨by simp [fitsSelection, noRoom], many, _, rfl⟩)
            · have room : state.files.length < maxFilesPerRequest := by omega
              by_cases large : maxOrderFilesBytes < state.occupied + file.size
              · simp only [if_neg present, if_neg isTaken, if_neg many, if_pos large]
                have tooLarge : ¬usedBytes + totalSize state.files + file.size ≤
                    maxOrderFilesBytes := by omega
                exact Or.inl ⟨by simp [fitsSelection, tooLarge], _, rfl⟩
              · simp only [if_neg present, if_neg isTaken, if_neg many, if_neg large]
                have small : usedBytes + totalSize state.files + file.size ≤
                    maxOrderFilesBytes := by omega
                rw [Bool.not_eq_true] at present isTaken
                refine Or.inr (Or.inr ⟨?_, trivial⟩)
                simp only [fitsSelection, judged, present, isTaken, room, small]
                rfl

theorem AddingFiles.Follows.addFile {processed : List BrowserFile} {state : AddingFiles}
    (follows : state.Follows endsWord usedBytes taken current processed) :
    (addFile endsWord (taken.map (toLowerCase endsWord)) state file).Follows endsWord usedBytes
      taken current (processed ++ [file]) := by
  rcases follows with ⟨files, occupied, full, explained⟩
  have next : Admission.receiveAll (fitsSelection endsWord usedBytes taken) current
      (processed ++ [file]) =
        Admission.receive (fitsSelection endsWord usedBytes taken) state.files file := by
    rw [Admission.receiveAll_append, ← files, Admission.receiveAll_singleton]
  generalize isNext : MyBuild.addFile endsWord (taken.map (toLowerCase endsWord)) state file = after
  rcases addFile_cases occupied isNext with
    ⟨left, rfl⟩ | ⟨refused, reason, rfl⟩ | ⟨refused, many, reason, rfl⟩ | ⟨fits, rfl⟩
  · have noRoom : ¬after.files.length < maxFilesPerRequest := by
      have many := full left
      omega
    refine ⟨?_, occupied, full, fun quiet => absurd left ?_⟩
    · rw [next, Admission.receive, if_neg (by simp [fitsSelection, noRoom])]
    · rw [(explained quiet).1]
      exact Bool.false_ne_true
  · refine ⟨?_, occupied, full, fun quiet => absurd quiet (by simp)⟩
    rw [next, Admission.receive, if_neg (by simp [refused])]
  · refine ⟨?_, occupied, fun _ => many, fun quiet => absurd quiet (by simp)⟩
    rw [next, Admission.receive, if_neg (by simp [refused])]
  · refine ⟨?_, ?_, ?_, ?_⟩
    · rw [next, Admission.receive, if_pos fits]
    · simp only [totalSize_append_singleton, occupied]
      omega
    · intro left
      have many := full left
      simp only [List.length_append]
      omega
    · intro quiet
      refine ⟨(explained quiet).1, ?_⟩
      rw [(explained quiet).2, List.append_assoc]

theorem follows_foldl (remaining : List BrowserFile) {processed : List BrowserFile}
    {state : AddingFiles} (follows : state.Follows endsWord usedBytes taken current processed) :
    (remaining.foldl (addFile endsWord (taken.map (toLowerCase endsWord))) state).Follows endsWord
      usedBytes taken current (processed ++ remaining) := by
  induction remaining generalizing processed state with
  | nil => simpa using follows
  | cons file remaining ih =>
      have later := ih (@AddingFiles.Follows.addFile endsWord usedBytes taken current file _ _
        follows)
      simpa using later

/-- The loop admits the files by the rule; what it leaves out it gives a reason for. -/
theorem addFiles_follows :
    (addFiles endsWord current incoming usedBytes taken).files =
        Admission.receiveAll (fitsSelection endsWord usedBytes taken) current incoming ∧
      ((addFiles endsWord current incoming usedBytes taken).rejected = [] →
        (addFiles endsWord current incoming usedBytes taken).files = current ++ incoming) := by
  have follows := @follows_foldl endsWord usedBytes taken current incoming []
    { files := current, rejected := [], occupied := usedBytes + totalSize current, full := false }
    ⟨rfl, rfl, fun left => absurd left Bool.false_ne_true, fun _ => ⟨rfl, by simp⟩⟩
  refine ⟨follows.files, fun quiet => (follows.explained ?_).2⟩
  rw [List.eq_nil_iff_forall_not_mem] at quiet ⊢
  exact fun reason mem => quiet reason (Grouping.mem_distinct.mpr mem)

theorem WithinLimits.append (limits : WithinLimits endsWord usedBytes taken files)
    (fits : fitsSelection endsWord usedBytes taken files file = true) :
    WithinLimits endsWord usedBytes taken (files ++ [file]) := by
  simp only [fitsSelection, Bool.and_eq_true, Bool.not_eq_true', decide_eq_true_eq] at fits
  rcases fits with ⟨⟨⟨⟨_, fresh⟩, free⟩, room⟩, small⟩
  refine ⟨?_, ?_, ?_, ?_⟩
  · simp only [List.length_append, List.length_singleton]
    omega
  · rw [List.map_append, List.map_singleton, List.nodup_append]
    refine ⟨limits.names, List.nodup_singleton _, ?_⟩
    intro name mem other otherMem
    rw [List.mem_singleton] at otherMem
    rcases List.mem_map.mp mem with ⟨kept, keptMem, rfl⟩
    rintro same
    have differ := List.any_eq_false.mp fresh kept keptMem
    simp only [sameName, beq_iff_eq] at differ
    exact differ (same.trans otherMem)
  · intro kept mem
    rcases List.mem_append.mp mem with old | new
    · exact limits.notTaken kept old
    · rw [List.mem_singleton] at new
      subst new
      intro isTaken
      rw [List.contains_iff_mem.mpr isTaken] at free
      cases free
  · rw [totalSize_append_singleton]
    omega

/-- Adding files keeps the limits of the form, at once or in batches. -/
theorem addFiles_addsWithinLimits (limits : WithinLimits endsWord usedBytes taken current)
    (incoming : List BrowserFile) :
    AddsWithinLimits endsWord current incoming usedBytes taken
      (addFiles endsWord current incoming usedBytes taken) := by
  have files := (@addFiles_follows endsWord usedBytes taken current incoming).1
  refine ⟨?_, ?_, ?_, ?_⟩
  · rcases @Admission.exists_received _ (fitsSelection endsWord usedBytes taken) current incoming
      with ⟨added, grown, sublist, fitted⟩
    refine ⟨added, files.trans grown, sublist, fun file mem => ?_⟩
    rcases fitted file mem with ⟨before, fits⟩
    simp only [fitsSelection, Bool.and_eq_true, Option.isNone_iff_eq_none] at fits
    exact fits.1.1.1.1
  · rw [files]
    exact Admission.receiveAll_invariant (fun kept file fits held => held.append fits) limits
  · intro leftOut quiet
    exact leftOut ((@addFiles_follows endsWord usedBytes taken current incoming).2 quiet)
  · rintro batches rfl
    rw [files, ← Admission.foldl_receiveAll]
    congr 1
    funext kept batch
    exact addFiles_follows.1

theorem withinLimits_example :
    WithinLimits (fun _ _ => false) 30000000 ["смета.pdf"] [⟨"План.pdf", 1000⟩] where
  count := by decide
  names := by decide +kernel
  notTaken := by decide +kernel
  bytes := by decide

/-- A second plan of the same name, an estimate that is taken already, and a drawing. -/
theorem addFiles_addsWithinLimits_example :
    AddsWithinLimits (fun _ _ => false) [⟨"План.pdf", 1000⟩]
      [⟨"план.PDF", 5⟩, ⟨"Смета.pdf", 6⟩, ⟨"b.dwg", 7⟩] 30000000 ["смета.pdf"]
      (addFiles (fun _ _ => false) [⟨"План.pdf", 1000⟩]
        [⟨"план.PDF", 5⟩, ⟨"Смета.pdf", 6⟩, ⟨"b.dwg", 7⟩] 30000000 ["смета.pdf"]) :=
  addFiles_addsWithinLimits withinLimits_example _

end MyBuild
