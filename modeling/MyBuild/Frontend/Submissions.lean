import MyBuild.Frontend.Actions
import MyBuild.Library.Grouping

/-!
# The history of submissions

The answer lists the files and the submissions of an order separately; a round number is all
that joins them.  The page puts the files of the company into a map by round, takes the rounds
of either list, sorts them and splits the last one off.  Whatever the two lists are, the views
divide the files of the company among themselves.
-/

namespace MyBuild

def companyFiles (order : OrderDetail) : List OrderFileDto :=
  order.files.filter (·.ownerType == .company)

namespace SubmissionsPage

/-- The map from rounds to files that the loop fills. -/
def filesByRound (order : OrderDetail) : List (ℕ × List OrderFileDto) :=
  order.files.foldl (fun groups file =>
    if file.ownerType != .company then groups
    else Grouping.push file.submissionRound file groups) []

def rounds (order : OrderDetail) : List ℕ :=
  Grouping.distinct
    (order.submissions.map OrderSubmissionDto.round ++ (filesByRound order).map Prod.fst)

def view (order : OrderDetail) (round : ℕ) : SubmissionView :=
  let submission := order.submissions.find? (·.round == round)
  { round
    comment := (submission.map OrderSubmissionDto.comment).getD ""
    submittedAt := submission.bind OrderSubmissionDto.submittedAt
    files := Grouping.get (filesByRound order) round }

def resolveSubmissions (order : OrderDetail) : SubmissionsView :=
  if (rounds order).isEmpty then { latest := none, history := [], open_ := none }
  else
    let views := ((rounds order).insertionSort (· ≤ ·)).map (view order)
    let latest := views.getLast?
    { latest
      history := views.dropLast.reverse
      open_ := latest.filter (·.submittedAt.isNone) }

end SubmissionsPage

/-- The views of the page from the latest through the history. -/
def SubmissionsView.views (page : SubmissionsView) : List SubmissionView :=
  page.latest.toList ++ page.history

/-- The views divide the files of the company and the submissions of the order. -/
structure SubmissionsView.Partitions (order : OrderDetail) (page : SubmissionsView) : Prop where
  files : ∀ view ∈ page.views,
    view.files = (companyFiles order).filter (·.submissionRound = view.round)
  allFiles : (page.views.flatMap SubmissionView.files).Perm (companyFiles order)
  submissions : ∀ submission ∈ order.submissions, ∃ view ∈ page.views,
    view.comment = submission.comment ∧ view.submittedAt = submission.submittedAt ∧
      page.views.filter (·.round = submission.round) = [view]
  known : ∀ view ∈ page.views,
    (∃ submission ∈ order.submissions, submission.round = view.round) ∨ view.files ≠ []
  decreasing : (page.views.map SubmissionView.round).Pairwise (· > ·)

namespace SubmissionsPage

variable {order : OrderDetail} {round : ℕ}

theorem filesByRound_eq (order : OrderDetail) :
    filesByRound order = Grouping.collect OrderFileDto.submissionRound (companyFiles order) := by
  rw [companyFiles, Grouping.collect, List.foldl_filter, filesByRound]
  congr 1
  funext groups file
  by_cases own : file.ownerType = .company
  · simp [own]
  · simp [own]

theorem get_filesByRound :
    Grouping.get (filesByRound order) round =
      (companyFiles order).filter (·.submissionRound = round) := by
  rw [filesByRound_eq, Grouping.get_collect]

theorem mem_rounds : round ∈ rounds order ↔
    (∃ submission ∈ order.submissions, submission.round = round) ∨
      ∃ file ∈ companyFiles order, file.submissionRound = round := by
  rw [rounds, Grouping.mem_distinct, List.mem_append, filesByRound_eq, Grouping.mem_keys_collect,
    List.mem_map]

def sorted (order : OrderDetail) : List ℕ :=
  (rounds order).insertionSort (· ≤ ·)

theorem mem_sorted : round ∈ sorted order ↔ round ∈ rounds order :=
  List.mem_insertionSort _

theorem nodup_sorted (order : OrderDetail) : (sorted order).Nodup :=
  (List.perm_insertionSort _ _).nodup_iff.mpr (Grouping.nodup_distinct _)

theorem pairwise_sorted (order : OrderDetail) : (sorted order).Pairwise (· < ·) := by
  have le := List.pairwise_insertionSort (· ≤ ·) (rounds order)
  exact (le.and (nodup_sorted order)).imp fun related => lt_of_le_of_ne related.1 related.2

/-- From the latest through the history the views are the sorted ones backwards. -/
theorem views_resolveSubmissions (order : OrderDetail) :
    (resolveSubmissions order).views = (sorted order).reverse.map (view order) := by
  have split : ∀ views : List SubmissionView,
      views.getLast?.toList ++ views.dropLast.reverse = views.reverse := by
    intro views
    rcases List.eq_nil_or_concat views with rfl | ⟨earlier, last, rfl⟩
    · rfl
    · simp
  simp only [resolveSubmissions, SubmissionsView.views]
  split
  case isTrue none =>
    have empty : sorted order = [] := by
      simp [sorted, List.isEmpty_iff.mp none]
    simp [empty]
  case isFalse =>
    rw [List.map_reverse]
    exact split _

theorem mem_views {found : SubmissionView} :
    found ∈ (resolveSubmissions order).views ↔
      ∃ round ∈ rounds order, view order round = found := by
  rw [views_resolveSubmissions, List.mem_map]
  simp only [List.mem_reverse, mem_sorted]

theorem files_view : (view order round).files =
    (companyFiles order).filter (·.submissionRound = round) :=
  get_filesByRound

/-- The rounds of two submissions differ, so the first one found is the one sought. -/
theorem find_submission {submissions : List OrderSubmissionDto}
    (distinct : (submissions.map OrderSubmissionDto.round).Nodup)
    {submission : OrderSubmissionDto} (mem : submission ∈ submissions) :
    submissions.find? (·.round == submission.round) = some submission := by
  induction submissions with
  | nil => exact absurd mem List.not_mem_nil
  | cons first rest ih =>
      rw [List.map_cons, List.nodup_cons] at distinct
      rcases List.mem_cons.mp mem with rfl | later
      · simp
      · have differ : first.round ≠ submission.round := fun same =>
          distinct.1 (List.mem_map.mpr ⟨submission, later, same.symm⟩)
        rw [List.find?_cons_of_neg (by simpa using differ)]
        exact ih distinct.2 later

theorem filter_round_map_view {numbers : List ℕ} (nodup : numbers.Nodup)
    (mem : round ∈ numbers) :
    (numbers.map (view order)).filter (·.round = round) = [view order round] := by
  induction numbers with
  | nil => exact absurd mem List.not_mem_nil
  | cons first rest ih =>
      rw [List.nodup_cons] at nodup
      rw [List.map_cons, List.filter_cons]
      rcases List.mem_cons.mp mem with rfl | later
      · have none : (rest.map (view order)).filter (·.round = round) = [] := by
          simp only [List.filter_eq_nil_iff, List.mem_map, decide_eq_true_eq]
          rintro _ ⟨other, otherMem, rfl⟩ same
          exact nodup.1 (show round ∈ rest from same ▸ otherMem)
        simp [view, none]
      · have differ : first ≠ round := fun same => nodup.1 (same ▸ later)
        simp only [view, differ, decide_false, Bool.false_eq_true, if_false]
        exact ih nodup.2 later

theorem allFiles_perm (order : OrderDetail) :
    ((resolveSubmissions order).views.flatMap SubmissionView.files).Perm (companyFiles order) := by
  rw [views_resolveSubmissions, List.flatMap_map]
  simp only [files_view]
  apply Grouping.flatMap_filter_perm
  · exact List.nodup_reverse.mpr (nodup_sorted order)
  · intro file mem
    rw [List.mem_reverse, mem_sorted, mem_rounds]
    exact Or.inr ⟨file, mem, rfl⟩

/-- The map of the loop and the filter by round make one page. -/
theorem resolveSubmissions_eq (order : OrderDetail) :
    resolveSubmissions order = MyBuild.resolveSubmissions order := by
  have views : view order = submissionView order := by
    funext round
    simp only [view, submissionView, SubmissionView.mk.injEq, true_and, get_filesByRound,
      MyBuild.filesByRound, companyFiles, List.filter_filter]
    apply List.filter_congr
    intro file _
    simp only [Bool.and_comm, beq_eq_decide]
  have numbers : sorted order = (submissionRounds order).insertionSort (· ≤ ·) := by
    have perm : (sorted order).Perm ((submissionRounds order).insertionSort (· ≤ ·)) := by
      refine (List.perm_insertionSort _ _).trans (List.Perm.trans ?_
        (List.perm_insertionSort _ _).symm)
      apply (List.perm_ext_iff_of_nodup (Grouping.nodup_distinct _) (List.nodup_dedup _)).mpr
      intro round
      rw [← rounds, mem_rounds, List.mem_dedup, List.mem_append, List.mem_map, List.mem_map,
        companyFiles]
    exact perm.eq_of_pairwise' (List.pairwise_insertionSort _ _) (List.pairwise_insertionSort _ _)
  rw [MyBuild.resolveSubmissions, ← views, ← numbers, resolveSubmissions]
  split
  case isTrue none => simp [sorted, List.isEmpty_iff.mp none]
  case isFalse => rfl

/-- Submissions with distinct rounds and files in any order: the history is a partition. -/
theorem resolveSubmissions_partitions (order : OrderDetail)
    (distinct : (order.submissions.map OrderSubmissionDto.round).Nodup) :
    (resolveSubmissions order).Partitions order := by
  refine ⟨?_, allFiles_perm order, ?_, ?_, ?_⟩
  · intro found mem
    rcases mem_views.mp mem with ⟨round, _, rfl⟩
    exact files_view
  · intro submission mem
    have listed : submission.round ∈ rounds order := mem_rounds.mpr (Or.inl ⟨submission, mem, rfl⟩)
    refine ⟨view order submission.round, mem_views.mpr ⟨_, listed, rfl⟩, ?_, ?_, ?_⟩
    · simp [view, find_submission distinct mem]
    · simp [view, find_submission distinct mem]
    · rw [views_resolveSubmissions]
      exact filter_round_map_view (List.nodup_reverse.mpr (nodup_sorted order))
        (List.mem_reverse.mpr (mem_sorted.mpr listed))
  · intro found mem
    rcases mem_views.mp mem with ⟨round, listed, rfl⟩
    rcases mem_rounds.mp listed with ofSubmission | ⟨file, fileMem, own⟩
    · exact Or.inl ofSubmission
    · refine Or.inr (List.ne_nil_of_mem (a := file) ?_)
      rw [files_view]
      simpa using ⟨fileMem, own⟩
  · rw [views_resolveSubmissions, List.map_map]
    have numbers : (SubmissionView.round ∘ view order) = id := rfl
    rw [numbers, List.map_id, List.pairwise_reverse]
    exact pairwise_sorted order

def examplePlan (name : String) (ownerType : FileOwnerType) (submissionRound : ℕ) :
    OrderFileDto :=
  { id := ⟨9⟩, orderId := ⟨1⟩, ownerType, submissionRound, originalName := name
    mimeType := "application/pdf", sizeBytes := 21, createdAt := "2026-09-29T00:00:00.000Z" }

/-- Two submissions listed backwards, and files of a third round without a submission. -/
def exampleHistory : OrderDetail :=
  { id := ⟨1⟩, orderNumber := 1, title := "План", status := .completionDisputed
    category := .planCreation, objectType := .house, clientBudget := none, price := none
    deadline := none, contractorName := none, createdAt := "2026-09-01T00:00:00.000Z"
    description := "", address := "", squareMeters := ⟨10000⟩, verifiedSquareMeters := none
    desiredStartDate := none, clientCompletionComment := none, correctionComment := none
    updatedAt := "2026-09-01T00:00:00.000Z", client := none, offers := []
    files := [examplePlan "v3.pdf" .company 3, examplePlan "task.pdf" .client 1,
      examplePlan "v1.pdf" .company 1, examplePlan "v3b.pdf" .company 3]
    filesSizeBytes := none
    submissions := [
      { round := 2, comment := "вторая", submittedAt := none
        createdAt := "2026-09-20T00:00:00.000Z" },
      { round := 1, comment := "первая", submittedAt := some "2026-09-10T00:00:00.000Z"
        createdAt := "2026-09-10T00:00:00.000Z" }]
    canSubmitOffer := false }

theorem resolveSubmissions_partitions_example :
    (resolveSubmissions exampleHistory).Partitions exampleHistory :=
  resolveSubmissions_partitions exampleHistory (by decide)

end SubmissionsPage

end MyBuild
