import Mathlib.Algebra.Ring.Nat
import Mathlib.Data.List.Nodup

/-!
# Rows of a table with a unique key

A table is a list of rows, a key a function that has no value twice on it.
`updateWhere` is the update of all chosen rows.  Where the choice is by a unique key, it
changes one row, and the list falls into the rows before it, the row, and the rows
after it; invariants that count or filter rows follow from that decomposition.
-/

namespace Rows

variable {Row Key : Type}

def updateWhere (chosen : Row → Prop) [DecidablePred chosen] (update : Row → Row)
    (rows : List Row) : List Row :=
  rows.map fun row => if chosen row then update row else row

variable {chosen : Row → Prop} [DecidablePred chosen] {update : Row → Row} {rows : List Row}

theorem updateWhere_append (first second : List Row) :
    updateWhere chosen update (first ++ second) =
      updateWhere chosen update first ++ updateWhere chosen update second := by
  simp [updateWhere]

theorem updateWhere_cons_of_not {row : Row} (notChosen : ¬chosen row) :
    updateWhere chosen update (row :: rows) = row :: updateWhere chosen update rows := by
  simp [updateWhere, notChosen]

theorem updateWhere_eq_self (unchanged : ∀ row ∈ rows, chosen row → update row = row) :
    updateWhere chosen update rows = rows := by
  simp only [updateWhere]
  conv_rhs => rw [← List.map_id rows]
  apply List.map_congr_left
  intro row mem
  by_cases isChosen : chosen row
  · simp [isChosen, unchanged row mem isChosen]
  · simp [isChosen]

/-- A column that the update keeps in the chosen rows has the same values afterwards. -/
theorem map_updateWhere_of_chosen {Column : Type} {column : Row → Column}
    (kept : ∀ row ∈ rows, chosen row → column (update row) = column row) :
    (updateWhere chosen update rows).map column = rows.map column := by
  simp only [updateWhere, List.map_map]
  apply List.map_congr_left
  intro row mem
  by_cases isChosen : chosen row
  · simp [isChosen, kept row mem isChosen]
  · simp [isChosen]

/-- A column the update keeps has the same values afterwards. -/
theorem map_updateWhere_of_mem {Column : Type} {column : Row → Column}
    (kept : ∀ row ∈ rows, column (update row) = column row) :
    (updateWhere chosen update rows).map column = rows.map column := by
  simp only [updateWhere, List.map_map]
  apply List.map_congr_left
  intro row mem
  by_cases isChosen : chosen row <;> simp [isChosen, kept row mem]

theorem map_updateWhere {Column : Type} {column : Row → Column}
    (kept : ∀ row, column (update row) = column row) :
    (updateWhere chosen update rows).map column = rows.map column :=
  map_updateWhere_of_mem fun row _ => kept row

theorem updateWhere_congr {other : Row → Prop} [DecidablePred other]
    (same : ∀ row ∈ rows, chosen row ↔ other row) :
    updateWhere chosen update rows = updateWhere other update rows := by
  simp only [updateWhere]
  apply List.map_congr_left
  intro row mem
  simp only [same row mem]

/-- An update that keeps the kept rows kept commutes with dropping the others. -/
theorem filter_updateWhere {keep : Row → Bool} (kept : ∀ row, keep (update row) = keep row) :
    (updateWhere chosen update rows).filter keep =
      updateWhere chosen update (rows.filter keep) := by
  simp only [updateWhere, List.filter_map]
  congr 1
  apply List.filter_congr
  intro row mem
  by_cases isChosen : chosen row <;> simp [isChosen, kept row]

/-- Two updates of the same rows are one, when the first keeps the choice. -/
theorem updateWhere_updateWhere {first second : Row → Row}
    (kept : ∀ row, chosen row → chosen (first row)) :
    updateWhere chosen second (updateWhere chosen first rows) =
      updateWhere chosen (fun row => second (first row)) rows := by
  simp only [updateWhere, List.map_map]
  apply List.map_congr_left
  intro row mem
  by_cases isChosen : chosen row <;> simp [isChosen, kept]

theorem mem_updateWhere {row : Row} :
    row ∈ updateWhere chosen update rows ↔
      ∃ old ∈ rows, row = if chosen old then update old else old := by
  simp [updateWhere, eq_comm]

variable {key : Row → Key}

theorem eq_of_key (unique : (rows.map key).Nodup) {first second : Row} (firstMem : first ∈ rows)
    (secondMem : second ∈ rows) (same : key first = key second) : first = second :=
  List.inj_on_of_nodup_map unique firstMem secondMem same

theorem length_le_one (unique : (rows.map key).Nodup)
    (same : ∀ first ∈ rows, ∀ second ∈ rows, key first = key second) : rows.length ≤ 1 := by
  match rows with
  | [] => simp
  | [_] => simp
  | first :: second :: rest =>
      have equal := same first (by simp) second (by simp)
      simp [equal] at unique

theorem exists_split (unique : (rows.map key).Nodup) {row : Row} (mem : row ∈ rows) :
    ∃ before after, rows = before ++ row :: after ∧
      ∀ other ∈ before ++ after, key other ≠ key row := by
  rcases List.append_of_mem mem with ⟨before, after, rfl⟩
  refine ⟨before, after, rfl, ?_⟩
  rw [List.map_append, List.map_cons, List.nodup_middle, List.nodup_cons] at unique
  intro other otherMem same
  rw [← same, ← List.map_append] at unique
  exact unique.1 (List.mem_map_of_mem otherMem)

/-- The update of the row with a given unique key changes that row in its place. -/
theorem exists_split_updateWhere [DecidableEq Key] (unique : (rows.map key).Nodup) {row : Row}
    (mem : row ∈ rows) (update : Row → Row) :
    ∃ before after, rows = before ++ row :: after ∧
      updateWhere (fun other => key other = key row) update rows =
        before ++ update row :: after ∧
      ∀ other ∈ before ++ after, key other ≠ key row := by
  rcases exists_split unique mem with ⟨before, after, rfl, others⟩
  refine ⟨before, after, rfl, ?_, others⟩
  have keep : ∀ part : List Row, (∀ other ∈ part, other ∈ before ++ after) →
      updateWhere (fun other => key other = key row) update part = part := by
    intro part within
    exact updateWhere_eq_self fun other otherMem same =>
      absurd same (others other (within other otherMem))
  rw [updateWhere_append, keep before fun other => List.mem_append_left after]
  have rest := keep after fun other => List.mem_append_right before
  simp only [updateWhere, List.map_cons] at rest ⊢
  simp [rest]

theorem find?_eq_some_of_sole {found : Row → Bool} {row : Row} (mem : row ∈ rows)
    (fits : found row = true) (sole : ∀ other ∈ rows, found other = true → other = row) :
    rows.find? found = some row := by
  cases isFound : rows.find? found with
  | none => exact absurd fits (List.find?_eq_none.mp isFound row mem)
  | some other =>
      rw [sole other (List.mem_of_find?_eq_some isFound) (List.find?_some isFound)]

theorem find?_eq_some_of_mem [DecidableEq Key] (unique : (rows.map key).Nodup) {row : Row}
    (mem : row ∈ rows) : rows.find? (fun other => key other == key row) = some row := by
  apply find?_eq_some_of_sole mem (by simp)
  intro other otherMem same
  exact eq_of_key unique otherMem mem (by simpa using same)

/-- Once the row with a given key is replaced by another with that key, the key finds the new
row. -/
theorem find?_updateWhere_key [DecidableEq Key] {value : Key} {row new : Row}
    (found : rows.find? (key · == value) = some row) (keyed : key new = value) :
    (updateWhere (key · = value) (fun _ => new) rows).find? (key · == value) = some new := by
  induction rows with
  | nil => cases found
  | cons first rest ih =>
      simp only [updateWhere, List.map_cons, List.find?_cons] at found ih ⊢
      by_cases isKey : key first = value
      · simp [isKey, keyed]
      · simp only [isKey, if_false, beq_eq_false_iff_ne.mpr isKey] at found ⊢
        exact ih found

/-- An update of rows that are not looked for, and are not looked for afterwards, changes no
lookup. -/
theorem find?_updateWhere_of_not {found : Row → Bool}
    (apart : ∀ row ∈ rows, chosen row → found row = false ∧ found (update row) = false) :
    (updateWhere chosen update rows).find? found = rows.find? found := by
  induction rows with
  | nil => rfl
  | cons first rest ih =>
      rw [List.forall_mem_cons] at apart
      simp only [updateWhere, List.map_cons, List.find?_cons] at ih ⊢
      rw [ih apart.2]
      by_cases isChosen : chosen first
      · rw [if_pos isChosen, (apart.1 isChosen).1, (apart.1 isChosen).2]
      · rw [if_neg isChosen]

/-- Another key finds what it has found before. -/
theorem find?_updateWhere_of_ne [DecidableEq Key] {value other : Key} {new : Row}
    (isOther : other ≠ value) (keyed : key new = value) :
    (updateWhere (key · = value) (fun _ => new) rows).find? (key · == other) =
      rows.find? (key · == other) := by
  apply find?_updateWhere_of_not
  intro row _ isValue
  simp [isValue, keyed, isOther.symm]

/-- Without the rows of one key, that key finds nothing and the others find what they did. -/
theorem find?_filter_key [DecidableEq Key] {value other : Key} :
    (rows.filter (key · != value)).find? (key · == other) =
      if other = value then none else rows.find? (key · == other) := by
  induction rows with
  | nil => simp
  | cons first rest ih =>
      by_cases isKey : key first = value
      · rw [List.filter_cons_of_neg (by simpa using isKey), ih]
        split
        case isTrue => rfl
        case isFalse isOther =>
          rw [List.find?_cons_of_neg (by simpa [isKey] using Ne.symm isOther)]
      · rw [List.filter_cons_of_pos (by simpa using isKey), List.find?_cons, ih]
        by_cases isFound : key first = other
        · simp [isFound, isFound ▸ isKey]
        · simp [beq_eq_false_iff_ne.mpr isFound]

/-- A filter by a unique key leaves what a search for it finds. -/
theorem filter_key_eq [DecidableEq Key] {value : Key} (unique : (rows.map key).Nodup) :
    rows.filter (key · == value) = (rows.find? (key · == value)).toList := by
  induction rows with
  | nil => rfl
  | cons row rows ih =>
      rw [List.map_cons, List.nodup_cons] at unique
      by_cases isKey : key row = value
      · have others : rows.filter (key · == value) = [] := by
          rw [List.filter_eq_nil_iff]
          intro other mem isOther
          apply unique.1
          rw [isKey, ← beq_iff_eq.mp isOther]
          exact List.mem_map_of_mem mem
        simp [isKey, others]
      · simp [isKey, ih unique.2]

/-- In whichever order a table is read, a query that one row answers finds that row. -/
theorem find?_perm {other : List Row} {found : Row → Bool} (perm : rows.Perm other)
    (sole : ∀ first ∈ rows, ∀ second ∈ rows, found first = true → found second = true →
      first = second) : rows.find? found = other.find? found := by
  cases isFound : other.find? found with
  | none =>
      rw [List.find?_eq_none] at isFound ⊢
      intro row mem
      exact isFound row (perm.mem_iff.mp mem)
  | some row =>
      have mem := perm.mem_iff.mpr (List.mem_of_find?_eq_some isFound)
      have fits := List.find?_some isFound
      apply find?_eq_some_of_sole mem fits
      intro second secondMem secondFits
      exact sole second secondMem row mem secondFits fits

/-- Rows of one kind that agree on a question: the first of them answers it for all. -/
theorem any_find?_iff {kind asked : Row → Bool}
    (agree : ∀ first ∈ rows, ∀ second ∈ rows, kind first = true → kind second = true →
      asked first = asked second) :
    (rows.find? kind).any asked = true ↔
      ∃ row ∈ rows, kind row = true ∧ asked row = true := by
  cases isFound : rows.find? kind with
  | none =>
      simp only [Option.any_none, Bool.false_eq_true, false_iff]
      rintro ⟨row, mem, isKind, _⟩
      exact List.find?_eq_none.mp isFound row mem isKind
  | some found =>
      have mem := List.mem_of_find?_eq_some isFound
      have isKind := List.find?_some isFound
      constructor
      · intro answered
        exact ⟨found, mem, isKind, answered⟩
      · rintro ⟨row, rowMem, rowKind, answered⟩
        exact (agree found mem row rowMem isKind rowKind).trans answered

theorem modify_eq_set {index : ℕ} {row : Row} (change : Row → Row)
    (found : rows[index]? = some row) :
    rows.modify index change = rows.set index (change row) := by
  rcases List.getElem?_eq_some_iff.mp found with ⟨bound, rfl⟩
  apply List.ext_getElem?
  intro other
  by_cases same : index = other
  · subst same
    simp [bound]
  · simp [same]

theorem getElem?_set_cases {index other : ℕ} {new row : Row}
    (found : (rows.set index new)[other]? = some row) :
    other = index ∧ row = new ∨ other ≠ index ∧ rows[other]? = some row := by
  rw [List.getElem?_set] at found
  split at found
  case isTrue same =>
    split at found
    case isTrue =>
      cases found
      exact Or.inl ⟨same.symm, rfl⟩
    case isFalse => cases found
  case isFalse differs => exact Or.inr ⟨Ne.symm differs, found⟩

theorem mem_zip_append_singleton {Entry : Type} {entries : List Entry} {last : Entry}
    {pair : Row × Entry} (mem : pair ∈ rows.zip (entries ++ [last])) :
    pair ∈ rows.zip entries ∨ rows[entries.length]? = some pair.1 ∧ pair.2 = last := by
  rcases List.mem_iff_getElem?.mp mem with ⟨index, found⟩
  rcases List.getElem?_zip_eq_some.mp found with ⟨isRow, isEntry⟩
  rcases Nat.lt_trichotomy index entries.length with before | rfl | beyond
  · left
    rw [List.getElem?_append_left before] at isEntry
    exact List.mem_of_getElem? (List.getElem?_zip_eq_some.mpr ⟨isRow, isEntry⟩)
  · right
    simp only [List.getElem?_concat_length, Option.some.injEq] at isEntry
    exact ⟨isRow, isEntry.symm⟩
  · rw [List.getElem?_eq_none (by simp; omega)] at isEntry
    cases isEntry

/-- The weight of a table after one row is replaced. -/
theorem sum_map_set {weight : Row → ℕ} {index : ℕ} {old : Row} (new : Row)
    (found : rows[index]? = some old) :
    ((rows.set index new).map weight).sum + weight old = (rows.map weight).sum + weight new := by
  induction rows generalizing index with
  | nil => simp at found
  | cons row rows ih =>
      cases index with
      | zero =>
          simp only [List.getElem?_cons_zero, Option.some.injEq] at found
          subst found
          simp only [List.set_cons_zero, List.map_cons, List.sum_cons]
          omega
      | succ index =>
          have rest := ih (by simpa using found)
          simp only [List.set_cons_succ, List.map_cons, List.sum_cons]
          omega

/-- The weight of the chosen rows, the others weighing nothing. -/
theorem sum_map_filter (chosen : Row → Bool) (weight : Row → ℕ) :
    ((rows.filter chosen).map weight).sum =
      (rows.map fun row => if chosen row then weight row else 0).sum := by
  induction rows with
  | nil => rfl
  | cons row rows ih =>
      cases isChosen : chosen row <;> simp [isChosen, ih]

end Rows
