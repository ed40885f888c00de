import Mathlib.Data.List.Basic
import Mathlib.Data.List.Nodup

/-!
# Collections that keep the order of insertion

A set takes an element it does not have yet at its end, and a map from keys to lists takes a
new key at its end.  Putting the items of a list into such a map one by one splits the list:
under a key are the items of that key, in their order, and the parts together are the list
again.
-/

namespace Grouping

variable {Key Item : Type*} [DecidableEq Key]

/-- The elements of a list, each at its first occurrence. -/
def distinct (keys : List Key) : List Key :=
  keys.foldl (fun seen key => if key ∈ seen then seen else seen ++ [key]) []

/-- Put an item under its key. -/
def push (key : Key) (item : Item) : List (Key × List Item) → List (Key × List Item)
  | [] => [(key, [item])]
  | (known, kept) :: groups =>
      if known = key then (known, kept ++ [item]) :: groups
      else (known, kept) :: push key item groups

def get (groups : List (Key × List Item)) (key : Key) : List Item :=
  (groups.lookup key).getD []

def collect (key : Item → Key) (items : List Item) : List (Key × List Item) :=
  items.foldl (fun groups item => push (key item) item groups) []

variable {key other : Key} {item : Item} {groups : List (Key × List Item)}

theorem foldl_distinct (keys seen : List Key) (nodup : seen.Nodup) :
    let result := keys.foldl (fun seen key => if key ∈ seen then seen else seen ++ [key]) seen
    result.Nodup ∧ ∀ key, key ∈ result ↔ key ∈ seen ∨ key ∈ keys := by
  induction keys generalizing seen with
  | nil => simpa using nodup
  | cons key keys ih =>
      simp only [List.foldl_cons]
      by_cases present : key ∈ seen
      · rw [if_pos present]
        refine ⟨(ih seen nodup).1, fun other => ?_⟩
        rw [(ih seen nodup).2, List.mem_cons]
        constructor
        · rintro (old | new)
          · exact Or.inl old
          · exact Or.inr (Or.inr new)
        · rintro (old | rfl | new)
          · exact Or.inl old
          · exact Or.inl present
          · exact Or.inr new
      · have extended : (seen ++ [key]).Nodup :=
          List.nodup_append.mpr ⟨nodup, List.nodup_singleton key, by
            rintro old mem new newMem rfl
            exact present (List.mem_singleton.mp newMem ▸ mem)⟩
        rw [if_neg present]
        refine ⟨(ih _ extended).1, fun other => ?_⟩
        rw [(ih _ extended).2, List.mem_append, List.mem_singleton, List.mem_cons, or_assoc]

theorem nodup_distinct (keys : List Key) : (distinct keys).Nodup :=
  (foldl_distinct keys [] List.nodup_nil).1

theorem mem_distinct {keys : List Key} : key ∈ distinct keys ↔ key ∈ keys := by
  simpa [distinct] using (foldl_distinct keys [] List.nodup_nil).2 key

theorem get_push : get (push key item groups) other =
    if key = other then get groups other ++ [item] else get groups other := by
  induction groups with
  | nil =>
      by_cases same : key = other
      · simp [push, get, same]
      · simp [push, get, List.lookup_cons, same, beq_eq_false_iff_ne.mpr (Ne.symm same)]
  | cons group groups ih =>
      rcases group with ⟨known, kept⟩
      simp only [get] at ih ⊢
      by_cases found : known = key
      · subst found
        by_cases same : known = other
        · simp [push, same]
        · simp [push, List.lookup_cons, same, beq_eq_false_iff_ne.mpr (Ne.symm same)]
      · rw [push, if_neg found]
        by_cases here : known = other
        · simp [here, show key ≠ other from fun same => found (here.trans same.symm)]
        · simp only [List.lookup_cons, beq_eq_false_iff_ne.mpr (Ne.symm here)]
          exact ih

theorem mem_keys_push :
    other ∈ (push key item groups).map Prod.fst ↔ other = key ∨ other ∈ groups.map Prod.fst := by
  induction groups with
  | nil => simp [push]
  | cons group groups ih =>
      rcases group with ⟨known, kept⟩
      rw [push]
      by_cases found : known = key
      · rw [if_pos found]
        simp [found]
      · rw [if_neg found, List.map_cons, List.mem_cons, ih, List.map_cons, List.mem_cons]
        exact or_left_comm

theorem get_foldl_push (ofItem : Item → Key) (items : List Item)
    (groups : List (Key × List Item)) :
    get (items.foldl (fun groups item => push (ofItem item) item groups) groups) key =
      get groups key ++ items.filter (ofItem · = key) := by
  induction items generalizing groups with
  | nil => simp
  | cons item items ih =>
      rw [List.foldl_cons, ih, get_push, List.filter_cons]
      by_cases own : ofItem item = key
      · simp [own]
      · simp [own]

/-- Under a key are the items of that key, in their order. -/
theorem get_collect (ofItem : Item → Key) (items : List Item) :
    get (collect ofItem items) key = items.filter (ofItem · = key) := by
  simpa [collect, get] using get_foldl_push ofItem items []

theorem mem_keys_foldl_push (ofItem : Item → Key) (items : List Item)
    (groups : List (Key × List Item)) :
    key ∈ (items.foldl (fun groups item => push (ofItem item) item groups) groups).map Prod.fst ↔
      key ∈ groups.map Prod.fst ∨ ∃ item ∈ items, ofItem item = key := by
  induction items generalizing groups with
  | nil => simp
  | cons item items ih =>
      rw [List.foldl_cons, ih, mem_keys_push, List.exists_mem_cons_iff, eq_comm, or_left_comm,
        or_assoc]

theorem mem_keys_collect (ofItem : Item → Key) (items : List Item) :
    key ∈ (collect ofItem items).map Prod.fst ↔ ∃ item ∈ items, ofItem item = key := by
  simpa [collect] using @mem_keys_foldl_push _ _ _ key ofItem items []

/-- Parts by keys that are distinct and cover a list are the list again. -/
theorem flatMap_filter_perm (ofItem : Item → Key) (keys : List Key) (items : List Item)
    (nodup : keys.Nodup) (covered : ∀ item ∈ items, ofItem item ∈ keys) :
    (keys.flatMap fun key => items.filter (ofItem · = key)).Perm items := by
  induction keys generalizing items with
  | nil =>
      have none : items = [] := List.eq_nil_iff_forall_not_mem.mpr fun item mem =>
        List.not_mem_nil (covered item mem)
      simp [none]
  | cons key keys ih =>
      rw [List.nodup_cons] at nodup
      have rest := ih (items.filter (ofItem · ≠ key)) nodup.2 (by
        intro item mem
        rw [List.mem_filter, decide_eq_true_eq] at mem
        exact (List.mem_cons.mp (covered item mem.1)).resolve_left mem.2)
      have same : (keys.flatMap fun other =>
          (items.filter (ofItem · ≠ key)).filter (ofItem · = other)) =
          keys.flatMap fun other => items.filter (ofItem · = other) := by
        apply List.flatMap_congr
        intro other mem
        rw [List.filter_filter]
        apply List.filter_congr
        intro item _
        by_cases own : ofItem item = other
        · have differ : other ≠ key := fun same => nodup.1 (same ▸ mem)
          simp [own, differ]
        · simp [own]
      rw [same] at rest
      rw [List.flatMap_cons]
      refine (List.Perm.append_left _ rest).trans ?_
      simpa using List.filter_append_perm (fun item => decide (ofItem item = key)) items

end Grouping
