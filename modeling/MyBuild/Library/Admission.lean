import Mathlib.Data.List.Basic

/-!
# Admitting items one by one

Items come in a list, and each joins those already kept when it fits them.  What is kept grows
by a subsequence of the items, whatever the rule is, and it makes no difference whether they
come at once or in several batches.
-/

namespace Admission

variable {Item : Type*} (fits : List Item → Item → Bool)

def receive (kept : List Item) (item : Item) : List Item :=
  if fits kept item then kept ++ [item] else kept

def receiveAll (kept items : List Item) : List Item :=
  items.foldl (receive fits) kept

variable {fits} {kept items : List Item}

@[simp]
theorem receiveAll_singleton (item : Item) :
    receiveAll fits kept [item] = receive fits kept item := rfl

theorem receiveAll_append (first second : List Item) :
    receiveAll fits kept (first ++ second) =
      receiveAll fits (receiveAll fits kept first) second := by
  simp [receiveAll]

/-- Batches one after another are their items one after another. -/
theorem foldl_receiveAll (batches : List (List Item)) :
    batches.foldl (receiveAll fits) kept = receiveAll fits kept batches.flatten := by
  induction batches generalizing kept with
  | nil => rfl
  | cons batch batches ih => rw [List.foldl_cons, ih, List.flatten_cons, receiveAll_append]

theorem receiveAll_invariant {Invariant : List Item → Prop}
    (preserved : ∀ kept item, fits kept item = true → Invariant kept → Invariant (kept ++ [item]))
    (holds : Invariant kept) : Invariant (receiveAll fits kept items) := by
  induction items generalizing kept with
  | nil => exact holds
  | cons item items ih =>
      apply ih
      simp only [receive]
      split
      case isTrue fit => exact preserved kept item fit holds
      case isFalse => exact holds

/-- What is added is a subsequence of the items, and each of them fitted when it came. -/
theorem exists_received : ∃ added, receiveAll fits kept items = kept ++ added ∧
    added.Sublist items ∧ ∀ item ∈ added, ∃ before, fits before item = true := by
  induction items generalizing kept with
  | nil => exact ⟨[], by simp [receiveAll], List.Sublist.refl _, by simp⟩
  | cons item items ih =>
      by_cases fit : fits kept item = true
      · rcases @ih (kept ++ [item]) with ⟨added, grown, sublist, fitted⟩
        refine ⟨item :: added, ?_, sublist.cons_cons item, ?_⟩
        · have first : receive fits kept item = kept ++ [item] := by rw [receive, if_pos fit]
          rw [receiveAll, List.foldl_cons, first]
          simpa [receiveAll] using grown
        · rw [List.forall_mem_cons]
          exact ⟨⟨kept, fit⟩, fitted⟩
      · rcases @ih kept with ⟨added, grown, sublist, fitted⟩
        refine ⟨added, ?_, sublist.cons item, fitted⟩
        have first : receive fits kept item = kept := by rw [receive, if_neg fit]
        rw [receiveAll, List.foldl_cons, first]
        exact grown

end Admission
