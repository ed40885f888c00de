import Mathlib.Data.Nat.Notation
import Mathlib.Order.Basic

/-!
# A turnstile

Whoever arrives is let through in turn, as long as there is room inside, and whoever leaves
makes room for the next.  How many are inside and how many still wait is decided by how many
have arrived and how many have left.
-/

structure Turnstile where
  arrived : ℕ
  left : ℕ
  left_le : left ≤ arrived

namespace Turnstile

def arrive (gate : Turnstile) : Turnstile :=
  { arrived := gate.arrived + 1, left := gate.left, left_le := Nat.le_succ_of_le gate.left_le }

def leave (gate : Turnstile) (someone : gate.left < gate.arrived) : Turnstile :=
  { arrived := gate.arrived, left := gate.left + 1, left_le := someone }

variable (capacity : ℕ) (gate : Turnstile)

/-- How many have been let through. -/
def admitted : ℕ := min gate.arrived (gate.left + capacity)

def inside : ℕ := gate.admitted capacity - gate.left

def outside : ℕ := gate.arrived - gate.admitted capacity

variable {capacity gate}

theorem left_add_inside_add_outside :
    gate.left + gate.inside capacity + gate.outside capacity = gate.arrived := by
  have inOrder := gate.left_le
  simp only [inside, outside, admitted]
  omega

theorem inside_le : gate.inside capacity ≤ capacity := by
  simp only [inside, admitted]
  omega

/-- Nobody waits while there is room. -/
theorem inside_eq_of_outside (someone : gate.outside capacity ≠ 0) :
    gate.inside capacity = capacity := by
  simp only [inside, outside, admitted] at someone ⊢
  omega

theorem arrive_of_room (room : gate.inside capacity < capacity) :
    gate.arrive.inside capacity = gate.inside capacity + 1 ∧
      gate.arrive.outside capacity = gate.outside capacity := by
  have inOrder := gate.left_le
  simp only [arrive, inside, outside, admitted] at room ⊢
  omega

theorem arrive_of_full (full : gate.inside capacity = capacity) :
    gate.arrive.inside capacity = gate.inside capacity ∧
      gate.arrive.outside capacity = gate.outside capacity + 1 := by
  have inOrder := gate.left_le
  simp only [arrive, inside, outside, admitted] at full ⊢
  omega

variable {someone : gate.left < gate.arrived}

theorem leave_of_waiting (waiting : gate.outside capacity ≠ 0) :
    (gate.leave someone).inside capacity = gate.inside capacity ∧
      (gate.leave someone).outside capacity + 1 = gate.outside capacity := by
  simp only [leave, inside, outside, admitted] at waiting ⊢
  omega

theorem leave_of_none (nobody : gate.outside capacity = 0) :
    (gate.leave someone).inside capacity + 1 = gate.inside capacity ∧
      (gate.leave someone).outside capacity = 0 := by
  simp only [leave, inside, outside, admitted] at nobody ⊢
  omega

end Turnstile
