import Mathlib.Data.List.Basic
import Mathlib.Data.List.Range
import Mathlib.Tactic.Ring

/-!
# A list in pages

A list is shown in pages of one size, numbered from one; there is at least one page, so that an
empty list has one, too.  Read one after another, the pages give the list, and beyond the last
there is nothing.
-/

namespace Paging

variable {Row : Type*}

def page (size number : ℕ) (rows : List Row) : List Row :=
  (rows.drop ((number - 1) * size)).take size

def count (size total : ℕ) : ℕ := max 1 ((total + size - 1) / size)

/-- The pages from the first on, one after another. -/
def pages (size number : ℕ) (rows : List Row) : List (List Row) :=
  (List.range number).map fun index => page size (index + 1) rows

variable {size number : ℕ} {rows : List Row}

theorem flatten_pages_eq_take : (pages size number rows).flatten = rows.take (number * size) := by
  induction number with
  | zero => simp [pages]
  | succ number ih =>
      have last : pages size (number + 1) rows =
          pages size number rows ++ [page size (number + 1) rows] := by
        simp [pages, List.range_succ]
      have sum : (number + 1) * size = number * size + size := by ring
      rw [last, List.flatten_append, ih, List.flatten_singleton, sum, List.take_add, page,
        Nat.add_sub_cancel]

theorem le_count_mul (positive : 0 < size) (total : ℕ) : total ≤ count size total * size := by
  have quotient := Nat.div_add_mod (total + size - 1) size
  have rest := Nat.mod_lt (total + size - 1) positive
  have least : (total + size - 1) / size * size ≤ count size total * size :=
    Nat.mul_le_mul_right size (le_max_right _ _)
  have swapped := Nat.mul_comm size ((total + size - 1) / size)
  omega

theorem flatten_pages (positive : 0 < size) :
    (pages size (count size rows.length) rows).flatten = rows := by
  rw [flatten_pages_eq_take]
  exact List.take_of_length_le (le_count_mul positive rows.length)

theorem page_eq_nil (positive : 0 < size) (outside : count size rows.length < number) :
    page size number rows = [] := by
  have enough := le_count_mul positive rows.length
  have skipped : count size rows.length * size ≤ (number - 1) * size :=
    Nat.mul_le_mul_right size (by omega)
  rw [page, List.drop_eq_nil_of_le (enough.trans skipped), List.take_nil]

end Paging
