import Mathlib.Data.List.DropRight

/-!
# Pieces of a text

A text is the list of its characters.  Trimming drops skipped characters at both ends, a cut
takes what stands after the last separator, and collapsing puts one mark in the place of every
run of characters that are not wanted.
-/

namespace Pieces

variable {Letter : Type*}

def trim (skipped : Letter → Bool) (text : List Letter) : List Letter :=
  (text.dropWhile skipped).rdropWhile skipped

/-- The place of the last occurrence of a character. -/
def lastIndexOf [DecidableEq Letter] (letter : Letter) : List Letter → Option ℕ
  | [] => none
  | first :: rest =>
      match lastIndexOf letter rest with
      | some index => some (index + 1)
      | none => if first = letter then some 0 else none

/-- What stands after the last separator; all of the text when there is none. -/
def afterLast (isSeparator : Letter → Bool) (text : List Letter) : List Letter :=
  text.rtakeWhile fun letter => !isSeparator letter

/-- Every run of unwanted characters as one mark; the flag says that a run has begun. -/
def collapse (unwanted : Letter → Bool) (mark : Letter) : Bool → List Letter → List Letter
  | _, [] => []
  | inRun, letter :: rest =>
      if unwanted letter then
        if inRun then collapse unwanted mark true rest
        else mark :: collapse unwanted mark true rest
      else letter :: collapse unwanted mark false rest

section Trimming

variable {skipped kept : Letter → Bool} {letter : Letter} {before after text : List Letter}

theorem dropWhile_append_cons (stays : skipped letter = false) :
    (before ++ letter :: after).dropWhile skipped =
      before.dropWhile skipped ++ letter :: after := by
  induction before with
  | nil => simp [stays]
  | cons first rest ih =>
      rw [List.cons_append, List.dropWhile_cons, List.dropWhile_cons]
      split
      · exact ih
      · rfl

theorem rdropWhile_append_cons (stays : skipped letter = false) :
    (before ++ letter :: after).rdropWhile skipped =
      before ++ letter :: after.rdropWhile skipped := by
  have reversed : (before ++ letter :: after).reverse =
      after.reverse ++ letter :: before.reverse := by simp
  simp only [List.rdropWhile, reversed, dropWhile_append_cons stays]
  simp

theorem trim_append_cons (stays : skipped letter = false) :
    trim skipped (before ++ letter :: after) =
      before.dropWhile skipped ++ letter :: after.rdropWhile skipped := by
  rw [trim, dropWhile_append_cons stays, rdropWhile_append_cons stays]

theorem dropWhile_of_all (all : ∀ letter ∈ before, skipped letter = true) :
    (before ++ text).dropWhile skipped = text.dropWhile skipped := by
  induction before with
  | nil => rfl
  | cons first rest ih =>
      rw [List.forall_mem_cons] at all
      rw [List.cons_append, List.dropWhile_cons_of_pos all.1]
      exact ih all.2

theorem rdropWhile_of_all (all : ∀ letter ∈ after, skipped letter = true) :
    (text ++ after).rdropWhile skipped = text.rdropWhile skipped := by
  simp only [List.rdropWhile, List.reverse_append]
  rw [dropWhile_of_all]
  intro letter mem
  exact all letter (List.mem_reverse.mp mem)

theorem trim_eq_nil_iff : trim skipped text = [] ↔ ∀ letter ∈ text, skipped letter = true := by
  constructor
  · intro empty letter mem
    cases stays : skipped letter with
    | true => rfl
    | false =>
        rcases List.append_of_mem mem with ⟨before, after, rfl⟩
        rw [trim_append_cons stays] at empty
        simp at empty
  · intro all
    have dropped : (text ++ []).dropWhile skipped = [].dropWhile skipped := dropWhile_of_all all
    rw [List.append_nil] at dropped
    rw [trim, dropped]
    rfl

/-- Skipped characters around a text do not count. -/
theorem trim_append_of_all (leading : ∀ letter ∈ before, skipped letter = true)
    (trailing : ∀ letter ∈ after, skipped letter = true) :
    trim skipped (before ++ text ++ after) = trim skipped text := by
  by_cases all : ∀ letter ∈ text, skipped letter = true
  · rw [trim_eq_nil_iff.mpr all, trim_eq_nil_iff]
    intro letter mem
    rw [List.mem_append, List.mem_append] at mem
    rcases mem with (mem | mem) | mem
    · exact leading letter mem
    · exact all letter mem
    · exact trailing letter mem
  · push Not at all
    rcases all with ⟨letter, mem, stays⟩
    rw [ne_eq, Bool.not_eq_true] at stays
    rcases List.append_of_mem mem with ⟨first, last, rfl⟩
    have regrouped : before ++ (first ++ letter :: last) ++ after =
        (before ++ first) ++ letter :: (last ++ after) := by simp
    rw [regrouped, trim_append_cons stays, trim_append_cons stays, dropWhile_of_all leading,
      rdropWhile_of_all trailing]

/-- A text is what is trimmed at both ends and its trimmed form between. -/
theorem exists_trim (skipped : Letter → Bool) (text : List Letter) :
    ∃ before after, text = before ++ trim skipped text ++ after ∧
      (∀ letter ∈ before, skipped letter = true) ∧ ∀ letter ∈ after, skipped letter = true := by
  refine ⟨text.takeWhile skipped, (text.dropWhile skipped).rtakeWhile skipped, ?_, ?_, ?_⟩
  · rw [trim, List.append_assoc, List.rdropWhile_append_rtakeWhile, List.takeWhile_append_dropWhile]
  · exact fun letter mem => List.mem_takeWhile_imp mem
  · exact fun letter mem => List.mem_rtakeWhile_imp mem

theorem trim_trim : trim skipped (trim skipped text) = trim skipped text := by
  rcases exists_trim skipped text with ⟨before, after, same, leading, trailing⟩
  have trimmed := congrArg (trim skipped) same
  rw [trim_append_of_all leading trailing] at trimmed
  exact trimmed.symm

/-- Trimming before a filter makes no difference to the trimmed result. -/
theorem trim_filter_trim :
    trim skipped ((trim skipped text).filter kept) = trim skipped (text.filter kept) := by
  rcases exists_trim skipped text with ⟨before, after, same, leading, trailing⟩
  have filtered := congrArg (fun text => trim skipped (text.filter kept)) same
  simp only [List.filter_append] at filtered
  rw [trim_append_of_all (fun letter mem => leading letter (List.mem_filter.mp mem).1)
    (fun letter mem => trailing letter (List.mem_filter.mp mem).1)] at filtered
  exact filtered.symm

/-- A text that keeps its ends when more is skipped keeps them when less is. -/
theorem trim_eq_self_of_imp (trimmed : trim skipped text = text)
    (fewer : ∀ letter ∈ text, kept letter = true → skipped letter = true) :
    trim kept text = text := by
  rcases exists_trim kept text with ⟨before, after, same, leading, trailing⟩
  have leadingSkipped : ∀ letter ∈ before, skipped letter = true := by
    intro letter mem
    exact fewer letter (by rw [same]; simp [mem]) (leading letter mem)
  have trailingSkipped : ∀ letter ∈ after, skipped letter = true := by
    intro letter mem
    exact fewer letter (by rw [same]; simp [mem]) (trailing letter mem)
  have inner : trim skipped (before ++ trim kept text ++ after) = trim skipped (trim kept text) :=
    trim_append_of_all leadingSkipped trailingSkipped
  rw [← same, trimmed] at inner
  rcases exists_trim skipped (trim kept text) with ⟨first, last, outer, _, _⟩
  rw [← inner] at outer
  have longer := congrArg List.length outer
  have shorter := congrArg List.length same
  simp only [List.length_append] at longer shorter
  have noneBefore : before = [] := List.eq_nil_of_length_eq_zero (by omega)
  have noneAfter : after = [] := List.eq_nil_of_length_eq_zero (by omega)
  rw [noneBefore, noneAfter, List.nil_append, List.append_nil] at same
  exact same.symm

/-- A change of letters that leaves the skipped ones skipped commutes with trimming. -/
theorem trim_map {change : Letter → Letter}
    (same : ∀ letter, skipped (change letter) = skipped letter) :
    trim skipped (text.map change) = (trim skipped text).map change := by
  have dropped : (skipped ∘ change) = skipped := funext same
  simp only [trim, List.rdropWhile, List.dropWhile_map, ← List.map_reverse, dropped]

theorem mem_of_mem_trim (mem : letter ∈ trim skipped text) : letter ∈ text := by
  rcases exists_trim skipped text with ⟨before, after, same, _, _⟩
  rw [same]
  simp [mem]

theorem mem_trim_of_mem (mem : letter ∈ text) (stays : skipped letter = false) :
    letter ∈ trim skipped text := by
  rcases List.append_of_mem mem with ⟨before, after, rfl⟩
  rw [trim_append_cons stays]
  simp

end Trimming

section Cutting

variable {letter : Letter} {before after text : List Letter}

theorem lastIndexOf_eq_none [DecidableEq Letter] (absent : letter ∉ text) :
    lastIndexOf letter text = none := by
  induction text with
  | nil => rfl
  | cons first rest ih =>
      rw [List.mem_cons, not_or] at absent
      simp [lastIndexOf, ih absent.2, Ne.symm absent.1]

theorem lastIndexOf_append_cons [DecidableEq Letter] (absent : letter ∉ after) :
    lastIndexOf letter (before ++ letter :: after) = some before.length := by
  induction before with
  | nil => simp [lastIndexOf, lastIndexOf_eq_none absent]
  | cons first rest ih => simp [lastIndexOf, ih]

/-- A text can be cut before its last separator in one way only. -/
theorem last_cut_inj [DecidableEq Letter] {otherBefore otherAfter : List Letter}
    (same : before ++ letter :: after = otherBefore ++ letter :: otherAfter)
    (absent : letter ∉ after) (otherAbsent : letter ∉ otherAfter) :
    before = otherBefore ∧ after = otherAfter := by
  have index := @lastIndexOf_append_cons _ _ before _ _ absent
  rw [same, lastIndexOf_append_cons otherAbsent, Option.some.injEq] at index
  rcases List.append_inj same index.symm with ⟨sameBefore, rests⟩
  exact ⟨sameBefore, (List.cons.inj rests).2⟩

theorem exists_last (mem : letter ∈ text) :
    ∃ before after, text = before ++ letter :: after ∧ letter ∉ after := by
  rcases List.eq_append_cons_of_mem (List.mem_reverse.mpr mem) with ⟨after, before, same, absent⟩
  refine ⟨before.reverse, after.reverse, ?_, by simpa using absent⟩
  have straight := congrArg List.reverse same
  simpa using straight

end Cutting

theorem mem_collapse {unwanted : Letter → Bool} {mark letter : Letter} {inRun : Bool}
    {text : List Letter} (mem : letter ∈ collapse unwanted mark inRun text) :
    letter = mark ∨ letter ∈ text ∧ unwanted letter = false := by
  induction text generalizing inRun with
  | nil => exact absurd mem List.not_mem_nil
  | cons first rest ih =>
      rw [collapse] at mem
      split at mem
      · split at mem
        · rcases ih mem with isMark | ⟨old, wanted⟩
          · exact Or.inl isMark
          · exact Or.inr ⟨List.mem_cons_of_mem _ old, wanted⟩
        · rcases List.mem_cons.mp mem with isMark | later
          · exact Or.inl isMark
          · rcases ih later with isMark | ⟨old, wanted⟩
            · exact Or.inl isMark
            · exact Or.inr ⟨List.mem_cons_of_mem _ old, wanted⟩
      · rename_i wanted
        rcases List.mem_cons.mp mem with rfl | later
        · exact Or.inr ⟨List.mem_cons_self, by simpa using wanted⟩
        · rcases ih later with isMark | ⟨old, alsoWanted⟩
          · exact Or.inl isMark
          · exact Or.inr ⟨List.mem_cons_of_mem _ old, alsoWanted⟩

end Pieces
