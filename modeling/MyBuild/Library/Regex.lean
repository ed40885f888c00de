import Mathlib.Data.List.Basic

/-!
# Regular expressions as a backtracking matcher reads them

An expression is read from the beginning of a text and leaves a rest.  The rests are listed in
the order in which the matcher tries them, so that the first one is its choice: the left branch
of an alternative comes first and a repetition takes as much as it can.  Look-ahead takes
nothing off the text, and an iteration of a star that takes nothing is rejected.
-/

inductive Regex (Letter : Type*) where
  | empty
  | one (accepts : Letter → Bool)
  | seq (first second : Regex Letter)
  | alt (left right : Regex Letter)
  | star (body : Regex Letter)
  | ahead (body : Regex Letter)
  | atEnd

namespace Regex

variable {Letter : Type*}

/-- As many steps as possible, every one of which takes something off the text. -/
def iterate (step : List Letter → List (List Letter)) : ℕ → List Letter → List (List Letter)
  | 0, text => [text]
  | fuel + 1, text =>
      ((step text).filter (·.length < text.length)).flatMap (iterate step fuel) ++ [text]

def remainders : Regex Letter → List Letter → List (List Letter)
  | empty, text => [text]
  | one _, [] => []
  | one accepts, letter :: rest => if accepts letter then [rest] else []
  | seq first second, text => (first.remainders text).flatMap second.remainders
  | alt left right, text => left.remainders text ++ right.remainders text
  | star body, text => iterate body.remainders text.length text
  | ahead body, text => if (body.remainders text).isEmpty then [] else [text]
  | atEnd, text => if text.isEmpty then [text] else []

/-- Whether the expression matches at the beginning of the text. -/
def test (expression : Regex Letter) (text : List Letter) : Bool :=
  !(expression.remainders text).isEmpty

def optional (body : Regex Letter) : Regex Letter := alt body empty

def plus (body : Regex Letter) : Regex Letter := seq body (star body)

/-- A word, the letters of the text compared by their keys. -/
def word [DecidableEq Letter] (key : Letter → Letter) : List Letter → Regex Letter
  | [] => empty
  | letter :: rest => seq (one (key · == letter)) (word key rest)

def times : ℕ → Regex Letter → Regex Letter
  | 0, _ => empty
  | count + 1, body => seq body (times count body)

def upTo : ℕ → Regex Letter → Regex Letter
  | 0, _ => empty
  | count + 1, body => alt (seq body (upTo count body)) empty

def between (low high : ℕ) (body : Regex Letter) : Regex Letter :=
  seq (times low body) (upTo (high - low) body)

/-- The text of a group that stands between two other parts of an expression, as the first
match takes it. -/
def capture (before group after : Regex Letter) (text : List Letter) : Option (List Letter) :=
  ((before.remainders text).flatMap fun start =>
    ((group.remainders start).filter fun rest => after.test rest).map fun rest =>
      start.take (start.length - rest.length)).head?

section Remainders

variable {expression first second body : Regex Letter} {accepts : Letter → Bool}
  {text rest : List Letter} {count low high : ℕ}

theorem test_iff : expression.test text = true ↔ ∃ rest, rest ∈ expression.remainders text := by
  simp only [test, Bool.not_eq_true', List.isEmpty_eq_false_iff_exists_mem]

section

attribute [local simp] remainders

@[simp]
theorem mem_remainders_empty : rest ∈ (empty : Regex Letter).remainders text ↔ rest = text := by
  simp [remainders]

@[simp]
theorem mem_remainders_one :
    rest ∈ (one accepts).remainders text ↔
      ∃ letter, accepts letter = true ∧ text = letter :: rest := by
  cases text with
  | nil => simp [remainders]
  | cons letter later =>
      simp only [remainders]
      split
      case isTrue accepted =>
        constructor
        · intro mem
          exact ⟨letter, accepted, by rw [List.mem_singleton.mp mem]⟩
        · rintro ⟨_, _, taken⟩
          simp [(List.cons.inj taken).2]
      case isFalse refused =>
        constructor
        · exact fun mem => absurd mem List.not_mem_nil
        · rintro ⟨_, accepted, taken⟩
          rw [(List.cons.inj taken).1] at refused
          exact absurd accepted refused

@[simp]
theorem mem_remainders_seq :
    rest ∈ (seq first second).remainders text ↔
      ∃ middle ∈ first.remainders text, rest ∈ second.remainders middle := by
  simp [remainders, List.mem_flatMap]

@[simp]
theorem mem_remainders_alt :
    rest ∈ (alt first second).remainders text ↔
      rest ∈ first.remainders text ∨ rest ∈ second.remainders text := by
  simp [remainders]

@[simp]
theorem mem_remainders_ahead :
    rest ∈ (ahead body).remainders text ↔ body.test text = true ∧ rest = text := by
  cases found : (body.remainders text).isEmpty <;> simp [remainders, test, found]

@[simp]
theorem mem_remainders_atEnd :
    rest ∈ (atEnd : Regex Letter).remainders text ↔ text = [] ∧ rest = [] := by
  cases text <;> simp [remainders]

end

theorem mem_remainders_optional :
    rest ∈ (optional body).remainders text ↔ rest ∈ body.remainders text ∨ rest = text := by
  simp [optional]

theorem mem_remainders_word [DecidableEq Letter] {key : Letter → Letter} {letters : List Letter} :
    rest ∈ (word key letters).remainders text ↔
      ∃ written, written.map key = letters ∧ text = written ++ rest := by
  induction letters generalizing text with
  | nil => simp [word, eq_comm]
  | cons letter letters ih =>
      simp only [word, mem_remainders_seq, mem_remainders_one, beq_iff_eq, ih]
      constructor
      · rintro ⟨_, ⟨first, same, rfl⟩, written, keys, rfl⟩
        exact ⟨first :: written, by simp [same, keys], rfl⟩
      · rintro ⟨written, keys, rfl⟩
        cases written with
        | nil => simp at keys
        | cons first written =>
            rw [List.map_cons, List.cons.injEq] at keys
            exact ⟨written ++ rest, ⟨first, keys.1, rfl⟩, written, keys.2, rfl⟩

theorem mem_iterate_one {fuel : ℕ} (enough : text.length ≤ fuel) :
    rest ∈ iterate (one accepts).remainders fuel text ↔
      ∃ run, (∀ letter ∈ run, accepts letter = true) ∧ text = run ++ rest := by
  induction fuel generalizing text with
  | zero =>
      have nothing : text = [] := List.eq_nil_of_length_eq_zero (by omega)
      subst nothing
      constructor
      · intro mem
        exact ⟨[], by simp, by simpa [iterate, eq_comm] using mem⟩
      · rintro ⟨run, _, split⟩
        simpa [iterate] using (List.append_eq_nil_iff.mp split.symm).2
  | succ fuel ih =>
      simp only [iterate, List.mem_append, List.mem_flatMap, List.mem_filter,
        mem_remainders_one, decide_eq_true_eq, List.mem_singleton]
      constructor
      · rintro (⟨later, ⟨⟨letter, accepted, taken⟩, _⟩, mem⟩ | same)
        · have shorter : later.length ≤ fuel := by
            rw [taken, List.length_cons] at enough
            omega
          rcases (ih shorter).mp mem with ⟨run, all, split⟩
          refine ⟨letter :: run, ?_, by rw [taken, split, List.cons_append]⟩
          exact List.forall_mem_cons.mpr ⟨accepted, all⟩
        · exact ⟨[], by simp, by simp [same]⟩
      · rintro ⟨run, all, split⟩
        cases run with
        | nil => exact Or.inr (by simpa [eq_comm] using split)
        | cons letter run =>
            rw [List.forall_mem_cons] at all
            rw [List.cons_append] at split
            have shorter : (run ++ rest).length ≤ fuel := by
              rw [split, List.length_cons] at enough
              omega
            refine Or.inl ⟨run ++ rest, ⟨⟨letter, all.1, split⟩, ?_⟩, ?_⟩
            · rw [split, List.length_cons]
              omega
            · exact (ih shorter).mpr ⟨run, all.2, rfl⟩

theorem mem_remainders_star_one :
    rest ∈ (star (one accepts)).remainders text ↔
      ∃ run, (∀ letter ∈ run, accepts letter = true) ∧ text = run ++ rest := by
  simp only [remainders]
  exact mem_iterate_one (Nat.le_refl _)

theorem mem_remainders_plus_one :
    rest ∈ (plus (one accepts)).remainders text ↔
      ∃ run, run ≠ [] ∧ (∀ letter ∈ run, accepts letter = true) ∧ text = run ++ rest := by
  simp only [plus, mem_remainders_seq, mem_remainders_one, mem_remainders_star_one]
  constructor
  · rintro ⟨middle, ⟨letter, accepted, taken⟩, run, all, split⟩
    refine ⟨letter :: run, by simp, List.forall_mem_cons.mpr ⟨accepted, all⟩, ?_⟩
    rw [taken, split, List.cons_append]
  · rintro ⟨run, some, all, split⟩
    cases run with
    | nil => exact absurd rfl some
    | cons letter run =>
        rw [List.forall_mem_cons] at all
        exact ⟨run ++ rest, ⟨letter, all.1, split⟩, run, all.2, rfl⟩

theorem mem_remainders_times_add {more : ℕ} :
    rest ∈ (times (count + more) body).remainders text ↔
      ∃ middle ∈ (times count body).remainders text,
        rest ∈ (times more body).remainders middle := by
  induction count generalizing text with
  | zero => simp [times]
  | succ count ih =>
      rw [Nat.add_right_comm]
      simp only [times, mem_remainders_seq, ih]
      constructor
      · rintro ⟨middle, step, later, run, last⟩
        exact ⟨later, ⟨middle, step, run⟩, last⟩
      · rintro ⟨later, ⟨middle, step, run⟩, last⟩
        exact ⟨middle, step, later, run, last⟩

theorem mem_remainders_upTo :
    rest ∈ (upTo high body).remainders text ↔
      ∃ count, count ≤ high ∧ rest ∈ (times count body).remainders text := by
  induction high generalizing text with
  | zero =>
      constructor
      · intro mem
        exact ⟨0, Nat.le_refl 0, by simpa [upTo, times] using mem⟩
      · rintro ⟨count, bound, mem⟩
        have none : count = 0 := by omega
        subst none
        simpa [upTo, times] using mem
  | succ high ih =>
      simp only [upTo, mem_remainders_alt, mem_remainders_seq, mem_remainders_empty, ih]
      constructor
      · rintro (⟨middle, step, count, bound, mem⟩ | same)
        · exact ⟨count + 1, by omega, by simpa [times] using ⟨middle, step, mem⟩⟩
        · exact ⟨0, by omega, by simpa [times] using same⟩
      · rintro ⟨count, bound, mem⟩
        cases count with
        | zero => exact Or.inr (by simpa [times] using mem)
        | succ count =>
            simp only [times, mem_remainders_seq] at mem
            rcases mem with ⟨middle, step, mem⟩
            exact Or.inl ⟨middle, step, count, by omega, mem⟩

theorem mem_remainders_between (ordered : low ≤ high) :
    rest ∈ (between low high body).remainders text ↔
      ∃ count, low ≤ count ∧ count ≤ high ∧ rest ∈ (times count body).remainders text := by
  simp only [between, mem_remainders_seq, mem_remainders_upTo]
  constructor
  · rintro ⟨middle, required, more, bound, mem⟩
    exact ⟨low + more, by omega, by omega, mem_remainders_times_add.mpr ⟨middle, required, mem⟩⟩
  · rintro ⟨count, atLeast, atMost, mem⟩
    have parts : low + (count - low) = count := by omega
    rw [← parts] at mem
    rcases mem_remainders_times_add.mp mem with ⟨middle, required, mem⟩
    exact ⟨middle, required, count - low, by omega, mem⟩

theorem mem_remainders_times_one :
    rest ∈ (times count (one accepts)).remainders text ↔
      ∃ run, run.length = count ∧ (∀ letter ∈ run, accepts letter = true) ∧
        text = run ++ rest := by
  induction count generalizing text with
  | zero =>
      simp only [times, mem_remainders_empty]
      constructor
      · rintro rfl
        exact ⟨[], rfl, by simp, rfl⟩
      · rintro ⟨run, long, _, split⟩
        rw [split, List.eq_nil_of_length_eq_zero long, List.nil_append]
  | succ count ih =>
      simp only [times, mem_remainders_seq, mem_remainders_one, ih]
      constructor
      · rintro ⟨middle, ⟨letter, accepted, taken⟩, run, long, all, split⟩
        refine ⟨letter :: run, by simp [long], List.forall_mem_cons.mpr ⟨accepted, all⟩, ?_⟩
        rw [taken, split, List.cons_append]
      · rintro ⟨run, long, all, split⟩
        cases run with
        | nil => simp at long
        | cons letter run =>
            rw [List.forall_mem_cons] at all
            exact ⟨run ++ rest, ⟨letter, all.1, split⟩, run, by simpa using long, all.2, rfl⟩

end Remainders

section Tests

variable {before group after : Regex Letter} {accepts : Letter → Bool}
  {text taken : List Letter} {low high : ℕ}

theorem test_plus_one_atEnd :
    (seq (plus (one accepts)) atEnd).test text = true ↔
      text ≠ [] ∧ ∀ letter ∈ text, accepts letter = true := by
  simp only [test_iff, mem_remainders_seq, mem_remainders_plus_one, mem_remainders_atEnd]
  constructor
  · rintro ⟨_, middle, ⟨run, some, all, rfl⟩, rfl, rfl⟩
    simpa using ⟨some, all⟩
  · rintro ⟨some, all⟩
    exact ⟨[], [], ⟨text, some, all, by simp⟩, rfl, rfl⟩

theorem test_star_one_atEnd :
    (seq (star (one accepts)) atEnd).test text = true ↔
      ∀ letter ∈ text, accepts letter = true := by
  simp only [test_iff, mem_remainders_seq, mem_remainders_star_one, mem_remainders_atEnd]
  constructor
  · rintro ⟨_, middle, ⟨run, all, rfl⟩, rfl, rfl⟩
    simpa using all
  · exact fun all => ⟨[], [], ⟨text, all, by simp⟩, rfl, rfl⟩

theorem test_seq_ahead {body second : Regex Letter} :
    (seq (ahead body) second).test text = true ↔
      body.test text = true ∧ second.test text = true := by
  simp only [test_iff, mem_remainders_seq, mem_remainders_ahead]
  constructor
  · rintro ⟨rest, _, ⟨seen, rfl⟩, mem⟩
    exact ⟨seen, rest, mem⟩
  · rintro ⟨seen, rest, mem⟩
    exact ⟨rest, text, ⟨seen, rfl⟩, mem⟩

theorem test_seq_optional_one {second : Regex Letter} :
    (seq (optional (one accepts)) second).test text = true ↔
      (∃ letter rest, accepts letter = true ∧ text = letter :: rest ∧ second.test rest = true) ∨
        second.test text = true := by
  simp only [test_iff, mem_remainders_seq, mem_remainders_optional, mem_remainders_one]
  constructor
  · rintro ⟨rest, middle, ⟨letter, accepted, taken⟩ | rfl, mem⟩
    · exact Or.inl ⟨letter, middle, accepted, taken, rest, mem⟩
    · exact Or.inr ⟨rest, mem⟩
  · rintro (⟨letter, middle, accepted, taken, rest, mem⟩ | ⟨rest, mem⟩)
    · exact ⟨rest, middle, Or.inl ⟨letter, accepted, taken⟩, mem⟩
    · exact ⟨rest, text, Or.inr rfl, mem⟩

/-- So many accepted letters, with anything else before each of them and after the last. -/
theorem test_times_seek {count : ℕ} :
    (seq (times count (seq (star (one (!accepts ·))) (one accepts)))
      (seq (star (one (!accepts ·))) atEnd)).test text = true ↔ text.countP accepts = count := by
  rw [test_iff]
  induction count generalizing text with
  | zero =>
      simp only [times, mem_remainders_empty, mem_remainders_seq, mem_remainders_star_one,
        mem_remainders_atEnd, List.countP_eq_zero]
      constructor
      · rintro ⟨_, middle, rfl, later, ⟨run, all, rfl⟩, rfl, rfl⟩ letter mem
        simpa using all letter (by simpa using mem)
      · intro all
        exact ⟨[], text, rfl, [], ⟨text, fun letter mem => by simpa using all letter mem,
          by simp⟩, rfl, rfl⟩
  | succ count ih =>
      constructor
      · rintro ⟨rest, mem⟩
        rcases mem_remainders_seq.mp mem with ⟨middle, sought, last⟩
        simp only [times, mem_remainders_seq, mem_remainders_star_one, mem_remainders_one]
          at sought
        rcases sought with ⟨next, ⟨start, ⟨run, all, rfl⟩, letter, accepted, rfl⟩, sought⟩
        have counted := ih.mp ⟨rest, mem_remainders_seq.mpr ⟨middle, sought, last⟩⟩
        have skipped : run.countP accepts = 0 :=
          List.countP_eq_zero.mpr fun other mem => by simpa using all other mem
        simp [List.countP_append, skipped, accepted, counted]
      · intro counted
        cases found : text.find? accepts with
        | none =>
            have none : text.countP accepts = 0 :=
              List.countP_eq_zero.mpr fun letter mem => List.find?_eq_none.mp found letter mem
            omega
        | some letter =>
            rcases List.find?_eq_some_iff_append.mp found with ⟨accepted, run, next, rfl, all⟩
            have skipped : run.countP accepts = 0 :=
              List.countP_eq_zero.mpr fun other mem => by simpa using all other mem
            have fewer : next.countP accepts = count := by
              simp only [List.countP_append, List.countP_cons, skipped, accepted, if_true]
                at counted
              omega
            rcases ih.mpr fewer with ⟨rest, mem⟩
            rcases mem_remainders_seq.mp mem with ⟨middle, mem, last⟩
            refine ⟨rest, mem_remainders_seq.mpr ⟨middle, ?_, last⟩⟩
            simp only [times, mem_remainders_seq, mem_remainders_star_one, mem_remainders_one]
            exact ⟨next, ⟨letter :: next, ⟨run, all, rfl⟩, letter, accepted, rfl⟩, mem⟩

theorem test_between_seek (ordered : low ≤ high) :
    (seq (between low high (seq (star (one (!accepts ·))) (one accepts)))
      (seq (star (one (!accepts ·))) atEnd)).test text = true ↔
      low ≤ text.countP accepts ∧ text.countP accepts ≤ high := by
  rw [test_iff]
  constructor
  · rintro ⟨rest, mem⟩
    rcases mem_remainders_seq.mp mem with ⟨middle, mem, last⟩
    rcases (mem_remainders_between ordered).mp mem with ⟨count, atLeast, atMost, mem⟩
    have counted := test_times_seek.mp
      (test_iff.mpr ⟨rest, mem_remainders_seq.mpr ⟨middle, mem, last⟩⟩)
    exact counted ▸ ⟨atLeast, atMost⟩
  · rintro ⟨atLeast, atMost⟩
    rcases test_iff.mp (test_times_seek.mpr (Eq.refl (text.countP accepts))) with ⟨rest, mem⟩
    rcases mem_remainders_seq.mp mem with ⟨middle, mem, last⟩
    exact ⟨rest, mem_remainders_seq.mpr ⟨middle,
      (mem_remainders_between ordered).mpr ⟨_, atLeast, atMost, mem⟩, last⟩⟩

/-- A captured text stands between what is before the group and what is after it. -/
theorem capture_eq_some (found : capture before group after text = some taken) :
    ∃ start ∈ before.remainders text, ∃ rest ∈ group.remainders start, after.test rest = true ∧
      taken = start.take (start.length - rest.length) := by
  have mem := List.mem_of_mem_head? found
  simp only [List.mem_flatMap, List.mem_map, List.mem_filter] at mem
  rcases mem with ⟨start, startMem, rest, ⟨restMem, tested⟩, same⟩
  exact ⟨start, startMem, rest, restMem, tested, same.symm⟩

theorem exists_capture {start rest : List Letter} (startMem : start ∈ before.remainders text)
    (restMem : rest ∈ group.remainders start) (tested : after.test rest = true) :
    ∃ taken, capture before group after text = some taken := by
  rw [← Option.isSome_iff_exists, capture, List.isSome_head?]
  refine List.ne_nil_of_mem (?_ : start.take (start.length - rest.length) ∈ _)
  simp only [List.mem_flatMap, List.mem_map, List.mem_filter]
  exact ⟨start, startMem, rest, ⟨restMem, tested⟩, rfl⟩

end Tests

end Regex
