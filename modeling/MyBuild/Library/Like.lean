import Mathlib.Data.List.Infix

/-!
# Patterns with marks and an escape

A pattern is read letter by letter: one mark stands for any text, one for any letter, and the
letter after the escape stands for itself.  A pattern that ends with the escape is refused.
Escaping puts the escape before every special letter, so that an escaped text between two
marks of any text finds the texts that contain it.
-/

namespace Like

structure Marks (Letter : Type*) where
  many : Letter
  one : Letter
  escape : Letter
  distinct : [many, one, escape].Nodup

inductive Token (Letter : Type*) where
  | many
  | one
  | literal (letter : Letter)

variable {Letter : Type*} [DecidableEq Letter]

def Marks.isSpecial (marks : Marks Letter) (letter : Letter) : Bool :=
  letter = marks.many || letter = marks.one || letter = marks.escape

def Marks.token (marks : Marks Letter) (letter : Letter) : Token Letter :=
  if letter = marks.many then .many
  else if letter = marks.one then .one
  else .literal letter

def Marks.tokens (marks : Marks Letter) : List Letter → Option (List (Token Letter))
  | [] => some []
  | [letter] => if letter = marks.escape then none else some [marks.token letter]
  | letter :: next :: rest =>
      if letter = marks.escape then (marks.tokens rest).map (.literal next :: ·)
      else (marks.tokens (next :: rest)).map (marks.token letter :: ·)

def accepts : List (Token Letter) → List Letter → Bool
  | [], text => text.isEmpty
  | .many :: rest, text => text.tails.any (accepts rest)
  | .one :: _, [] => false
  | .one :: rest, _ :: text => accepts rest text
  | .literal _ :: _, [] => false
  | .literal letter :: rest, first :: text => letter = first && accepts rest text

def Marks.like (marks : Marks Letter) (pattern text : List Letter) : Bool :=
  match marks.tokens pattern with
  | none => false
  | some tokens => accepts tokens text

def replaceAll (target : Letter) (replacement : List Letter) (text : List Letter) : List Letter :=
  text.flatMap fun letter => if letter = target then replacement else [letter]

/-- The escape goes first, so that the escapes of the other marks are not escaped again. -/
def Marks.escapeAll (marks : Marks Letter) (text : List Letter) : List Letter :=
  replaceAll marks.one [marks.escape, marks.one]
    (replaceAll marks.many [marks.escape, marks.many]
      (replaceAll marks.escape [marks.escape, marks.escape] text))

/-- A folding of letters that leaves the special ones alone and makes no other letter special. -/
structure Marks.Folding (marks : Marks Letter) where
  fold : Letter → Letter
  keeps : ∀ letter, marks.isSpecial letter = true ∨ marks.isSpecial (fold letter) = true →
    fold letter = letter

def Marks.Folding.like {marks : Marks Letter} (folding : marks.Folding)
    (pattern text : List Letter) : Bool :=
  marks.like (pattern.map folding.fold) (text.map folding.fold)

section Literal

variable {marks : Marks Letter} {letter : Letter} {text query rest : List Letter}
  {tokens : List (Token Letter)}

theorem Marks.escapeAll_cons :
    marks.escapeAll (letter :: rest) =
      (if marks.isSpecial letter then [marks.escape, letter] else [letter]) ++
        marks.escapeAll rest := by
  have distinct := marks.distinct
  simp only [List.nodup_cons, List.mem_cons, List.not_mem_nil, or_false, not_or] at distinct
  rcases distinct with ⟨⟨manyOne, manyEscape⟩, oneEscape, _⟩
  have oneMany := Ne.symm manyOne
  have escapeMany := Ne.symm manyEscape
  have escapeOne := Ne.symm oneEscape
  by_cases isEscape : letter = marks.escape
  · subst isEscape
    simp [escapeAll, replaceAll, isSpecial, escapeMany, escapeOne]
  · by_cases isMany : letter = marks.many
    · subst isMany
      simp [escapeAll, replaceAll, isSpecial, manyEscape, manyOne, escapeOne]
    · by_cases isOne : letter = marks.one
      · subst isOne
        simp [escapeAll, replaceAll, isSpecial, oneEscape, oneMany]
      · simp [escapeAll, replaceAll, isSpecial, isEscape, isMany, isOne]

theorem Marks.tokens_escape_cons :
    marks.tokens (marks.escape :: letter :: rest) =
      (marks.tokens rest).map (.literal letter :: ·) := by
  simp [tokens]

theorem Marks.tokens_cons (unescaped : letter ≠ marks.escape) :
    marks.tokens (letter :: rest) = (marks.tokens rest).map (marks.token letter :: ·) := by
  cases rest with
  | nil => simp [tokens, unescaped]
  | cons next rest => simp [tokens, unescaped]

theorem Marks.tokens_escapeAll_append (read : marks.tokens rest = some tokens) :
    marks.tokens (marks.escapeAll query ++ rest) = some (query.map .literal ++ tokens) := by
  induction query with
  | nil => simpa [escapeAll, replaceAll] using read
  | cons letter query ih =>
      rw [escapeAll_cons, List.append_assoc]
      by_cases special : marks.isSpecial letter = true
      · rw [if_pos special, List.cons_append, List.cons_append, List.nil_append,
          tokens_escape_cons, ih]
        rfl
      · rw [if_neg special, List.cons_append, List.nil_append]
        simp only [isSpecial, Bool.or_eq_true, decide_eq_true_eq, not_or] at special
        rw [tokens_cons special.2, ih]
        simp [token, special.1.1, special.1.2]

theorem accepts_literals_append :
    accepts (query.map .literal ++ tokens) text = true ↔
      ∃ rest, text = query ++ rest ∧ accepts tokens rest = true := by
  induction query generalizing text with
  | nil => simp
  | cons letter query ih =>
      cases text with
      | nil => simp [accepts]
      | cons first text =>
          simp only [List.map_cons, List.cons_append, accepts, Bool.and_eq_true,
            decide_eq_true_eq, ih, List.cons.injEq]
          constructor
          · rintro ⟨same, rest, split, accepted⟩
            exact ⟨rest, ⟨same.symm, split⟩, accepted⟩
          · rintro ⟨rest, ⟨same, split⟩, accepted⟩
            exact ⟨same.symm, rest, split, accepted⟩

theorem accepts_many :
    accepts (.many :: tokens) text = true ↔
      ∃ before rest, text = before ++ rest ∧ accepts tokens rest = true := by
  simp only [accepts, List.any_eq_true, List.mem_tails]
  constructor
  · rintro ⟨rest, ⟨before, split⟩, accepted⟩
    exact ⟨before, rest, split.symm, accepted⟩
  · rintro ⟨before, rest, split, accepted⟩
    exact ⟨rest, ⟨before, split.symm⟩, accepted⟩

/-- Between two marks of any text, an escaped text is found where it stands literally. -/
theorem Marks.like_contains :
    marks.like (marks.many :: (marks.escapeAll query ++ [marks.many])) text = true ↔
      query <:+: text := by
  have distinct := marks.distinct
  simp only [List.nodup_cons, List.mem_cons, List.not_mem_nil, or_false, not_or] at distinct
  have unescaped := distinct.1.2
  have last : marks.tokens [marks.many] = some [.many] := by
    simp [tokens, token, unescaped]
  have read : marks.tokens (marks.many :: (marks.escapeAll query ++ [marks.many])) =
      some (.many :: (query.map .literal ++ [.many])) := by
    rw [tokens_cons unescaped, tokens_escapeAll_append last]
    simp [token]
  rw [like, read]
  simp only [accepts_many, accepts_literals_append]
  constructor
  · rintro ⟨before, _, rfl, after, rfl, _⟩
    exact ⟨before, after, by simp⟩
  · rintro ⟨before, after, rfl⟩
    exact ⟨before, query ++ after, by simp, after, rfl, after, [], by simp, rfl⟩

theorem Marks.Folding.escapeAll_map (folding : marks.Folding) :
    (marks.escapeAll query).map folding.fold = marks.escapeAll (query.map folding.fold) := by
  have escapeKept : folding.fold marks.escape = marks.escape :=
    folding.keeps _ (Or.inl (by simp [isSpecial]))
  induction query with
  | nil => rfl
  | cons letter query ih =>
      rw [List.map_cons, escapeAll_cons, escapeAll_cons, List.map_append, ih]
      by_cases special : marks.isSpecial letter = true
      · simp [folding.keeps letter (Or.inl special), special, escapeKept]
      · by_cases folded : marks.isSpecial (folding.fold letter) = true
        · rw [folding.keeps letter (Or.inr folded)] at folded
          exact absurd folded special
        · simp [special, folded]

theorem Marks.Folding.like_contains (folding : marks.Folding) :
    folding.like (marks.many :: (marks.escapeAll query ++ [marks.many])) text = true ↔
      query.map folding.fold <:+: text.map folding.fold := by
  have manyKept : folding.fold marks.many = marks.many :=
    folding.keeps _ (Or.inl (by simp [isSpecial]))
  rw [Folding.like, List.map_cons, List.map_append, folding.escapeAll_map, List.map_singleton,
    manyKept, Marks.like_contains]

end Literal

end Like
