import Mathlib.Data.List.Basic

/-!
# Runs of a step function

A system takes one labelled step after another; a run is the list of its labels.
A label that is not enabled leaves the state alone, so every list of labels is a
run.  `Along` restricts a run to steps that meet a condition in the state before
them, `AtLast` asks the condition of the last of the steps that are marked.
-/

namespace Runs

variable {State Label : Type} (step : State → Label → State)

def run (state : State) (labels : List Label) : State :=
  labels.foldl step state

@[simp]
theorem run_nil (state : State) : run step state [] = state := rfl

@[simp]
theorem run_cons (state : State) (label : Label) (labels : List Label) :
    run step state (label :: labels) = run step (step state label) labels := rfl

theorem run_append (state : State) (first second : List Label) :
    run step state (first ++ second) = run step (run step state first) second := by
  simp [run]

/-- Every step of the run meets the condition in the state before it. -/
def Along (Condition : State → Label → Prop) : State → List Label → Prop
  | _, [] => True
  | state, label :: labels =>
      Condition state label ∧ Along Condition (step state label) labels

/-- How many steps of the run are counted, each judged in the state before it. -/
def count (counted : State → Label → Bool) : State → List Label → ℕ
  | _, [] => 0
  | state, label :: labels =>
      (if counted state label then 1 else 0) + count counted (step state label) labels

variable {step}

instance Along.decidable (Condition : State → Label → Prop)
    [∀ state label, Decidable (Condition state label)] (state : State) (labels : List Label) :
    Decidable (Along step Condition state labels) :=
  match labels with
  | [] => .isTrue trivial
  | label :: rest =>
      have := Along.decidable Condition (step state label) rest
      inferInstanceAs (Decidable (_ ∧ _))

theorem Along.append {Condition : State → Label → Prop} {state : State}
    {first second : List Label} :
    Along step Condition state (first ++ second) ↔
      Along step Condition state first ∧
        Along step Condition (run step state first) second := by
  induction first generalizing state with
  | nil => simp [Along]
  | cons label labels ih => simp [Along, ih, and_assoc]

/-- A condition holds along a run when it holds wherever the run is cut before a step. -/
theorem along_iff_forall_cut {Condition : State → Label → Prop} {state : State}
    {labels : List Label} :
    Along step Condition state labels ↔
      ∀ before label after, labels = before ++ label :: after →
        Condition (run step state before) label := by
  constructor
  · rintro along before label after rfl
    exact (Along.append.mp along).2.1
  · intro holds
    induction labels generalizing state with
    | nil => exact trivial
    | cons label labels ih =>
        refine ⟨holds [] label labels rfl, ih ?_⟩
        rintro before next after rfl
        exact holds (label :: before) next after rfl

theorem Along.invariant {Condition : State → Label → Prop} {Invariant : State → Prop}
    (preserved : ∀ state label, Condition state label → Invariant state →
      Invariant (step state label))
    {state : State} {labels : List Label} (along : Along step Condition state labels)
    (holds : Invariant state) : Invariant (run step state labels) := by
  induction labels generalizing state with
  | nil => exact holds
  | cons label labels ih =>
      exact ih along.2 (preserved state label along.1 holds)

theorem Along.consequence {Condition Consequence : State → Label → Prop}
    {Invariant : State → Prop}
    (preserved : ∀ state label, Condition state label → Invariant state →
      Invariant (step state label))
    (consequence : ∀ state label, Condition state label → Invariant state →
      Consequence state label)
    {state : State} {labels : List Label} (along : Along step Condition state labels)
    (holds : Invariant state) : Along step Consequence state labels := by
  induction labels generalizing state with
  | nil => exact trivial
  | cons label labels ih =>
      exact ⟨consequence state label along.1 holds,
        ih along.2 (preserved state label along.1 holds)⟩

theorem Along.of_forall {Condition : State → Label → Prop}
    (always : ∀ state label, Condition state label) (state : State) (labels : List Label) :
    Along step Condition state labels := by
  induction labels generalizing state with
  | nil => exact trivial
  | cons label labels ih => exact ⟨always state label, ih (step state label)⟩

theorem Along.of_mem {Condition : Label → Prop} {labels : List Label}
    (each : ∀ label ∈ labels, Condition label) (state : State) :
    Along step (fun _ label => Condition label) state labels := by
  induction labels generalizing state with
  | nil => exact trivial
  | cons label labels ih =>
      rw [List.forall_mem_cons] at each
      exact ⟨each.1, ih each.2 (step state label)⟩

/-- Under an invariant that the first condition carries on, two conditions that come to the same
at a step come to the same along a run. -/
theorem Along.congr {First Second : State → Label → Prop} {Invariant : State → Prop}
    (same : ∀ state label, Invariant state → (First state label ↔ Second state label))
    (preserved : ∀ state label, First state label → Invariant state →
      Invariant (step state label))
    {state : State} (holds : Invariant state) (labels : List Label) :
    Along step First state labels ↔ Along step Second state labels := by
  induction labels generalizing state with
  | nil => rfl
  | cons label labels ih =>
      simp only [Along]
      constructor
      · rintro ⟨first, rest⟩
        exact ⟨(same state label holds).mp first, (ih (preserved state label first holds)).mp rest⟩
      · rintro ⟨second, rest⟩
        have first := (same state label holds).mpr second
        exact ⟨first, (ih (preserved state label first holds)).mpr rest⟩

/-- At no point of the run is the measure less than it has been before. -/
def NeverFalls (step : State → Label → State) (measure : State → ℕ) (state : State)
    (labels : List Label) : Prop :=
  ∀ before middle after, labels = before ++ middle ++ after →
    measure (run step state before) ≤ measure (run step state (before ++ middle))

/-- It is enough that no step lessens the measure. -/
theorem neverFalls_iff {measure : State → ℕ} {state : State} {labels : List Label} :
    NeverFalls step measure state labels ↔
      Along step (fun state label => measure state ≤ measure (step state label)) state labels := by
  constructor
  · intro never
    induction labels generalizing state with
    | nil => exact trivial
    | cons label labels ih =>
        refine ⟨never [] [label] labels rfl, ih ?_⟩
        rintro before middle after rfl
        exact never (label :: before) middle after rfl
  · rintro along before middle after rfl
    rw [List.append_assoc, Along.append, Along.append] at along
    have grown : ∀ (state : State) (labels : List Label),
        Along step (fun state label => measure state ≤ measure (step state label)) state labels →
          measure state ≤ measure (run step state labels) := by
      intro state labels along
      induction labels generalizing state with
      | nil => exact Nat.le_refl _
      | cons label labels ih => exact Nat.le_trans along.1 (ih _ along.2)
    rw [run_append]
    exact grown _ _ along.2.1

theorem run_invariant {Invariant : State → Prop}
    (preserved : ∀ state label, Invariant state → Invariant (step state label))
    {state : State} (holds : Invariant state) (labels : List Label) :
    Invariant (run step state labels) := by
  have along : Along step (fun _ _ => True) state labels :=
    Along.of_forall (fun _ _ => trivial) state labels
  exact along.invariant (fun state label _ => preserved state label) holds

theorem run_relation {Invariant : State → Prop} {Related : State → State → Prop}
    (reflexive : ∀ state, Related state state)
    (transitive : ∀ first second third, Related first second → Related second third →
      Related first third)
    (preserved : ∀ state label, Invariant state → Invariant (step state label))
    (related : ∀ state label, Invariant state → Related state (step state label))
    {state : State} (holds : Invariant state) (labels : List Label) :
    Related state (run step state labels) := by
  induction labels generalizing state with
  | nil => exact reflexive state
  | cons label labels ih =>
      exact transitive _ _ _ (related state label holds) (ih (preserved state label holds))

/-- A measure that grows by one at the counted steps, and at no other, counts them. -/
theorem Along.measure_eq {Condition : State → Label → Prop} {Invariant : State → Prop}
    {measure : State → ℕ} {counted : State → Label → Bool}
    (preserved : ∀ state label, Condition state label → Invariant state →
      Invariant (step state label))
    (counts : ∀ state label, Condition state label → Invariant state →
      measure (step state label) = measure state + if counted state label then 1 else 0)
    {state : State} {labels : List Label} (along : Along step Condition state labels)
    (holds : Invariant state) :
    measure (run step state labels) = measure state + count step counted state labels := by
  induction labels generalizing state with
  | nil => simp [count]
  | cons label labels ih =>
      rw [run_cons, ih along.2 (preserved state label along.1 holds),
        counts state label along.1 holds, count]
      omega

/-- A measure that falls by one at most, and only at the counted steps, falls no further than
their number. -/
theorem Along.measure_le {Condition : State → Label → Prop} {Invariant : State → Prop}
    {measure : State → ℕ} {counted : State → Label → Bool}
    (preserved : ∀ state label, Condition state label → Invariant state →
      Invariant (step state label))
    (falls : ∀ state label, Condition state label → Invariant state →
      measure state ≤ measure (step state label) + if counted state label then 1 else 0)
    {state : State} {labels : List Label} (along : Along step Condition state labels)
    (holds : Invariant state) :
    measure state ≤ measure (run step state labels) + count step counted state labels := by
  induction labels generalizing state with
  | nil => simp [count]
  | cons label labels ih =>
      have first := falls state label along.1 holds
      have rest := ih along.2 (preserved state label along.1 holds)
      rw [run_cons, count]
      omega

theorem run_count {Invariant : State → Prop} {measure : State → ℕ}
    {counted : State → Label → Bool}
    (preserved : ∀ state label, Invariant state → Invariant (step state label))
    (counts : ∀ state label, Invariant state →
      measure (step state label) = measure state + if counted state label then 1 else 0)
    {state : State} (holds : Invariant state) (labels : List Label) :
    measure (run step state labels) = measure state + count step counted state labels := by
  have along : Along step (fun _ _ => True) state labels :=
    Along.of_forall (fun _ _ => trivial) state labels
  exact along.measure_eq (fun state label _ => preserved state label)
    (fun state label _ => counts state label) holds

/-- The last marked step of the run, if there is one, meets the condition in the state before
it. -/
def AtLast (step : State → Label → State) (Marked Condition : State → Label → Prop) :
    State → List Label → Prop
  | _, [] => True
  | state, label :: labels =>
      (Marked state label →
        Along step (fun state label => ¬Marked state label) (step state label) labels →
          Condition state label) ∧
        AtLast step Marked Condition (step state label) labels

instance AtLast.decidable (Marked Condition : State → Label → Prop)
    [∀ state label, Decidable (Marked state label)]
    [∀ state label, Decidable (Condition state label)] (state : State) (labels : List Label) :
    Decidable (AtLast step Marked Condition state labels) :=
  match labels with
  | [] => .isTrue trivial
  | label :: rest =>
      have := AtLast.decidable Marked Condition (step state label) rest
      inferInstanceAs (Decidable (_ ∧ _))

section

variable {Marked Condition : State → Label → Prop} {state : State} {labels : List Label}

theorem AtLast.of_unmarked
    (unmarked : Along step (fun state label => ¬Marked state label) state labels) :
    AtLast step Marked Condition state labels := by
  induction labels generalizing state with
  | nil => exact trivial
  | cons label labels ih => exact ⟨fun marked => absurd marked unmarked.1, ih unmarked.2⟩

/-- A run has one last marked step at most: if that step does not meet a condition, there is one,
and it meets the opposite. -/
theorem AtLast.not (fails : ¬AtLast step Marked Condition state labels) :
    AtLast step Marked (fun state label => ¬Condition state label) state labels ∧
      ¬Along step (fun state label => ¬Marked state label) state labels := by
  induction labels generalizing state with
  | nil => exact absurd trivial fails
  | cons label labels ih =>
      by_cases rest : AtLast step Marked Condition (step state label) labels
      case neg =>
        rcases ih rest with ⟨opposite, some⟩
        exact ⟨⟨fun _ none => absurd none some, opposite⟩, fun none => some none.2⟩
      case pos =>
        have isLast : ¬(Marked state label →
            Along step (fun state label => ¬Marked state label) (step state label) labels →
              Condition state label) := fun holds => fails ⟨holds, rest⟩
        simp only [not_forall] at isLast
        rcases isLast with ⟨marked, none, unmet⟩
        exact ⟨⟨fun _ _ => unmet, .of_unmarked none⟩, fun all => all.1 marked⟩

/-- What a marked step that meets the condition brings about, and the other steps keep, holds
after a run whose last marked step meets it. -/
theorem AtLast.holds {Invariant Holds : State → Prop}
    (preserved : ∀ state label, Invariant state → Invariant (step state label))
    (made : ∀ state label, Invariant state → Marked state label → Condition state label →
      Holds (step state label))
    (kept : ∀ state label, Invariant state → ¬Marked state label → Holds state →
      Holds (step state label))
    (atLast : AtLast step Marked Condition state labels) (invariant : Invariant state)
    (start : Along step (fun state label => ¬Marked state label) state labels → Holds state) :
    Holds (run step state labels) := by
  induction labels generalizing state with
  | nil => exact start trivial
  | cons label labels ih =>
      apply ih atLast.2 (preserved state label invariant)
      intro unmarked
      by_cases marked : Marked state label
      · exact made state label invariant marked (atLast.1 marked unmarked)
      · exact kept state label invariant marked (start ⟨marked, unmarked⟩)

end

theorem count_eq_zero_iff {counted : State → Label → Bool} {state : State}
    {labels : List Label} :
    count step counted state labels = 0 ↔
      Along step (fun state label => counted state label = false) state labels := by
  induction labels generalizing state with
  | nil => simp [count, Along]
  | cons label labels ih => simp [count, Along, ih]

end Runs
