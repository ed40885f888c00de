import MyBuild.Library.Runs

/-!
# Two runs and an observer

Some steps of a system are hidden from an observer.  Two runs match when they make the
same steps, apart from hidden ones, which each run makes on its own.  What the observer
sees after matching runs is the same as soon as a hidden step shows nothing, and what a
shared step shows depends on nothing but what was seen before it.

Both conditions are only asked for while the system is open: once it has closed it stays
closed, and what the observer sees of a closed system is not compared.
-/

namespace Runs

variable {State Label View : Type}

/-- Two runs that make the same steps, apart from hidden ones. -/
inductive Matching (step : State → Label → State) (Hidden : State → Label → Prop) :
    State → List Label → State → List Label → Prop where
  | done (first second : State) : Matching step Hidden first [] second []
  | hiddenFirst {first second : State} {label : Label} {labels others : List Label}
      (hidden : Hidden first label)
      (rest : Matching step Hidden (step first label) labels second others) :
      Matching step Hidden first (label :: labels) second others
  | hiddenSecond {first second : State} {label : Label} {labels others : List Label}
      (hidden : Hidden second label)
      (rest : Matching step Hidden first labels (step second label) others) :
      Matching step Hidden first labels second (label :: others)
  | shared {first second : State} {label : Label} {labels others : List Label}
      (rest : Matching step Hidden (step first label) labels (step second label) others) :
      Matching step Hidden first (label :: labels) second (label :: others)

/-- The conditions on single steps under which matching runs look the same. -/
structure Unwinding (step : State → Label → State) (Hidden Condition : State → Label → Prop)
    (Invariant Open : State → Prop) (view : State → View) : Prop where
  preserved : ∀ state label, Invariant state → Invariant (step state label)
  closed : ∀ state label, Invariant state → Open (step state label) → Open state
  hidden : ∀ state label, Invariant state → Condition state label → Open (step state label) →
    Hidden state label → view (step state label) = view state
  shared : ∀ first second label, Invariant first → Invariant second → Condition first label →
    Condition second label → Open (step first label) → Open (step second label) →
      view first = view second → view (step first label) = view (step second label)

variable {step : State → Label → State} {Hidden Condition : State → Label → Prop}
  {Invariant Open : State → Prop} {view : State → View}

theorem Unwinding.open_of_run (unwinding : Unwinding step Hidden Condition Invariant Open view)
    {state : State} {labels : List Label} (holds : Invariant state)
    (isOpen : Open (run step state labels)) : Open state := by
  induction labels generalizing state with
  | nil => exact isOpen
  | cons label labels ih =>
      apply unwinding.closed state label holds
      exact ih (unwinding.preserved state label holds) isOpen

theorem Unwinding.view_eq (unwinding : Unwinding step Hidden Condition Invariant Open view)
    {first second : State} {labels others : List Label}
    (matching : Matching step Hidden first labels second others)
    (firstHolds : Invariant first) (secondHolds : Invariant second)
    (firstMeets : Along step Condition first labels)
    (secondMeets : Along step Condition second others)
    (firstOpen : Open (run step first labels)) (secondOpen : Open (run step second others))
    (same : view first = view second) :
    view (run step first labels) = view (run step second others) := by
  induction matching with
  | done => exact same
  | @hiddenFirst first second label labels others hidden rest ih =>
      have kept := unwinding.preserved first label firstHolds
      have unseen := unwinding.hidden first label firstHolds firstMeets.1
        (unwinding.open_of_run kept firstOpen) hidden
      exact ih kept secondHolds firstMeets.2 secondMeets firstOpen secondOpen (unseen.trans same)
  | @hiddenSecond first second label labels others hidden rest ih =>
      have kept := unwinding.preserved second label secondHolds
      have unseen := unwinding.hidden second label secondHolds secondMeets.1
        (unwinding.open_of_run kept secondOpen) hidden
      exact ih firstHolds kept firstMeets secondMeets.2 firstOpen secondOpen
        (same.trans unseen.symm)
  | @shared first second label labels others rest ih =>
      have firstKept := unwinding.preserved first label firstHolds
      have secondKept := unwinding.preserved second label secondHolds
      have alike := unwinding.shared first second label firstHolds secondHolds firstMeets.1
        secondMeets.1 (unwinding.open_of_run firstKept firstOpen)
        (unwinding.open_of_run secondKept secondOpen) same
      exact ih firstKept secondKept firstMeets.2 secondMeets.2 firstOpen secondOpen alike

end Runs
