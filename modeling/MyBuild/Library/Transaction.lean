import Mathlib.Logic.Basic

/-!
# Transactions over a state

A transaction reads and writes a state and may throw.  Its writes reach the
state only when it returns: `commit` keeps the old state on an error, which is
what a database does on a rollback.  The inversion lemmas peel a sequential
composition apart without unfolding the two monad transformers, and `Preserves`
is the proof rule for invariants of committed states.
-/

theorem Except.bind_eq_ok {Error α β : Type} {first : Except Error α} {next : α → Except Error β}
    {result : β} : (first >>= next) = .ok result ↔ ∃ value, first = .ok value ∧
      next value = .ok result := by
  cases first with
  | error error => simp [bind, Except.bind]
  | ok value => simp [bind, Except.bind]

namespace Transaction

variable {State Error α β : Type}

/-- A computation that reads and writes `State` and may throw an `Error`. -/
abbrev Tx (State Error α : Type) := StateT State (Except Error) α

/-- The state after the transaction: its writes on success, the old state on an error. -/
def commit (tx : Tx State Error α) (state : State) : State :=
  match tx.run state with
  | .ok (_, next) => next
  | .error _ => state

def succeeds (tx : Tx State Error α) (state : State) : Bool :=
  match tx.run state with
  | .ok _ => true
  | .error _ => false

/-- What the transaction returns, if it returns. -/
def result? (tx : Tx State Error α) (state : State) : Option α :=
  match tx.run state with
  | .ok (value, _) => some value
  | .error _ => none

theorem run_bind_eq_ok {tx : Tx State Error α} {next : α → Tx State Error β}
    {state : State} {outcome : β × State} :
    (tx >>= next).run state = .ok outcome ↔
      ∃ value middle, tx.run state = .ok (value, middle) ∧
        (next value).run middle = .ok outcome := by
  rw [StateT.run_bind]
  cases tx.run state with
  | error error => simp [bind, Except.bind]
  | ok result =>
      rcases result with ⟨value, middle⟩
      constructor
      · intro returned
        exact ⟨value, middle, rfl, returned⟩
      · rintro ⟨_, _, same, returned⟩
        cases same
        exact returned

theorem run_bind_eq_error {tx : Tx State Error α} {next : α → Tx State Error β}
    {state : State} {error : Error} :
    (tx >>= next).run state = .error error ↔
      tx.run state = .error error ∨
        ∃ value middle, tx.run state = .ok (value, middle) ∧
          (next value).run middle = .error error := by
  rw [StateT.run_bind]
  cases tx.run state with
  | error error => simp [bind, Except.bind]
  | ok result =>
      rcases result with ⟨value, middle⟩
      constructor
      · intro thrown
        exact Or.inr ⟨value, middle, rfl, thrown⟩
      · rintro (failed | ⟨_, _, same, thrown⟩)
        · cases failed
        · cases same
          exact thrown

theorem run_bind_of_ok {tx : Tx State Error α} {next : α → Tx State Error β}
    {state middle : State} {value : α} (first : tx.run state = .ok (value, middle)) :
    (tx >>= next).run state = (next value).run middle := by
  rw [StateT.run_bind, first]
  rfl

theorem run_bind_of_error {tx : Tx State Error α} {next : α → Tx State Error β}
    {state : State} {error : Error} (first : tx.run state = .error error) :
    (tx >>= next).run state = .error error := by
  rw [StateT.run_bind, first]
  rfl

@[simp]
theorem run_pure_eq_ok {state : State} {value : α} {outcome : α × State} :
    (pure value : Tx State Error α).run state = .ok outcome ↔ outcome = (value, state) := by
  rw [StateT.run_pure]
  constructor
  · intro same
    exact (Except.ok.inj same).symm
  · rintro rfl
    rfl

@[simp]
theorem run_throw (error : Error) (state : State) :
    (throw error : Tx State Error α).run state = .error error := rfl

@[simp]
theorem run_get (state : State) : (get : Tx State Error State).run state = .ok (state, state) :=
  rfl

@[simp]
theorem run_set (next state : State) :
    (set next : Tx State Error PUnit).run state = .ok (⟨⟩, next) := rfl

@[simp]
theorem run_modify (update : State → State) (state : State) :
    (modify update : Tx State Error PUnit).run state = .ok (⟨⟩, update state) := rfl

@[simp]
theorem run_liftM (outcome : Except Error α) (state : State) :
    (liftM outcome : Tx State Error α).run state = outcome.map (fun value => (value, state)) := by
  cases outcome <;> rfl

theorem run_liftM_eq_ok {outcome : Except Error α} {state next : State} {value : α} :
    (liftM outcome : Tx State Error α).run state = .ok (value, next) ↔
      outcome = .ok value ∧ next = state := by
  rw [run_liftM]
  cases outcome with
  | error error => simp [Except.map]
  | ok result => simp [Except.map, eq_comm]

theorem run_liftM_eq_error {outcome : Except Error α} {state : State} {error : Error} :
    (liftM outcome : Tx State Error α).run state = .error error ↔ outcome = .error error := by
  rw [run_liftM]
  cases outcome <;> simp [Except.map]

@[simp]
theorem run_get_bind (next : State → Tx State Error β) (state : State) :
    ((get : Tx State Error State) >>= next).run state = (next state).run state := rfl

theorem succeeds_iff {tx : Tx State Error α} {state : State} :
    succeeds tx state = true ↔ ∃ value, tx.run state = .ok (value, commit tx state) := by
  simp only [succeeds, commit]
  cases tx.run state with
  | error error => simp
  | ok result => exact ⟨fun _ => ⟨result.1, rfl⟩, fun _ => rfl⟩

theorem commit_of_ok {tx : Tx State Error α} {state next : State} {value : α}
    (returned : tx.run state = .ok (value, next)) : commit tx state = next := by
  simp [commit, returned]

theorem result?_of_ok {tx : Tx State Error α} {state next : State} {value : α}
    (returned : tx.run state = .ok (value, next)) : result? tx state = some value := by
  simp [result?, returned]

theorem commit_of_error {tx : Tx State Error α} {state : State} {error : Error}
    (thrown : tx.run state = .error error) : commit tx state = state := by
  simp [commit, thrown]

theorem commit_cases (tx : Tx State Error α) (state : State) :
    (∃ value, tx.run state = .ok (value, commit tx state)) ∨ commit tx state = state := by
  cases outcome : tx.run state with
  | error error => exact Or.inr (commit_of_error outcome)
  | ok result =>
      rcases result with ⟨value, next⟩
      exact Or.inl ⟨value, by rw [commit_of_ok outcome]⟩

/-- Every state in which the transaction returns still satisfies the invariant afterwards. -/
def Preserves (Invariant : State → Prop) (tx : Tx State Error α) : Prop :=
  ∀ state value next, Invariant state → tx.run state = .ok (value, next) → Invariant next

namespace Preserves

variable {Invariant : State → Prop}

theorem commit {tx : Tx State Error α} (preserves : Preserves Invariant tx) {state : State}
    (holds : Invariant state) : Invariant (Transaction.commit tx state) := by
  rcases commit_cases tx state with ⟨value, returned⟩ | unchanged
  · exact preserves state value _ holds returned
  · rw [unchanged]
    exact holds

theorem bind {tx : Tx State Error α} {next : α → Tx State Error β}
    (first : Preserves Invariant tx) (second : ∀ value, Preserves Invariant (next value)) :
    Preserves Invariant (tx >>= next) := by
  intro state value final holds returned
  rcases run_bind_eq_ok.mp returned with ⟨middleValue, middle, ranFirst, ranSecond⟩
  exact second middleValue middle value final (first state middleValue middle holds ranFirst)
    ranSecond

end Preserves

end Transaction
