import Mathlib.Data.List.Infix

/-!
# Computations that keep a journal

A computation over a state that an exception does not undo: what was done before it stays
done.  Part of the state is a journal.  A computation that `Appends` takes no entry back,
whatever it comes to, and one that `Starts` with an entry writes it before any other; both are
closed under sequencing, so that the first entry of a long computation is found at its start.
-/

namespace Journal

variable {State Error Entry α β : Type}

/-- A computation that reads and writes `State`, and may stop with an `Error`. -/
abbrev Act (State Error α : Type) := ExceptT Error (StateM State) α

/-- What the computation comes to, and the state it leaves. -/
def outcome (act : Act State Error α) (state : State) : Except Error α × State :=
  act.run.run state

theorem outcome_bind (act : Act State Error α) (rest : α → Act State Error β) (state : State) :
    outcome (act >>= rest) state =
      match outcome act state with
      | (.ok value, next) => outcome (rest value) next
      | (.error error, next) => (.error error, next) := by
  simp only [outcome, ExceptT.run_bind, StateT.run_bind]
  rcases act.run.run state with ⟨error | value, next⟩ <;> rfl

@[simp]
theorem outcome_get_bind (rest : State → Act State Error β) (state : State) :
    outcome (get >>= rest) state = outcome (rest state) state := rfl

theorem outcome_bind_of_ok {act : Act State Error α} {rest : α → Act State Error β}
    {state next : State} {value : α} (first : outcome act state = (.ok value, next)) :
    outcome (act >>= rest) state = outcome (rest value) next := by
  rw [outcome_bind, first]

theorem outcome_bind_of_error {act : Act State Error α} {rest : α → Act State Error β}
    {state next : State} {error : Error} (first : outcome act state = (.error error, next)) :
    outcome (act >>= rest) state = (.error error, next) := by
  rw [outcome_bind, first]

/-- Two computations that write nothing write nothing in a row. -/
theorem bind_kept {act : Act State Error α} {rest : α → Act State Error β}
    (first : ∀ state, (outcome act state).2 = state)
    (next : ∀ value state, (outcome (rest value) state).2 = state) (state : State) :
    (outcome (act >>= rest) state).2 = state := by
  have kept := first state
  rw [outcome_bind]
  rcases came : outcome act state with ⟨error | value, middle⟩ <;> rw [came] at kept
  · exact kept
  · exact (next value middle).trans kept

theorem outcome_tryCatch (act : Act State Error α) (handle : Error → Act State Error α)
    (state : State) :
    outcome (tryCatch act handle) state =
      match outcome act state with
      | (.ok value, next) => (.ok value, next)
      | (.error error, next) => outcome (handle error) next := by
  simp only [outcome, ExceptT.run_tryCatch, StateT.run_bind]
  rcases act.run.run state with ⟨error | value, next⟩ <;> rfl

variable (journal : State → List Entry)

/-- No entry is taken back. -/
def Appends (act : Act State Error α) : Prop :=
  ∀ state, journal state <+: journal (outcome act state).2

/-- The first entry written from this state. -/
def Starts (entry : Entry) (act : Act State Error α) (state : State) : Prop :=
  journal state ++ [entry] <+: journal (outcome act state).2

variable {journal} {act : Act State Error α} {rest : α → Act State Error β} {state : State}
  {entry : Entry}

theorem Appends.of_kept (kept : ∀ state, journal (outcome act state).2 = journal state) :
    Appends journal act := by
  intro state
  rw [kept state]

theorem appends_pure (value : α) : Appends journal (pure value : Act State Error α) :=
  Appends.of_kept fun _ => rfl

theorem appends_throw (error : Error) : Appends journal (throw error : Act State Error α) :=
  Appends.of_kept fun _ => rfl

theorem Appends.bind (first : Appends journal act) (next : ∀ value, Appends journal (rest value)) :
    Appends journal (act >>= rest) := by
  intro state
  have grown := first state
  rw [outcome_bind]
  rcases came : outcome act state with ⟨error | value, middle⟩ <;> rw [came] at grown
  · exact grown
  · exact grown.trans (next value middle)

theorem Appends.tryCatch {handle : Error → Act State Error α} (first : Appends journal act)
    (handled : ∀ error, Appends journal (handle error)) :
    Appends journal (tryCatch act handle) := by
  intro state
  have grown := first state
  rw [outcome_tryCatch]
  rcases came : outcome act state with ⟨error | value, middle⟩ <;> rw [came] at grown
  · exact grown.trans (handled error middle)
  · exact grown

theorem Starts.bind (first : Starts journal entry act state)
    (next : ∀ value, Appends journal (rest value)) : Starts journal entry (act >>= rest) state := by
  simp only [Starts] at first ⊢
  rw [outcome_bind]
  rcases came : outcome act state with ⟨error | value, middle⟩ <;> rw [came] at first
  · exact first
  · exact first.trans (next value middle)

theorem Starts.after {value : α} (first : outcome act state = (.ok value, state))
    (next : Starts journal entry (rest value) state) :
    Starts journal entry (act >>= rest) state := by
  simp only [Starts, outcome_bind_of_ok first]
  exact next

theorem Starts.head? (starts : Starts journal entry act state) (blank : journal state = []) :
    (journal (outcome act state).2).head? = some entry := by
  simp only [Starts, blank, List.nil_append] at starts
  rcases starts with ⟨later, same⟩
  rw [← same]
  rfl

end Journal
