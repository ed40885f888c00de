import MyBuild.Library.Transaction

/-!
# A part of the state a transaction does not read

`put` replaces one part of the state.  A transaction is framed when what it does does not
depend on that part: whatever the part holds, it throws the same error, or returns the same
value and changes the part by the same function.  The rules follow the composition of the
transaction.
-/

namespace Transaction

variable {State Part Error α β : Type} (put : State → Part → State)

def Framed (Allowed : (Part → Part) → Prop) (tx : Tx State Error α) (state : State) : Prop :=
  (∃ error, ∀ part, tx.run (put state part) = .error error) ∨
    ∃ value next change, Allowed change ∧
      ∀ part, tx.run (put state part) = .ok (value, put next (change part))

/-- The transaction leaves the part alone. -/
def Quiet (tx : Tx State Error α) (state : State) : Prop :=
  Framed put (· = id) tx state

variable {put} {Allowed : (Part → Part) → Prop} {tx : Tx State Error α}
  {rest : α → Tx State Error β} {state next : State} {value : α}

theorem Framed.of_ok {change : Part → Part} (allowed : Allowed change)
    (returns : ∀ part, tx.run (put state part) = .ok (value, put next (change part))) :
    Framed put Allowed tx state :=
  Or.inr ⟨value, next, change, allowed, returns⟩

theorem Framed.of_error {error : Error}
    (throws : ∀ part, tx.run (put state part) = .error error) : Framed put Allowed tx state :=
  Or.inl ⟨error, throws⟩

theorem Quiet.of_ok (returns : ∀ part, tx.run (put state part) = .ok (value, put next part)) :
    Quiet put tx state :=
  Framed.of_ok rfl returns

theorem Quiet.of_error {error : Error}
    (throws : ∀ part, tx.run (put state part) = .error error) : Quiet put tx state :=
  Framed.of_error throws

theorem Framed.of_quiet (quiet : Quiet put tx state) (allowed : Allowed id) :
    Framed put Allowed tx state := by
  rcases quiet with ⟨error, throws⟩ | ⟨value, next, change, rfl, returns⟩
  · exact Framed.of_error throws
  · exact Framed.of_ok allowed returns

theorem Framed.congr {other : State} (framed : Framed put Allowed tx state)
    (same : ∀ part, put other part = put state part) : Framed put Allowed tx other := by
  simpa only [Framed, same] using framed

theorem Framed.bind_ok (first : ∀ part, tx.run (put state part) = .ok (value, put next part))
    (second : Framed put Allowed (rest value) next) : Framed put Allowed (tx >>= rest) state := by
  rcases second with ⟨error, throws⟩ | ⟨final, last, change, allowed, returns⟩
  · exact Framed.of_error fun part => (run_bind_of_ok (first part)).trans (throws part)
  · exact Framed.of_ok allowed fun part => (run_bind_of_ok (first part)).trans (returns part)

theorem Framed.bind_error {error : Error}
    (first : ∀ part, tx.run (put state part) = .error error) :
    Framed put Allowed (tx >>= rest) state :=
  Framed.of_error fun part => run_bind_of_error (first part)

/-- Behind a transaction that leaves the part alone, whatever it has returned. -/
theorem Framed.bind_quiet (first : Quiet put tx state)
    (second : ∀ value next, (∀ part, tx.run (put state part) = .ok (value, put next part)) →
      Framed put Allowed (rest value) next) : Framed put Allowed (tx >>= rest) state := by
  rcases first with ⟨error, throws⟩ | ⟨value, next, change, rfl, returns⟩
  · exact Framed.bind_error throws
  · exact Framed.bind_ok returns (second value next returns)

theorem Framed.then_quiet (first : Framed put Allowed tx state)
    (second : ∀ value next, Quiet put (rest value) next) :
    Framed put Allowed (tx >>= rest) state := by
  rcases first with ⟨error, throws⟩ | ⟨value, next, change, allowed, returns⟩
  · exact Framed.bind_error throws
  rcases second value next with ⟨error, throws⟩ | ⟨final, last, same, rfl, ends⟩
  · exact Framed.of_error fun part => (run_bind_of_ok (returns part)).trans (throws (change part))
  · exact Framed.of_ok allowed fun part =>
      (run_bind_of_ok (returns part)).trans (ends (change part))

/-- Reading the state is quiet when what follows does not look at the part. -/
theorem Framed.get_bind {rest : State → Tx State Error β}
    (blind : ∀ part, rest (put state part) = rest state)
    (second : Framed put Allowed (rest state) state) :
    Framed put Allowed ((get : Tx State Error State) >>= rest) state := by
  have same : ∀ part, ((get : Tx State Error State) >>= rest).run (put state part) =
      (rest state).run (put state part) := by
    intro part
    rw [run_get_bind, blind]
  rcases second with ⟨error, throws⟩ | ⟨value, next, change, allowed, returns⟩
  · exact Framed.of_error fun part => (same part).trans (throws part)
  · exact Framed.of_ok allowed fun part => (same part).trans (returns part)

theorem Quiet.pure : Quiet put (pure value : Tx State Error α) state :=
  Quiet.of_ok fun _ => rfl

theorem Quiet.throw (error : Error) : Quiet put (throw error : Tx State Error α) state :=
  Quiet.of_error fun _ => rfl

theorem Quiet.liftM (outcome : Except Error α) :
    Quiet put (liftM outcome : Tx State Error α) state := by
  cases outcome with
  | error error => exact Quiet.of_error fun _ => rfl
  | ok value => exact Quiet.of_ok fun _ => rfl

theorem Quiet.modify {update : State → State}
    (commutes : ∀ part, update (put state part) = put (update state) part) :
    Quiet put (modify update : Tx State Error PUnit) state := by
  refine Or.inr ⟨⟨⟩, update state, id, rfl, fun part => ?_⟩
  rw [run_modify, commutes]
  rfl

/-- What is committed of a framed transaction is framed as well. -/
theorem Framed.commit (framed : Framed put Allowed tx state) (unchanged : Allowed id) :
    ∃ next change, Allowed change ∧
      ∀ part, Transaction.commit tx (put state part) = put next (change part) := by
  rcases framed with ⟨error, throws⟩ | ⟨value, next, change, allowed, returns⟩
  · exact ⟨state, id, unchanged, fun part => commit_of_error (throws part)⟩
  · exact ⟨next, change, allowed, fun part => commit_of_ok (returns part)⟩

end Transaction
