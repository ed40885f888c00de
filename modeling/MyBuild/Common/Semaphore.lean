import Mathlib.Data.Int.Notation
import MyBuild.Common.QueueRuns
import MyBuild.Library.Turnstile

/-!
# A bound on tasks that run at once

A call of `run` takes a permit or joins the line, at once and without a wait in between.  Its
task starts when the promise of the permit is taken up: promises that are fulfilled are taken
up in the order in which they were.  A call whose task has returned or thrown gives the permit
back, and in the same stretch the first in the line takes it.  Calls keep arriving meanwhile.

The class counts as a turnstile does.  In a run every call is in one place: in the line, about
to start, running or finished.
-/

namespace MyBuild

structure RangeError where
  message : String

structure Semaphore (Ticket : Type) where
  limit : ℤ
  active : ℤ
  waiting : List Ticket

namespace Semaphore

variable {Ticket : Type}

def create (limit : ℤ) : Except RangeError (Semaphore Ticket) :=
  if limit < 1 then .error ⟨"Semaphore: предел должен быть не меньше 1"⟩
  else .ok { limit, active := 0, waiting := [] }

def acquire (semaphore : Semaphore Ticket) (ticket : Ticket) : Semaphore Ticket × Turn :=
  if semaphore.active < semaphore.limit then
    ({ semaphore with active := semaphore.active + 1 }, .now)
  else ({ semaphore with waiting := semaphore.waiting ++ [ticket] }, .later)

/-- Give a permit back; the first that waits takes it. -/
def release (semaphore : Semaphore Ticket) : Semaphore Ticket × Option Ticket :=
  let freed := { semaphore with active := semaphore.active - 1 }
  match freed.waiting with
  | [] => (freed, none)
  | next :: waiting => ({ freed with active := freed.active + 1, waiting }, some next)

/-- The permits in use and the line are those of a turnstile. -/
structure Counts (semaphore : Semaphore Ticket) (gate : Turnstile) : Prop where
  positive : 1 ≤ semaphore.limit
  active : semaphore.active = gate.inside semaphore.limit.toNat
  waiting : semaphore.waiting.length = gate.outside semaphore.limit.toNat

variable {semaphore : Semaphore Ticket} {gate : Turnstile} {ticket : Ticket} {limit : ℤ}

theorem create_eq_ok_iff : create limit = .ok semaphore ↔
    1 ≤ limit ∧ semaphore = { limit, active := 0, waiting := [] } := by
  simp only [create]
  split
  case isTrue low =>
    simp only [reduceCtorEq, false_iff]
    omega
  case isFalse high =>
    simp only [Except.ok.injEq, eq_comm]
    exact (and_iff_right (by omega)).symm

theorem limit_acquire : (semaphore.acquire ticket).1.limit = semaphore.limit := by
  simp only [acquire]
  split <;> rfl

theorem limit_release : semaphore.release.1.limit = semaphore.limit := by
  simp only [release]
  split <;> rfl

namespace Counts

theorem within (counts : semaphore.Counts gate) : semaphore.active ≤ semaphore.limit := by
  have bound := @Turnstile.inside_le semaphore.limit.toNat gate
  have positive := counts.positive
  rw [counts.active]
  omega

theorem full (counts : semaphore.Counts gate) (someone : semaphore.waiting ≠ []) :
    semaphore.active = semaphore.limit := by
  have outside : gate.outside semaphore.limit.toNat ≠ 0 := by
    rw [← counts.waiting]
    simpa using someone
  have positive := counts.positive
  rw [counts.active, Turnstile.inside_eq_of_outside outside]
  omega

theorem waiting_eq_nil_of_room (counts : semaphore.Counts gate)
    (room : semaphore.active < semaphore.limit) : semaphore.waiting = [] := by
  by_contra someone
  have full := counts.full someone
  omega

theorem waiting_eq_nil_of_idle (counts : semaphore.Counts gate) (idle : semaphore.active = 0) :
    semaphore.waiting = [] := by
  apply counts.waiting_eq_nil_of_room
  have positive := counts.positive
  omega

theorem acquire (counts : semaphore.Counts gate) (ticket : Ticket) :
    (semaphore.acquire ticket).1.Counts gate.arrive := by
  rcases counts with ⟨positive, active, waiting⟩
  simp only [Semaphore.acquire]
  split
  case isTrue room =>
    have counted := @Turnstile.arrive_of_room semaphore.limit.toNat gate (by omega)
    constructor
    · exact positive
    · simp only [counted.1]
      omega
    · exact waiting.trans counted.2.symm
  case isFalse none =>
    have bound := @Turnstile.inside_le semaphore.limit.toNat gate
    have counted := @Turnstile.arrive_of_full semaphore.limit.toNat gate (by omega)
    constructor
    · exact positive
    · simp only [counted.1]
      exact active
    · simp only [List.length_append, List.length_singleton, counted.2, waiting]

theorem release (counts : semaphore.Counts gate) (someone : gate.left < gate.arrived) :
    semaphore.release.1.Counts (gate.leave someone) := by
  rcases counts with ⟨positive, active, waiting⟩
  simp only [Semaphore.release]
  split
  case h_1 empty =>
    simp only [empty, List.length_nil] at waiting
    have counted := @Turnstile.leave_of_none semaphore.limit.toNat gate someone waiting.symm
    constructor
    · exact positive
    · simp only
      omega
    · simp only [empty, List.length_nil, counted.2]
  case h_2 next rest line =>
    simp only [line, List.length_cons] at waiting
    have counted := @Turnstile.leave_of_waiting semaphore.limit.toNat gate someone (by omega)
    constructor
    · exact positive
    · simp only [counted.1]
      omega
    · simp only
      omega

end Counts

end Semaphore

inductive SemaphoreEvent where
  | run
  | start
  | finish (call : ℕ) (outcome : TaskOutcome)

/-- Calls are numbered as they arrive; `ready` lists those whose promise is fulfilled and not yet
taken up, and `started` those whose task was started, in this order. -/
structure SemaphoreRun where
  semaphore : Semaphore ℕ
  calls : ℕ
  ready : List ℕ
  running : List ℕ
  finished : List (ℕ × TaskOutcome)
  started : List ℕ

namespace SemaphoreRun

def fresh (semaphore : Semaphore ℕ) : SemaphoreRun :=
  { semaphore, calls := 0, ready := [], running := [], finished := [], started := [] }

def step (state : SemaphoreRun) : SemaphoreEvent → SemaphoreRun
  | .run =>
      let (semaphore, turn) := state.semaphore.acquire state.calls
      { state with
        semaphore
        calls := state.calls + 1
        ready :=
          match turn with
          | .now => state.ready ++ [state.calls]
          | .later => state.ready }
  | .start =>
      match state.ready with
      | [] => state
      | call :: ready =>
          { state with
            ready
            running := state.running ++ [call]
            started := state.started ++ [call] }
  | .finish call outcome =>
      if call ∈ state.running then
        let (semaphore, next) := state.semaphore.release
        { state with
          semaphore
          ready := state.ready ++ next.toList
          running := state.running.erase call
          finished := state.finished ++ [(call, outcome)] }
      else state

/-- Every call is in one place, and up to the end of the line in the order of arrival. -/
structure Orderly (state : SemaphoreRun) (gate : Turnstile) : Prop where
  counts : state.semaphore.Counts gate
  arrived : gate.arrived = state.calls
  left : gate.left = state.finished.length
  line : state.started ++ state.ready ++ state.semaphore.waiting = List.range state.calls
  places : (state.finished.map Prod.fst ++ state.running).Perm state.started

/-- What holds at every moment.  The line gives the order of the starts: those who have started,
those about to start and those who wait are all the calls as they arrived. -/
structure Safe (limit : ℤ) (state : SemaphoreRun) : Prop where
  within : state.semaphore.active ≤ limit
  active : state.semaphore.active = state.ready.length + state.running.length
  full : state.semaphore.waiting ≠ [] → state.semaphore.active = limit
  line : state.started ++ state.ready ++ state.semaphore.waiting = List.range state.calls
  places : (state.finished.map Prod.fst ++ state.running).Perm state.started
  once : state.started.Nodup
  rest : state.ready = [] → state.running = [] →
    state.semaphore.active = 0 ∧ state.semaphore.waiting = [] ∧
      (state.finished.map Prod.fst).Perm (List.range state.calls)

variable {state : SemaphoreRun} {gate : Turnstile} {semaphore : Semaphore ℕ} {limit : ℤ}

namespace Orderly

theorem active (orderly : state.Orderly gate) :
    state.semaphore.active = state.ready.length + state.running.length := by
  have parts := @Turnstile.left_add_inside_add_outside state.semaphore.limit.toNat gate
  have line := congrArg List.length orderly.line
  have places := orderly.places.length_eq
  have active := orderly.counts.active
  have waiting := orderly.counts.waiting
  have arrived := orderly.arrived
  have left := orderly.left
  simp only [List.length_append, List.length_map, List.length_range] at line places
  omega

theorem left_lt (orderly : state.Orderly gate) (someone : state.running ≠ []) :
    gate.left < gate.arrived := by
  have line := congrArg List.length orderly.line
  have places := orderly.places.length_eq
  have running := List.length_pos_iff.mpr someone
  have arrived := orderly.arrived
  have left := orderly.left
  simp only [List.length_append, List.length_map, List.length_range] at line places
  omega

theorem run (orderly : state.Orderly gate) : (state.step .run).Orderly gate.arrive := by
  have counts := orderly.counts.acquire state.calls
  have arrived : gate.arrive.arrived = state.calls + 1 := congrArg (· + 1) orderly.arrived
  simp only [step]
  by_cases room : state.semaphore.active < state.semaphore.limit
  · have none := orderly.counts.waiting_eq_nil_of_room room
    have line := orderly.line
    rw [none, List.append_nil] at line
    simp only [Semaphore.acquire, if_pos room] at counts ⊢
    refine ⟨counts, arrived, orderly.left, ?_, orderly.places⟩
    rw [none, List.append_nil, List.range_succ, ← line, List.append_assoc]
  · simp only [Semaphore.acquire, if_neg room] at counts ⊢
    refine ⟨counts, arrived, orderly.left, ?_, orderly.places⟩
    simp only [List.range_succ, ← orderly.line, List.append_assoc]

theorem start (orderly : state.Orderly gate) : (state.step .start).Orderly gate := by
  simp only [step]
  split
  case h_1 => exact orderly
  case h_2 call ready first =>
    have line := orderly.line
    have places := orderly.places.append_right [call]
    rw [first] at line
    rw [List.append_assoc] at places
    refine ⟨orderly.counts, orderly.arrived, orderly.left, ?_, places⟩
    rw [← line]
    simp

theorem finish (orderly : state.Orderly gate) (call : ℕ) (outcome : TaskOutcome) :
    ∃ next, (state.step (.finish call outcome)).Orderly next := by
  by_cases running : call ∈ state.running
  · have someone := orderly.left_lt (List.ne_nil_of_mem running)
    refine ⟨gate.leave someone, ?_⟩
    have counts := orderly.counts.release someone
    have places : ((state.finished ++ [(call, outcome)]).map Prod.fst ++
        state.running.erase call).Perm state.started := by
      rw [List.map_append, List.append_assoc]
      exact ((List.perm_cons_erase running).symm.append_left _).trans orderly.places
    have left : gate.left + 1 = (state.finished ++ [(call, outcome)]).length := by
      simp [orderly.left]
    have line := orderly.line
    simp only [step, if_pos running]
    simp only [Semaphore.release] at counts ⊢
    cases waiting : state.semaphore.waiting with
    | nil =>
        simp only [waiting] at counts line ⊢
        refine ⟨counts, orderly.arrived, left, ?_, places⟩
        simpa [waiting] using line
    | cons next rest =>
        simp only [waiting] at counts line ⊢
        refine ⟨counts, orderly.arrived, left, ?_, places⟩
        simpa using line
  · refine ⟨gate, ?_⟩
    simp only [step, if_neg running]
    exact orderly

theorem step (orderly : state.Orderly gate) (event : SemaphoreEvent) :
    ∃ next, (state.step event).Orderly next := by
  cases event with
  | run => exact ⟨_, orderly.run⟩
  | start => exact ⟨_, orderly.start⟩
  | finish call outcome => exact orderly.finish call outcome

theorem safe (orderly : state.Orderly gate) : state.Safe state.semaphore.limit := by
  have once : state.started.Nodup := by
    have distinct := @List.nodup_range state.calls
    rw [← orderly.line, List.append_assoc] at distinct
    exact (List.nodup_append.mp distinct).1
  refine ⟨orderly.counts.within, orderly.active, orderly.counts.full, orderly.line,
    orderly.places, once, ?_⟩
  intro noneReady noneRunning
  have idle : state.semaphore.active = 0 := by
    rw [orderly.active, noneReady, noneRunning]
    rfl
  have empty := orderly.counts.waiting_eq_nil_of_idle idle
  have line := orderly.line
  have places := orderly.places
  rw [noneReady, empty, List.append_nil, List.append_nil] at line
  rw [noneRunning, List.append_nil, line] at places
  exact ⟨idle, empty, places⟩

end Orderly

theorem limit_step (event : SemaphoreEvent) :
    (state.step event).semaphore.limit = state.semaphore.limit := by
  cases event with
  | run => exact Semaphore.limit_acquire
  | start =>
      simp only [step]
      split <;> rfl
  | finish call outcome =>
      simp only [step]
      split
      case isTrue => exact Semaphore.limit_release
      case isFalse => rfl

theorem orderly_fresh (positive : 1 ≤ limit) :
    (fresh { limit, active := 0, waiting := [] }).Orderly ⟨0, 0, Nat.le_refl 0⟩ :=
  ⟨⟨positive, by simp [fresh, Turnstile.inside, Turnstile.admitted],
    by simp [fresh, Turnstile.outside]⟩, rfl, rfl, rfl, List.Perm.nil⟩

/-- Whatever calls arrive and in whichever order their tasks end, at every moment. -/
theorem safe_of_create (created : Semaphore.create limit = .ok semaphore)
    (events : List SemaphoreEvent) : (Runs.run step (fresh semaphore) events).Safe limit := by
  rcases Semaphore.create_eq_ok_iff.mp created with ⟨positive, rfl⟩
  have invariant : (∃ gate, (Runs.run step (fresh ⟨limit, 0, []⟩) events).Orderly gate) ∧
      (Runs.run step (fresh ⟨limit, 0, []⟩) events).semaphore.limit = limit := by
    apply @Runs.run_invariant _ _ step
      fun state => (∃ gate, state.Orderly gate) ∧ state.semaphore.limit = limit
    · rintro state event ⟨⟨gate, orderly⟩, same⟩
      exact ⟨orderly.step event, (limit_step event).trans same⟩
    · exact ⟨⟨_, orderly_fresh positive⟩, rfl⟩
  rcases invariant with ⟨⟨gate, orderly⟩, same⟩
  have safe := orderly.safe
  rwa [same] at safe

/-- Two permits, three calls: the third waits until a task throws. -/
theorem safe_of_create_example :
    (Runs.run step (fresh ⟨2, 0, []⟩)
      [.run, .run, .run, .start, .start, .finish 0 .threw, .start, .finish 2 .returned]).Safe 2 :=
  safe_of_create rfl _

end SemaphoreRun

end MyBuild
