import Mathlib.Data.List.Nodup
import Mathlib.Logic.Function.Basic

/-!
# A queue of tasks by key

Tasks with one key run one at a time, tasks with different keys side by side.  A key has
a lane exactly while a task runs on it, and the lane lists the tasks that wait for it.

A lane does not say which task runs.  `Serves` names it: the holder of a key is the task
the key was handed to last, and every operation keeps at most one holder for a key.
-/

namespace MyBuild

inductive QueueRejection where
  | full
  | timeout
  deriving DecidableEq

inductive Turn where
  | now
  | later
  deriving DecidableEq

structure KeyedQueue (Key Ticket : Type) where
  maxWaiting : ℕ
  lanes : Key → Option (List Ticket)

namespace KeyedQueue

variable {Key Ticket : Type}

/-- Each key is held by at most one task, and it has a lane exactly while it is held. -/
structure Serves (queue : KeyedQueue Key Ticket) (holder : Key → Option Ticket) : Prop where
  busy : ∀ key, (queue.lanes key).isSome = (holder key).isSome
  distinct : ∀ key waiting, queue.lanes key = some waiting → waiting.Nodup

theorem Serves.idle {queue : KeyedQueue Key Ticket} {holder : Key → Option Ticket} {key : Key}
    (serves : queue.Serves holder) (free : queue.lanes key = none) : holder key = none := by
  have busy := serves.busy key
  rw [free] at busy
  simpa using busy.symm

variable [DecidableEq Key]

def setLane (queue : KeyedQueue Key Ticket) (key : Key) (lane : Option (List Ticket)) :
    KeyedQueue Key Ticket :=
  { queue with lanes := Function.update queue.lanes key lane }

def acquire (queue : KeyedQueue Key Ticket) (key : Key) (ticket : Ticket) :
    Except QueueRejection (KeyedQueue Key Ticket × Turn) :=
  match queue.lanes key with
  | none => .ok (queue.setLane key (some []), .now)
  | some waiting =>
      if queue.maxWaiting ≤ waiting.length then .error .full
      else .ok (queue.setLane key (some (waiting ++ [ticket])), .later)

def timeOut [DecidableEq Ticket] (queue : KeyedQueue Key Ticket) (key : Key)
    (ticket : Ticket) : KeyedQueue Key Ticket :=
  queue.setLane key ((queue.lanes key).map (·.erase ticket))

/-- Hand the key to the next task, or free it when none waits. -/
def release (queue : KeyedQueue Key Ticket) (key : Key) :
    KeyedQueue Key Ticket × Option Ticket :=
  match queue.lanes key with
  | none => (queue, none)
  | some [] => (queue.setLane key none, none)
  | some (next :: waiting) => (queue.setLane key (some waiting), some next)

variable {queue next : KeyedQueue Key Ticket} {holder : Key → Option Ticket} {key : Key}
  {ticket : Ticket} {waiting : List Ticket}

@[simp]
theorem setLane_self (lane : Option (List Ticket)) : (queue.setLane key lane).lanes key = lane := by
  simp [setLane]

@[simp]
theorem setLane_other {other : Key} (differs : other ≠ key) (lane : Option (List Ticket)) :
    (queue.setLane key lane).lanes other = queue.lanes other := by
  simp [setLane, differs]

@[simp]
theorem setLane_maxWaiting (lane : Option (List Ticket)) :
    (queue.setLane key lane).maxWaiting = queue.maxWaiting := rfl

/-- The key is handed to a task that waited for it. -/
theorem release_handed (handed : (queue.release key).2 = some ticket) :
    ∃ waiting, queue.lanes key = some waiting ∧ ticket ∈ waiting := by
  simp only [release] at handed
  split at handed
  case h_1 => cases handed
  case h_2 => cases handed
  case h_3 next waiting lane =>
    cases handed
    exact ⟨_, lane, List.mem_cons_self⟩

namespace Serves

theorem setLane (serves : queue.Serves holder) {lane : Option (List Ticket)}
    {hand : Option Ticket} (busy : lane.isSome = hand.isSome)
    (distinct : ∀ waiting, lane = some waiting → waiting.Nodup) :
    (queue.setLane key lane).Serves (Function.update holder key hand) := by
  constructor
  · intro other
    by_cases same : other = key
    · subst same
      simpa using busy
    · simpa [same] using serves.busy other
  · intro other waiting isLane
    by_cases same : other = key
    · subst same
      exact distinct waiting (by simpa using isLane)
    · exact serves.distinct other waiting (by simpa [same] using isLane)

theorem acquire_now (serves : queue.Serves holder)
    (acquired : queue.acquire key ticket = .ok (next, .now)) :
    queue.lanes key = none ∧ next = queue.setLane key (some []) ∧
      next.Serves (Function.update holder key (some ticket)) := by
  simp only [acquire] at acquired
  split at acquired
  case h_1 free =>
    cases acquired
    exact ⟨free, rfl, serves.setLane rfl (by simp)⟩
  case h_2 => split at acquired <;> cases acquired

theorem acquire_later (serves : queue.Serves holder)
    (acquired : queue.acquire key ticket = .ok (next, .later))
    (absent : ∀ waiting, queue.lanes key = some waiting → ticket ∉ waiting) :
    ∃ waiting, queue.lanes key = some waiting ∧
      next = queue.setLane key (some (waiting ++ [ticket])) ∧ next.Serves holder := by
  simp only [acquire] at acquired
  split at acquired
  case h_1 => cases acquired
  case h_2 waiting held =>
    split at acquired
    case isTrue => cases acquired
    case isFalse =>
      cases acquired
      have busy := serves.busy key
      rw [held] at busy
      have kept : Function.update holder key (holder key) = holder := by simp
      refine ⟨waiting, held, rfl, ?_⟩
      rw [← kept]
      apply serves.setLane
      · simpa using busy
      · rintro _ ⟨⟩
        have distinct := serves.distinct key waiting held
        rw [List.nodup_append]
        refine ⟨distinct, by simp, ?_⟩
        rintro other mem _ last rfl
        rw [List.mem_singleton.mp last] at mem
        exact absent waiting held mem

theorem timeOut [DecidableEq Ticket] (serves : queue.Serves holder) :
    (queue.timeOut key ticket).Serves holder := by
  have kept : Function.update holder key (holder key) = holder := by simp
  rw [← kept]
  apply serves.setLane
  · simpa using serves.busy key
  · intro waiting isLane
    rcases Option.map_eq_some_iff.mp isLane with ⟨before, held, rfl⟩
    exact (serves.distinct key before held).erase ticket

theorem release (serves : queue.Serves holder) :
    (queue.release key).1.Serves (Function.update holder key (queue.release key).2) := by
  simp only [KeyedQueue.release]
  split
  case h_1 free =>
    have kept : Function.update holder key none = holder := by
      rw [← serves.idle free]
      simp
    rw [kept]
    exact serves
  case h_2 => exact serves.setLane rfl (by simp)
  case h_3 next waiting held =>
    apply serves.setLane rfl
    rintro _ ⟨⟩
    exact (List.nodup_cons.mp (serves.distinct key _ held)).2

theorem release_lanes (serves : queue.Serves holder) {other : Key}
    (lane : (queue.release key).1.lanes other = some waiting) :
    ∃ before, queue.lanes other = some before ∧ (∀ ticket ∈ waiting, ticket ∈ before) ∧
      (other = key → ∀ ticket ∈ waiting, (queue.release key).2 ≠ some ticket) := by
  by_cases same : other = key
  · subst same
    simp only [KeyedQueue.release] at lane ⊢
    split at lane
    case h_1 free => simp [free] at lane
    case h_2 => simp at lane
    case h_3 next rest held =>
      simp only [setLane_self, Option.some.injEq] at lane
      subst lane
      have distinct := serves.distinct other _ held
      refine ⟨_, held, fun ticket mem => List.mem_cons_of_mem next mem, ?_⟩
      rintro - ticket mem handed
      cases handed
      exact (List.nodup_cons.mp distinct).1 mem
  · refine ⟨waiting, ?_, fun ticket mem => mem, fun isKey => absurd isKey same⟩
    simp only [KeyedQueue.release] at lane
    split at lane
    case h_1 => exact lane
    case h_2 => simpa [same] using lane
    case h_3 => simpa [same] using lane

end Serves

end KeyedQueue

end MyBuild
