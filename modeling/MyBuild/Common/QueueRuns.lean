import Mathlib.Data.List.Perm.Subperm
import MyBuild.Common.KeyedQueue
import MyBuild.Library.Runs

/-!
# Runs of the queue of tasks

A call of `run` takes its place at once.  What follows is asynchronous: the task of a call
whose turn has come is about to start until its promise is taken up, a task that returns or
throws gives the key back, and the timer of a waiting call may go off.  Any of these may
happen at any moment, and calls keep arriving meanwhile.  Calls are numbered in the order
in which they are made, and `started` lists the calls whose task was started.

A call that was not rejected has a place on its key: first come the calls that are
finished, then the one that holds the key, then those that wait.  The invariant of a run is
that the places follow the order of the calls, and that a key has a lane exactly while one
call holds it.
-/

namespace MyBuild

inductive TaskOutcome where
  | returned
  | threw
  deriving DecidableEq

inductive CallPhase where
  | waiting
  | ready
  | running
  | finished (outcome : TaskOutcome)
  | rejected (reason : QueueRejection)
  deriving DecidableEq

inductive Place where
  | finished
  | holding
  | waiting
  deriving DecidableEq

structure QueueCall (Key : Type) where
  key : Key
  phase : CallPhase
  timer : Bool

inductive QueueEvent (Key : Type) where
  | run (key : Key)
  | start (call : ℕ)
  | finish (call : ℕ) (outcome : TaskOutcome)
  | timeOut (call : ℕ)

structure QueueRun (Key : Type) where
  queue : KeyedQueue Key ℕ
  issued : ℕ
  calls : ℕ → Option (QueueCall Key)
  started : List ℕ

namespace CallPhase

def isRejected : CallPhase → Bool
  | rejected _ => true
  | _ => false

def wasStarted : CallPhase → Bool
  | running | finished _ => true
  | _ => false

@[simp]
def place : CallPhase → Option Place
  | finished _ => some .finished
  | ready | running => some .holding
  | waiting => some .waiting
  | rejected _ => none

end CallPhase

namespace QueueCall

variable {Key : Type}

/-- The promise of a call that waits is fulfilled, and its timer is cleared. -/
def resolve (call : QueueCall Key) : QueueCall Key :=
  { call with
    phase := if call.phase = .waiting then .ready else call.phase
    timer := false }

/-- The timer has gone off: the promise is rejected, unless it is settled already. -/
def reject (call : QueueCall Key) : QueueCall Key :=
  { call with
    phase := if call.phase = .waiting then .rejected .timeout else call.phase
    timer := false }

end QueueCall

/-- The calls on one key and its lane: they stand in the order of their numbers. -/
structure InLine (issued maxWaiting : ℕ) (place : ℕ → Option Place)
    (lane : Option (List ℕ)) : Prop where
  issued : ∀ ticket, place ticket ≠ none → ticket < issued
  waiting : ∀ ticket, ticket ∈ lane.getD [] ↔ place ticket = some .waiting
  sorted : (lane.getD []).Pairwise (· < ·)
  bounded : (lane.getD []).length ≤ maxWaiting
  held : lane.isSome ↔ ∃ ticket, place ticket = some .holding
  single : ∀ ticket other, place ticket = some .holding → place other = some .holding →
    ticket = other
  finished_first : ∀ ticket other, place ticket = some .finished →
    place other = some .holding → ticket < other
  waiting_last : ∀ ticket other, place ticket = some .holding →
    place other = some .waiting → ticket < other

namespace InLine

variable {issued maxWaiting ticket heir : ℕ} {place : ℕ → Option Place}
  {lane : Option (List ℕ)} {waiting : List ℕ}

theorem call (inLine : InLine issued maxWaiting place lane) :
    InLine (issued + 1) maxWaiting place lane :=
  { inLine with issued := fun ticket placed => Nat.lt_succ_of_lt (inLine.issued ticket placed) }

theorem enter (inLine : InLine issued maxWaiting place none) :
    InLine (issued + 1) maxWaiting (Function.update place issued (some .holding)) (some []) := by
  rcases inLine with ⟨last, waiting, sorted, bounded, held, single, first, behind⟩
  simp only [Option.getD_none, List.not_mem_nil, false_iff] at waiting
  simp only [Option.isSome_none, Bool.false_eq_true, false_iff, not_exists] at held
  have holds : Function.update place issued (some .holding) issued = some .holding := by simp
  constructor <;> grind

theorem enqueue (inLine : InLine issued maxWaiting place (some waiting))
    (room : waiting.length < maxWaiting) :
    InLine (issued + 1) maxWaiting (Function.update place issued (some .waiting))
      (some (waiting ++ [issued])) := by
  rcases inLine with ⟨last, waits, sorted, bounded, held, single, first, behind⟩
  simp only [Option.getD_some] at waits sorted bounded held
  rcases held.mp rfl with ⟨holder, holds⟩
  have present : Function.update place issued (some .waiting) holder = some .holding := by
    grind
  constructor <;> grind

theorem free (inLine : InLine issued maxWaiting place (some []))
    (holds : place ticket = some .holding) :
    InLine issued maxWaiting (Function.update place ticket (some .finished)) none := by
  rcases inLine with ⟨last, waits, sorted, bounded, held, single, first, behind⟩
  simp only [Option.getD_some] at waits sorted bounded held
  constructor <;> grind

theorem hand (inLine : InLine issued maxWaiting place (some (heir :: waiting)))
    (holds : place ticket = some .holding) :
    InLine issued maxWaiting
      (Function.update (Function.update place ticket (some .finished)) heir (some .holding))
      (some waiting) := by
  rcases inLine with ⟨last, waits, sorted, bounded, held, single, first, behind⟩
  simp only [Option.getD_some] at waits sorted bounded held
  rw [List.pairwise_cons] at sorted
  have heirWaits : place heir = some .waiting := (waits heir).mp List.mem_cons_self
  have differs : heir ≠ ticket := by
    rintro rfl
    simp [holds] at heirWaits
  have absent : heir ∉ waiting := fun mem => Nat.lt_irrefl heir (sorted.1 heir mem)
  have present :
      Function.update (Function.update place ticket (some .finished)) heir (some .holding) heir =
        some .holding := by
    simp
  constructor <;> grind

theorem expire (inLine : InLine issued maxWaiting place (some waiting))
    (waited : place ticket = some .waiting) :
    InLine issued maxWaiting (Function.update place ticket none) (some (waiting.erase ticket)) := by
  rcases inLine with ⟨last, waits, sorted, bounded, held, single, first, behind⟩
  simp only [Option.getD_some] at waits sorted bounded held
  rcases held.mp rfl with ⟨holder, holds⟩
  have distinct : waiting.Nodup := sorted.imp Nat.ne_of_lt
  have present : Function.update place ticket none holder = some .holding := by
    grind
  constructor <;> grind [List.Nodup.mem_erase_iff]

end InLine

/-- The place of the call on the key, when it has one there. -/
def placeOn {Key : Type} [DecidableEq Key] (calls : ℕ → Option (QueueCall Key)) (key : Key)
    (ticket : ℕ) : Option Place :=
  (calls ticket).bind fun call => if call.key = key then call.phase.place else none

section

variable {Key : Type} [DecidableEq Key] {calls : ℕ → Option (QueueCall Key)} {key : Key}
  {ticket : ℕ} {call : QueueCall Key}

theorem placeOn_self (known : calls ticket = some call) :
    placeOn calls call.key ticket = call.phase.place := by
  simp [placeOn, known]

theorem placeOn_waiting (place : placeOn calls key ticket = some .waiting) :
    ∃ call, calls ticket = some call ∧ call.key = key ∧ call.phase = .waiting := by
  rcases Option.bind_eq_some_iff.mp place with ⟨call, known, here⟩
  split at here
  case isTrue same =>
    refine ⟨call, known, same, ?_⟩
    cases phase : call.phase <;> simp_all [CallPhase.place]
  case isFalse => cases here

theorem placeOn_update (call : QueueCall Key) :
    placeOn (Function.update calls ticket (some call)) call.key =
      Function.update (placeOn calls call.key) ticket call.phase.place := by
  funext other
  by_cases same : other = ticket
  · subst same
    simp [placeOn]
  · simp [placeOn, same]

/-- A call shows on its own key only. -/
theorem placeOn_update_other (differs : call.key ≠ key)
    (absent : placeOn calls key ticket = none) :
    placeOn (Function.update calls ticket (some call)) key = placeOn calls key := by
  funext other
  by_cases same : other = ticket
  · subst same
    simp only [absent]
    simp [placeOn, differs]
  · simp [placeOn, same]

theorem placeOn_other (known : calls ticket = some call) (differs : call.key ≠ key) :
    placeOn calls key ticket = none := by
  simp [placeOn, known, differs]

end

/-- The log names every call whose task was started once, and on one key in their order. -/
structure Logged {Key : Type} (calls : ℕ → Option (QueueCall Key)) (started : List ℕ) : Prop where
  mem_iff : ∀ ticket, ticket ∈ started ↔ (calls ticket).any (·.phase.wasStarted)
  distinct : started.Nodup
  ordered : started.Pairwise fun ticket other =>
    (calls ticket).map (·.key) = (calls other).map (·.key) → ticket < other

namespace Logged

variable {Key : Type} {calls : ℕ → Option (QueueCall Key)} {started : List ℕ} {ticket : ℕ}
  {call : QueueCall Key}

/-- The call changes, but not whether its task was started, and if it was, not its key. -/
theorem update (logged : Logged calls started)
    (same : (calls ticket).any (·.phase.wasStarted) = call.phase.wasStarted)
    (key : call.phase.wasStarted = true → (calls ticket).map (·.key) = some call.key) :
    Logged (Function.update calls ticket (some call)) started where
  mem_iff other := by
    rw [logged.mem_iff other]
    by_cases isTicket : other = ticket
    · subst isTicket
      simp [same]
    · simp [isTicket]
  distinct := logged.distinct
  ordered := by
    have keys : ∀ other ∈ started,
        (Function.update calls ticket (some call) other).map (·.key) =
          (calls other).map (·.key) := by
      intro other mem
      by_cases isTicket : other = ticket
      · subst isTicket
        have wasStarted := (logged.mem_iff other).mp mem
        rw [same] at wasStarted
        simp [key wasStarted]
      · simp [isTicket]
    apply logged.ordered.imp_of_mem
    intro first second firstMem secondMem order
    rw [keys first firstMem, keys second secondMem]
    exact order

theorem start (logged : Logged calls started) (known : calls ticket = some call)
    (ready : call.phase = .ready)
    (last : ∀ other rival, calls other = some rival → rival.key = call.key →
      rival.phase.wasStarted = true → other < ticket) :
    Logged (Function.update calls ticket (some { call with phase := .running }))
      (started ++ [ticket]) := by
  have keys : ∀ other,
      (Function.update calls ticket (some { call with phase := .running }) other).map (·.key) =
        (calls other).map (·.key) := by
    intro other
    by_cases isTicket : other = ticket
    · subst isTicket
      simp [known]
    · simp [isTicket]
  have absent : ticket ∉ started := by
    rw [logged.mem_iff ticket]
    simp [known, ready, CallPhase.wasStarted]
  constructor
  · intro other
    rw [List.mem_append, logged.mem_iff other]
    by_cases isTicket : other = ticket
    · subst isTicket
      simp [CallPhase.wasStarted]
    · simp [isTicket]
  · rw [List.nodup_append]
    refine ⟨logged.distinct, List.nodup_singleton ticket, ?_⟩
    rintro other mem _ isLast rfl
    rw [List.mem_singleton.mp isLast] at mem
    exact absent mem
  · simp only [keys]
    rw [List.pairwise_append]
    refine ⟨logged.ordered, List.pairwise_singleton _ _, ?_⟩
    intro other mem new isNew sameKey
    rw [List.mem_singleton.mp isNew] at sameKey ⊢
    have wasStarted := (logged.mem_iff other).mp mem
    cases isRival : calls other with
    | none => simp [isRival] at wasStarted
    | some rival =>
        rw [isRival, Option.any_some] at wasStarted
        rw [isRival, known] at sameKey
        exact last other rival isRival (Option.some.inj sameKey) wasStarted

end Logged

namespace QueueRun

variable {Key : Type}

def fresh (maxWaiting : ℕ) : QueueRun Key :=
  { queue := { maxWaiting, lanes := fun _ => none }
    issued := 0
    calls := fun _ => none
    started := [] }

def setCall (state : QueueRun Key) (ticket : ℕ) (call : QueueCall Key) : QueueRun Key :=
  { state with calls := Function.update state.calls ticket (some call) }

variable [DecidableEq Key]

def step (state : QueueRun Key) : QueueEvent Key → QueueRun Key
  | .run key =>
      let ticket := state.issued
      let counted := { state with issued := ticket + 1 }
      match state.queue.acquire key ticket with
      | .ok (queue, .now) =>
          { counted with queue }.setCall ticket { key, phase := .ready, timer := false }
      | .ok (queue, .later) =>
          { counted with queue }.setCall ticket { key, phase := .waiting, timer := true }
      | .error reason =>
          counted.setCall ticket { key, phase := .rejected reason, timer := false }
  | .start ticket =>
      match state.calls ticket with
      | some call =>
          if call.phase = .ready then
            { state with started := state.started ++ [ticket] }.setCall ticket
              { call with phase := .running }
          else state
      | none => state
  | .finish ticket outcome =>
      match state.calls ticket with
      | some call =>
          if call.phase = .running then
            let (queue, next) := state.queue.release call.key
            let ended :=
              { state with queue }.setCall ticket { call with phase := .finished outcome }
            match next with
            | none => ended
            | some next =>
                { ended with
                  calls := Function.update ended.calls next ((ended.calls next).map (·.resolve)) }
          else state
      | none => state
  | .timeOut ticket =>
      match state.calls ticket with
      | some call =>
          if call.timer then
            { state with queue := state.queue.timeOut call.key ticket }.setCall ticket call.reject
          else state
      | none => state

/-- The calls stand in line on every key, and only those that wait have a timer. -/
structure Orderly (state : QueueRun Key) : Prop where
  lines : ∀ key,
    InLine state.issued state.queue.maxWaiting (placeOn state.calls key) (state.queue.lanes key)
  timers : ∀ ticket call, state.calls ticket = some call → call.timer = true →
    call.phase = .waiting
  known : ∀ ticket call, state.calls ticket = some call → ticket < state.issued
  logged : Logged state.calls state.started

variable {state next : QueueRun Key} {event : QueueEvent Key}

/-- What an event does to the calls, when it does anything. -/
inductive Becomes (state : QueueRun Key) : QueueRun Key → Prop where
  | refused (key : Key) (full : ∃ waiting, state.queue.lanes key = some waiting) :
      Becomes state ({ state with issued := state.issued + 1 }.setCall state.issued
        { key, phase := .rejected .full, timer := false })
  | entered (key : Key) (free : state.queue.lanes key = none) :
      Becomes state ({ state with
          queue := state.queue.setLane key (some [])
          issued := state.issued + 1 }.setCall state.issued
        { key, phase := .ready, timer := false })
  | queued (key : Key) (waiting : List ℕ) (lane : state.queue.lanes key = some waiting)
      (room : waiting.length < state.queue.maxWaiting) :
      Becomes state ({ state with
          queue := state.queue.setLane key (some (waiting ++ [state.issued]))
          issued := state.issued + 1 }.setCall state.issued
        { key, phase := .waiting, timer := true })
  | started (ticket : ℕ) (call : QueueCall Key) (known : state.calls ticket = some call)
      (ready : call.phase = .ready) :
      Becomes state ({ state with started := state.started ++ [ticket] }.setCall ticket
        { call with phase := .running })
  | freed (ticket : ℕ) (call : QueueCall Key) (outcome : TaskOutcome)
      (known : state.calls ticket = some call) (running : call.phase = .running)
      (lane : state.queue.lanes call.key = some []) :
      Becomes state ({ state with queue := state.queue.setLane call.key none }.setCall ticket
        { call with phase := .finished outcome })
  | handed (ticket : ℕ) (call : QueueCall Key) (outcome : TaskOutcome) (heir : ℕ)
      (waiting : List ℕ) (heirCall : QueueCall Key) (known : state.calls ticket = some call)
      (running : call.phase = .running)
      (lane : state.queue.lanes call.key = some (heir :: waiting))
      (heirKnown : state.calls heir = some heirCall) (heirKey : heirCall.key = call.key)
      (heirWaits : heirCall.phase = .waiting) :
      Becomes state (({ state with
          queue := state.queue.setLane call.key (some waiting) }.setCall ticket
        { call with phase := .finished outcome }).setCall heir
        { heirCall with phase := .ready, timer := false })
  | expired (ticket : ℕ) (call : QueueCall Key) (waiting : List ℕ)
      (known : state.calls ticket = some call) (waits : call.phase = .waiting)
      (lane : state.queue.lanes call.key = some waiting) :
      Becomes state ({ state with
          queue := state.queue.setLane call.key (some (waiting.erase ticket)) }.setCall ticket
        { call with phase := .rejected .timeout, timer := false })

theorem Orderly.step_becomes (orderly : state.Orderly) (event : QueueEvent Key) :
    step state event = state ∨ Becomes state (step state event) := by
  cases event with
  | run key =>
      right
      cases lane : state.queue.lanes key with
      | none =>
          simp only [step, KeyedQueue.acquire, lane]
          exact .entered key lane
      | some waiting =>
          by_cases full : state.queue.maxWaiting ≤ waiting.length
          · simp only [step, KeyedQueue.acquire, lane, if_pos full]
            exact .refused key ⟨waiting, lane⟩
          · simp only [step, KeyedQueue.acquire, lane, if_neg full]
            exact .queued key waiting lane (Nat.lt_of_not_le full)
  | start ticket =>
      cases known : state.calls ticket with
      | none => exact Or.inl (by simp only [step, known])
      | some call =>
          by_cases ready : call.phase = .ready
          · right
            simp only [step, known, if_pos ready]
            exact .started ticket call known ready
          · exact Or.inl (by simp only [step, known, if_neg ready])
  | finish ticket outcome =>
      cases known : state.calls ticket with
      | none => exact Or.inl (by simp only [step, known])
      | some call =>
          by_cases running : call.phase = .running
          · right
            have holds : placeOn state.calls call.key ticket = some .holding := by
              simp [placeOn_self known, running, CallPhase.place]
            rcases Option.isSome_iff_exists.mp ((orderly.lines call.key).held.mpr ⟨_, holds⟩) with
              ⟨waiting, lane⟩
            cases waiting with
            | nil =>
                simp only [step, known, if_pos running, KeyedQueue.release, lane]
                exact .freed ticket call outcome known running lane
            | cons heir waiting =>
                have heirPlace : placeOn state.calls call.key heir = some .waiting :=
                  ((orderly.lines call.key).waiting heir).mp (by simp [lane])
                rcases placeOn_waiting heirPlace with ⟨heirCall, heirKnown, heirKey, heirWaits⟩
                have differs : heir ≠ ticket := by
                  rintro rfl
                  rw [known, Option.some.injEq] at heirKnown
                  subst heirKnown
                  simp [running] at heirWaits
                have resolved : heirCall.resolve =
                    { heirCall with phase := .ready, timer := false } := by
                  simp [QueueCall.resolve, heirWaits]
                have handed := Becomes.handed ticket call outcome heir waiting heirCall known
                  running lane heirKnown heirKey heirWaits
                simpa only [step, known, if_pos running, KeyedQueue.release, lane, setCall,
                  Function.update_of_ne differs, heirKnown, Option.map_some, resolved] using handed
          · exact Or.inl (by simp only [step, known, if_neg running])
  | timeOut ticket =>
      cases known : state.calls ticket with
      | none => exact Or.inl (by simp only [step, known])
      | some call =>
          cases timer : call.timer with
          | false => exact Or.inl (by simp [step, known, timer])
          | true =>
              right
              have waits := orderly.timers ticket call known timer
              have place : placeOn state.calls call.key ticket = some .waiting := by
                simp [placeOn_self known, waits, CallPhase.place]
              have mem := ((orderly.lines call.key).waiting ticket).mpr place
              cases lane : state.queue.lanes call.key with
              | none => simp [lane] at mem
              | some waiting =>
                  have rejected : call.reject =
                      { call with phase := .rejected .timeout, timer := false } := by
                    simp [QueueCall.reject, waits]
                  have expired := Becomes.expired ticket call waiting known waits lane
                  simpa only [step, known, timer, if_true, KeyedQueue.timeOut, lane,
                    Option.map_some, rejected] using expired

theorem Orderly.fresh (maxWaiting : ℕ) : (fresh maxWaiting : QueueRun Key).Orderly := by
  constructor
  · intro key
    constructor <;> simp [QueueRun.fresh, placeOn]
  · simp [QueueRun.fresh]
  · simp [QueueRun.fresh]
  · constructor <;> simp [QueueRun.fresh]

/-- A new call does not stand anywhere before it is made. -/
theorem Orderly.unplaced (orderly : state.Orderly) (key : Key) :
    placeOn state.calls key state.issued = none := by
  by_contra placed
  exact Nat.lt_irrefl _ ((orderly.lines key).issued state.issued placed)

theorem Orderly.lines_becomes (orderly : state.Orderly) (becomes : Becomes state next)
    (key : Key) :
    InLine next.issued next.queue.maxWaiting (placeOn next.calls key) (next.queue.lanes key) := by
  have inLine := orderly.lines key
  cases becomes with
  | refused called full =>
      by_cases same : called = key
      · subst same
        have absent := orderly.unplaced called
        have kept : placeOn (Function.update state.calls state.issued
            (some ⟨called, .rejected .full, false⟩)) called = placeOn state.calls called := by
          rw [placeOn_update ⟨called, .rejected .full, false⟩]
          simp [CallPhase.place, ← absent]
        simpa [setCall, kept] using inLine.call
      · simpa [setCall, placeOn_update_other, same, orderly.unplaced key] using inLine.call
  | entered called free =>
      by_cases same : called = key
      · subst same
        rw [free] at inLine
        simpa [setCall, placeOn_update ⟨called, .ready, false⟩] using inLine.enter
      · simpa [setCall, placeOn_update_other, same, orderly.unplaced key, Ne.symm same]
          using inLine.call
  | queued called waiting lane room =>
      by_cases same : called = key
      · subst same
        rw [lane] at inLine
        simpa [setCall, placeOn_update ⟨called, .waiting, true⟩] using inLine.enqueue room
      · simpa [setCall, placeOn_update_other, same, orderly.unplaced key, Ne.symm same]
          using inLine.call
  | started ticket call known ready =>
      by_cases same : call.key = key
      · subst same
        have holds : placeOn state.calls call.key ticket = some .holding := by
          simp [placeOn_self known, ready]
        have placed := @placeOn_update Key _ state.calls ticket { call with phase := .running }
        simp only [CallPhase.place] at placed
        rw [← holds, Function.update_eq_self] at placed
        simpa [setCall, placed] using inLine
      · simpa [setCall, placeOn_update_other, same, placeOn_other known same] using inLine
  | freed ticket call outcome known running lane =>
      by_cases same : call.key = key
      · subst same
        have holds := placeOn_self known
        rw [running] at holds
        rw [lane] at inLine
        simpa [setCall, placeOn_update { call with phase := .finished outcome }]
          using inLine.free holds
      · simpa [setCall, placeOn_update_other, same, placeOn_other known same, Ne.symm same]
          using inLine
  | handed ticket call outcome heir waiting heirCall known running lane heirKnown heirKey
      heirWaits =>
      by_cases same : call.key = key
      · subst same
        have holds := placeOn_self known
        rw [running] at holds
        rw [lane] at inLine
        have handed := inLine.hand holds
        have heirPlaced := @placeOn_update Key _
          (Function.update state.calls ticket (some { call with phase := .finished outcome })) heir
          { heirCall with phase := .ready, timer := false }
        simp only [heirKey, placeOn_update { call with phase := .finished outcome },
          CallPhase.place] at heirPlaced
        simpa [setCall, heirKey, heirPlaced] using handed
      · have heirDiffers : heirCall.key ≠ key := by rwa [heirKey]
        have kept := @placeOn_update_other Key _ state.calls key ticket
          { call with phase := .finished outcome } same (placeOn_other known same)
        have heirAbsent : placeOn (Function.update state.calls ticket
            (some { call with phase := .finished outcome })) key heir = none := by
          rw [kept]
          exact placeOn_other heirKnown heirDiffers
        simpa [setCall, placeOn_update_other, heirDiffers, heirAbsent, kept, Ne.symm same]
          using inLine
  | expired ticket call waiting known waits lane =>
      by_cases same : call.key = key
      · subst same
        have waited := placeOn_self known
        rw [waits] at waited
        rw [lane] at inLine
        simpa [setCall, placeOn_update { call with phase := .rejected .timeout, timer := false }]
          using inLine.expire waited
      · simpa [setCall, placeOn_update_other, same, placeOn_other known same, Ne.symm same]
          using inLine

/-- A task is started only after those of its key that were started before. -/
theorem Orderly.last_started (orderly : state.Orderly) {ticket other : ℕ}
    {call rival : QueueCall Key} (known : state.calls ticket = some call)
    (ready : call.phase = .ready) (rivalKnown : state.calls other = some rival)
    (same : rival.key = call.key) (ran : rival.phase.wasStarted = true) : other < ticket := by
  have inLine := orderly.lines call.key
  have holds : placeOn state.calls call.key ticket = some .holding := by
    simp [placeOn_self known, ready]
  have placed : placeOn state.calls call.key other = rival.phase.place := by
    rw [← same]
    exact placeOn_self rivalKnown
  cases phase : rival.phase with
  | finished outcome =>
      rw [phase] at placed
      exact inLine.finished_first other ticket placed holds
  | running =>
      rw [phase] at placed
      have one := inLine.single other ticket placed holds
      subst one
      rw [known, Option.some.injEq] at rivalKnown
      subst rivalKnown
      simp [ready] at phase
  | waiting | ready | rejected => simp [phase, CallPhase.wasStarted] at ran

theorem Orderly.logged_becomes (orderly : state.Orderly) (becomes : Becomes state next) :
    Logged next.calls next.started := by
  have logged := orderly.logged
  have fresh : (state.calls state.issued).any (·.phase.wasStarted) = false := by
    cases issued : state.calls state.issued with
    | none => rfl
    | some call => exact absurd (orderly.known _ call issued) (Nat.lt_irrefl _)
  cases becomes with
  | refused called full => exact logged.update fresh (by simp [CallPhase.wasStarted])
  | entered called free => exact logged.update fresh (by simp [CallPhase.wasStarted])
  | queued called waiting lane room => exact logged.update fresh (by simp [CallPhase.wasStarted])
  | started ticket call known ready =>
      exact logged.start known ready fun other rival isRival same ran =>
        orderly.last_started known ready isRival same ran
  | freed ticket call outcome known running lane =>
      exact logged.update (by simp [known, running, CallPhase.wasStarted]) (by simp [known])
  | handed ticket call outcome heir waiting heirCall known running lane heirKnown heirKey
      heirWaits =>
      have differs : heir ≠ ticket := by
        rintro rfl
        rw [known, Option.some.injEq] at heirKnown
        subst heirKnown
        simp [running] at heirWaits
      have ended := @Logged.update Key state.calls state.started ticket
        { call with phase := .finished outcome } logged
        (by simp [known, running, CallPhase.wasStarted]) (by simp [known])
      exact ended.update (by simp [differs, heirKnown, heirWaits, CallPhase.wasStarted])
        (by simp [CallPhase.wasStarted])
  | expired ticket call waiting known waits lane =>
      exact logged.update (by simp [known, waits, CallPhase.wasStarted])
        (by simp [CallPhase.wasStarted])

theorem Orderly.becomes (orderly : state.Orderly) (becomes : Becomes state next) :
    next.Orderly where
  lines := orderly.lines_becomes becomes
  timers ticket call known timer := by
    have timers := orderly.timers
    cases becomes <;> simp only [setCall, Function.update_apply] at known <;> grind
  known ticket call known := by
    have before := orderly.known
    cases becomes <;> simp only [setCall, Function.update_apply] at known ⊢ <;> grind
  logged := orderly.logged_becomes becomes

theorem Orderly.step (orderly : state.Orderly) (event : QueueEvent Key) :
    (step state event).Orderly := by
  rcases orderly.step_becomes event with same | becomes
  · rw [same]
    exact orderly
  · exact orderly.becomes becomes

theorem Orderly.run (orderly : state.Orderly) (events : List (QueueEvent Key)) :
    (Runs.run QueueRun.step state events).Orderly :=
  Runs.run_invariant (fun _ event orderly => orderly.step event) orderly events

theorem Becomes.maxWaiting (becomes : Becomes state next) :
    next.queue.maxWaiting = state.queue.maxWaiting := by
  cases becomes <;> rfl

/-- A rejected call stays rejected. -/
theorem Orderly.rejected_becomes (orderly : state.Orderly) (becomes : Becomes state next)
    {ticket : ℕ} {call : QueueCall Key} (known : state.calls ticket = some call)
    (rejected : call.phase.isRejected = true) : next.calls ticket = some call := by
  have issued : ticket ≠ state.issued := Nat.ne_of_lt (orderly.known ticket call known)
  have kept : ∀ other rival, state.calls other = some rival →
      rival.phase.isRejected = false → ticket ≠ other := by
    rintro other rival isRival live rfl
    rw [known, Option.some.injEq] at isRival
    subst isRival
    simp [rejected] at live
  cases becomes with
  | refused | entered | queued => simpa [setCall, issued] using known
  | started other rival isRival ready =>
      have differs := kept other rival isRival (by simp [ready, CallPhase.isRejected])
      simpa [setCall, differs] using known
  | freed other rival outcome isRival running =>
      have differs := kept other rival isRival (by simp [running, CallPhase.isRejected])
      simpa [setCall, differs] using known
  | handed other rival outcome heir waiting heirCall isRival running lane heirKnown heirKey
      heirWaits =>
      have differs := kept other rival isRival (by simp [running, CallPhase.isRejected])
      have heirDiffers := kept heir heirCall heirKnown (by simp [heirWaits, CallPhase.isRejected])
      simpa [setCall, differs, heirDiffers] using known
  | expired other rival waiting isRival waits =>
      have differs := kept other rival isRival (by simp [waits, CallPhase.isRejected])
      simpa [setCall, differs] using known

theorem Orderly.maxWaiting_run (orderly : state.Orderly) (events : List (QueueEvent Key)) :
    (Runs.run QueueRun.step state events).queue.maxWaiting = state.queue.maxWaiting := by
  induction events generalizing state with
  | nil => rfl
  | cons event events ih =>
      rw [Runs.run_cons, ih (orderly.step event)]
      rcases orderly.step_becomes event with same | becomes
      · rw [same]
      · exact becomes.maxWaiting

theorem Orderly.rejected_run (orderly : state.Orderly) {ticket : ℕ} {call : QueueCall Key}
    (known : state.calls ticket = some call) (rejected : call.phase.isRejected = true)
    (events : List (QueueEvent Key)) :
    (Runs.run QueueRun.step state events).calls ticket = some call := by
  induction events generalizing state with
  | nil => exact known
  | cons event events ih =>
      apply ih (orderly.step event)
      rcases orderly.step_becomes event with same | becomes
      · rw [same]
        exact known
      · exact orderly.rejected_becomes becomes known rejected

/-- What the queue promises of its calls, at any moment. -/
structure Safe (maxWaiting : ℕ) (state : QueueRun Key) : Prop where
  one_at_a_time : ∀ key ticket other, placeOn state.calls key ticket = some .holding →
    placeOn state.calls key other = some .holding → ticket = other
  in_order : state.started.Pairwise fun ticket other =>
    (state.calls ticket).map (·.key) = (state.calls other).map (·.key) → ticket < other
  none_passed : ∀ ticket other call rival, state.calls ticket = some call →
    state.calls other = some rival → call.key = rival.key → ticket < other →
      other ∈ state.started → ticket ∈ state.started ∨ call.phase.isRejected = true
  rejected_never : ∀ ticket call, state.calls ticket = some call →
    call.phase.isRejected = true → ticket ∉ state.started
  once : state.started.Nodup
  turn : ∀ ticket call, state.calls ticket = some call →
    (∀ other rival, other < ticket → state.calls other = some rival → rival.key = call.key →
      rival.phase.isRejected = true ∨ rival.phase.place = some .finished) →
    call.phase.isRejected = true ∨ call.phase = .ready ∨ ticket ∈ state.started
  starts : ∀ ticket call, state.calls ticket = some call → call.phase = .ready →
    ticket ∈ (QueueRun.step state (.start ticket)).started
  settled : (∀ key ticket, placeOn state.calls key ticket ≠ some .holding) →
    ∀ ticket call, state.calls ticket = some call → call.phase.isRejected = true ∨
      call.phase.place = some .finished ∧ state.started.count ticket = 1
  bounded : ∀ key, ((List.range state.issued).filter fun ticket =>
    placeOn state.calls key ticket = some .waiting).length ≤ maxWaiting
  lane : ∀ key, (state.queue.lanes key).isSome ↔
    ∃ ticket, placeOn state.calls key ticket = some .holding
  served : ∀ key ticket, placeOn state.calls key ticket = some .waiting →
    ∃ holder, placeOn state.calls key holder = some .holding

theorem Orderly.served (orderly : state.Orderly) {key : Key} {ticket : ℕ}
    (waits : placeOn state.calls key ticket = some .waiting) :
    ∃ holder, placeOn state.calls key holder = some .holding := by
  have mem := ((orderly.lines key).waiting ticket).mpr waits
  apply (orderly.lines key).held.mp
  cases lane : state.queue.lanes key with
  | none => simp [lane] at mem
  | some waiting => rfl

theorem Orderly.none_passed (orderly : state.Orderly) {ticket other : ℕ}
    {call rival : QueueCall Key} (known : state.calls ticket = some call)
    (rivalKnown : state.calls other = some rival) (same : call.key = rival.key)
    (order : ticket < other) (ran : other ∈ state.started) :
    ticket ∈ state.started ∨ call.phase.isRejected = true := by
  have inLine := orderly.lines call.key
  have place := placeOn_self known
  have rivalPlace := placeOn_self rivalKnown
  rw [← same] at rivalPlace
  rw [orderly.logged.mem_iff, rivalKnown, Option.any_some] at ran
  rw [orderly.logged.mem_iff, known, Option.any_some]
  have before : rival.phase.place = some .finished ∨ rival.phase.place = some .holding := by
    cases phase : rival.phase <;> simp [phase, CallPhase.wasStarted] at ran ⊢
  cases phase : call.phase with
  | running | finished => exact Or.inl rfl
  | rejected => exact Or.inr rfl
  | ready =>
      rw [phase] at place
      rcases before with finished | holding
      · have first := inLine.finished_first other ticket (rivalPlace.trans finished) place
        omega
      · have one := inLine.single ticket other place (rivalPlace.trans holding)
        omega
  | waiting =>
      rw [phase] at place
      rcases orderly.served place with ⟨holder, holds⟩
      have last := inLine.waiting_last holder ticket holds place
      rcases before with finished | holding
      · have first := inLine.finished_first other holder (rivalPlace.trans finished) holds
        omega
      · have one := inLine.single holder other holds (rivalPlace.trans holding)
        omega

/-- Once the earlier calls of its key are out of the way, a call is about to start. -/
theorem Orderly.turn (orderly : state.Orderly) {ticket : ℕ} {call : QueueCall Key}
    (known : state.calls ticket = some call)
    (earlier : ∀ other rival, other < ticket → state.calls other = some rival →
      rival.key = call.key → rival.phase.isRejected = true ∨ rival.phase.place = some .finished) :
    call.phase.isRejected = true ∨ call.phase = .ready ∨ ticket ∈ state.started := by
  rw [orderly.logged.mem_iff, known, Option.any_some]
  cases phase : call.phase with
  | running | finished => exact Or.inr (Or.inr rfl)
  | rejected => exact Or.inl rfl
  | ready => exact Or.inr (Or.inl rfl)
  | waiting =>
      have place := placeOn_self known
      rw [phase] at place
      rcases orderly.served place with ⟨holder, holds⟩
      have order := (orderly.lines call.key).waiting_last holder ticket holds place
      rcases Option.bind_eq_some_iff.mp holds with ⟨rival, isRival, here⟩
      split at here
      case isFalse => cases here
      case isTrue same =>
        rcases earlier holder rival order isRival same with rejected | finished
        · cases isRejected : rival.phase <;>
            simp [isRejected, CallPhase.isRejected] at here rejected
        · rw [finished] at here
          cases here

/-- When nothing runs and nothing is about to, every task that was not rejected has run. -/
theorem Orderly.settled (orderly : state.Orderly)
    (quiet : ∀ key ticket, placeOn state.calls key ticket ≠ some .holding) {ticket : ℕ}
    {call : QueueCall Key} (known : state.calls ticket = some call) :
    call.phase.isRejected = true ∨
      call.phase.place = some .finished ∧ state.started.count ticket = 1 := by
  have place := placeOn_self known
  have ran := orderly.logged.mem_iff ticket
  rw [known, Option.any_some] at ran
  cases phase : call.phase with
  | rejected => exact Or.inl rfl
  | ready | running =>
      rw [phase] at place
      exact absurd place (quiet call.key ticket)
  | waiting =>
      rw [phase] at place
      rcases orderly.served place with ⟨holder, holds⟩
      exact absurd holds (quiet call.key holder)
  | finished =>
      rw [phase] at ran
      exact Or.inr ⟨rfl, List.count_eq_one_of_mem orderly.logged.distinct (ran.mpr rfl)⟩

theorem Orderly.bounded (orderly : state.Orderly) (key : Key) :
    ((List.range state.issued).filter fun ticket =>
      placeOn state.calls key ticket = some .waiting).length ≤ state.queue.maxWaiting := by
  have inLine := orderly.lines key
  apply Nat.le_trans ?_ inLine.bounded
  apply List.Subperm.length_le
  apply (List.nodup_range.filter _).subperm
  intro ticket mem
  have waits := (List.mem_filter.mp mem).2
  exact (inLine.waiting ticket).mpr (by simpa using waits)

theorem Orderly.safe (orderly : state.Orderly) : state.Safe state.queue.maxWaiting where
  one_at_a_time key := (orderly.lines key).single
  in_order := orderly.logged.ordered
  none_passed _ _ _ _ := orderly.none_passed
  rejected_never ticket call known rejected mem := by
    rw [orderly.logged.mem_iff, known, Option.any_some] at mem
    cases phase : call.phase <;> simp [phase, CallPhase.isRejected, CallPhase.wasStarted] at *
  once := orderly.logged.distinct
  turn _ _ := orderly.turn
  starts ticket call known ready := by
    simp [QueueRun.step, known, ready, setCall]
  settled quiet _ _ := orderly.settled quiet
  bounded := orderly.bounded
  lane key := (orderly.lines key).held
  served _ _ := orderly.served

/-- Whatever calls are made and however they, the tasks and the timers interleave, the
queue keeps its promises, and a rejected call is never heard of again. -/
theorem safe_run (maxWaiting : ℕ) (events : List (QueueEvent Key)) :
    (Runs.run step (fresh maxWaiting) events).Safe maxWaiting ∧
      ∀ ticket call, (Runs.run step (fresh maxWaiting) events).calls ticket = some call →
        call.phase.isRejected = true → ∀ more,
          (Runs.run step (fresh maxWaiting) (events ++ more)).calls ticket = some call ∧
            ticket ∉ (Runs.run step (fresh maxWaiting) (events ++ more)).started := by
  have orderly := (Orderly.fresh maxWaiting : (fresh maxWaiting : QueueRun Key).Orderly)
  constructor
  · have safe := (orderly.run events).safe
    rwa [orderly.maxWaiting_run events] at safe
  · intro ticket call known rejected more
    have kept := (orderly.run events).rejected_run known rejected more
    rw [← Runs.run_append] at kept
    exact ⟨kept, (orderly.run (events ++ more)).safe.rejected_never ticket call kept rejected⟩

end QueueRun

end MyBuild
