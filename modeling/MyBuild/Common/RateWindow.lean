import Mathlib.Algebra.Order.Group.Int
import Mathlib.Logic.Function.Basic
import MyBuild.Library.Runs
import MyBuild.Library.SlidingWindow

/-!
# The count of requests in a sliding window

The store keeps, for each key, the moments of its requests that were allowed.  It forgets
a moment that has left the window only when the key is asked for again, and throws whole
windows away when a sweep comes round; the moments are milliseconds.

`Remembers` relates the store to the log of everything it has allowed: from the last
reading of the clock on, both show the same window, and a key that was thrown away has
nothing left to show.  The verdicts of the store are therefore those of the limiter of
the library, which never forgets.
-/

namespace MyBuild

open SlidingWindow

structure RateWindowOptions where
  limit : ℕ
  ttl : ℤ

structure RateWindowResult where
  allowed : Bool
  retryAfterMs : ℤ
  deriving DecidableEq

structure Window where
  stamps : List ℤ
  expiresAt : ℤ

def SWEEP_INTERVAL_MS : ℤ := 60000

structure RateWindows (Key : Type) where
  windows : Key → Option Window := fun _ => none
  nextSweepAt : ℤ := 0

/-- A request of a key, at a reading of the clock. -/
structure Hit (Key : Type) where
  key : Key
  now : ℤ

namespace RateWindows

variable {Key : Type}

def stamps (store : RateWindows Key) (key : Key) : List ℤ :=
  (store.windows key).elim [] (·.stamps)

def sweep (store : RateWindows Key) (now : ℤ) : RateWindows Key :=
  if now < store.nextSweepAt then store
  else
    { windows := fun key => (store.windows key).filter fun window => !(window.expiresAt ≤ now)
      nextSweepAt := now + SWEEP_INTERVAL_MS }

def hit [DecidableEq Key] (store : RateWindows Key) (key : Key) (options : RateWindowOptions)
    (now : ℤ) : RateWindowResult × RateWindows Key :=
  let swept := store.sweep now
  let windowStart := now - options.ttl
  let stamps := (swept.stamps key).filter (windowStart < ·)
  if options.limit ≤ stamps.length then
    ({ allowed := false, retryAfterMs := stamps.headI + options.ttl - now }, swept)
  else
    ({ allowed := true, retryAfterMs := 0 },
      { swept with
        windows := Function.update swept.windows key
          (some { stamps := stamps ++ [now], expiresAt := now + options.ttl }) })

section Requests

variable [DecidableEq Key] (options : Key → RateWindowOptions)

def answer (store : RateWindows Key) (request : Hit Key) : RateWindowResult :=
  (store.hit request.key (options request.key) request.now).1

def step (store : RateWindows Key) (request : Hit Key) : RateWindows Key :=
  (store.hit request.key (options request.key) request.now).2

/-- When the requests of the key were allowed, the earliest first. -/
def allowedAt (key : Key) : RateWindows Key → List (Hit Key) → List ℤ
  | _, [] => []
  | store, request :: requests =>
      (if request.key = key ∧ (answer options store request).allowed then [request.now] else []) ++
        allowedAt key (step options store request) requests

/-- The answer to a request that comes after others. -/
def verdict (earlier : List (Hit Key)) (request : Hit Key) : RateWindowResult :=
  answer options (Runs.run (step options) {} earlier) request

end Requests

/-- From `clock` on, the store shows the same windows as the logs. -/
structure Remembers (options : Key → RateWindowOptions) (store : RateWindows Key)
    (log : Key → List ℤ) (clock : ℤ) : Prop where
  within : ∀ key, Within (options key).limit (options key).ttl clock (log key)
  past : ∀ key, ∀ stamp ∈ store.stamps key, stamp ≤ clock
  shown : ∀ key now, clock ≤ now →
    recent (options key).ttl now (store.stamps key) = recent (options key).ttl now (log key)
  expires : ∀ key window, store.windows key = some window →
    ∀ stamp ∈ window.stamps, stamp + (options key).ttl ≤ window.expiresAt

variable {options : Key → RateWindowOptions} {store : RateWindows Key} {log : Key → List ℤ}
  {clock now : ℤ} {key : Key} {request : Hit Key}

theorem remembers_empty (options : Key → RateWindowOptions) (clock : ℤ) :
    Remembers options {} (fun _ => []) clock where
  within key := Within.nil _ _ clock
  past key stamp mem := by simp [stamps] at mem
  shown key now order := by simp [stamps]
  expires key window kept := by simp at kept

theorem Remembers.mono (remembers : Remembers options store log clock) (order : clock ≤ now) :
    Remembers options store log now where
  within key := (remembers.within key).mono order
  past key stamp mem := (remembers.past key stamp mem).trans order
  shown key later after := remembers.shown key later (order.trans after)
  expires := remembers.expires

theorem sweep_windows {window : Window} (kept : (store.sweep now).windows key = some window) :
    store.windows key = some window := by
  simp only [sweep] at kept
  split at kept
  case isTrue => exact kept
  case isFalse => exact (Option.filter_eq_some_iff.mp kept).1

/-- What a sweep leaves of a key: all of it, or nothing when its window has expired. -/
theorem stamps_sweep :
    (store.sweep now).stamps key = store.stamps key ∨
      (store.sweep now).stamps key = [] ∧
        ∃ window, store.windows key = some window ∧ window.expiresAt ≤ now := by
  simp only [sweep]
  split
  case isTrue => exact Or.inl rfl
  case isFalse =>
    cases kept : store.windows key with
    | none => simp [stamps, kept]
    | some window =>
        by_cases expired : window.expiresAt ≤ now
        · right
          simp [stamps, kept, Option.filter_some, expired]
        · left
          simp [stamps, kept, Option.filter_some, expired]

theorem Remembers.sweep (remembers : Remembers options store log now) :
    Remembers options (store.sweep now) log now where
  within := remembers.within
  past key stamp mem := by
    rcases @stamps_sweep Key store now key with same | ⟨none, -⟩
    · exact remembers.past key stamp (same ▸ mem)
    · simp [none] at mem
  shown key later order := by
    rw [← remembers.shown key later order]
    rcases @stamps_sweep Key store now key with same | ⟨none, window, kept, expired⟩
    · rw [same]
    · rw [none]
      symm
      simp only [recent, List.filter_nil, List.filter_eq_nil_iff, decide_eq_true_eq]
      intro stamp mem young
      have ends := remembers.expires key window kept stamp (by simpa [stamps, kept] using mem)
      omega
  expires key window kept := remembers.expires key window (sweep_windows kept)

/-- The stamps a request counts are those of the window that ends at it. -/
theorem Remembers.counted (remembers : Remembers options store log now) (key : Key) :
    (store.stamps key).filter (now - (options key).ttl < ·) =
      recent (options key).ttl now (log key) := by
  rw [← remembers.shown key now le_rfl]
  exact (recent_of_past (remembers.past key)).symm

variable [DecidableEq Key]

theorem Remembers.hit_cases (remembers : Remembers options store log request.now) :
    (Admits (options request.key).limit (options request.key).ttl request.now (log request.key) ∧
        answer options store request = { allowed := true, retryAfterMs := 0 } ∧
        step options store request =
          { store.sweep request.now with
            windows := Function.update (store.sweep request.now).windows request.key
              (some { stamps :=
                        recent (options request.key).ttl request.now (log request.key) ++
                          [request.now]
                      expiresAt := request.now + (options request.key).ttl }) }) ∨
      (¬ Admits (options request.key).limit (options request.key).ttl request.now
            (log request.key) ∧
        answer options store request =
          { allowed := false
            retryAfterMs :=
              (recent (options request.key).ttl request.now (log request.key)).headI +
                (options request.key).ttl - request.now } ∧
        step options store request = store.sweep request.now) := by
  have counted := remembers.sweep.counted request.key
  by_cases full : (options request.key).limit ≤
      (recent (options request.key).ttl request.now (log request.key)).length
  · right
    refine ⟨not_lt.mpr full, ?_, ?_⟩
    · simp only [answer, hit, counted, if_pos full]
    · simp only [step, hit, counted, if_pos full]
  · left
    refine ⟨not_le.mp full, ?_, ?_⟩
    · simp only [answer, hit, counted, if_neg full]
    · simp only [step, hit, counted, if_neg full]

/-- The log after a request: it grows by the request when it is allowed. -/
def logged (options : Key → RateWindowOptions) (store : RateWindows Key) (log : Key → List ℤ)
    (request : Hit Key) (key : Key) : List ℤ :=
  log key ++
    if request.key = key ∧ (answer options store request).allowed then [request.now] else []

theorem Remembers.step (remembers : Remembers options store log request.now) :
    Remembers options (step options store request) (logged options store log request)
      request.now := by
  rcases remembers.hit_cases with ⟨admits, allowed, stepped⟩ | ⟨-, refused, stepped⟩
  · have own : logged options store log request request.key = log request.key ++ [request.now] := by
      simp [logged, allowed]
    have others : ∀ key, key ≠ request.key → logged options store log request key = log key := by
      intro key differs
      simp [logged, Ne.symm differs]
    have ownStamps : (RateWindows.step options store request).stamps request.key =
        recent (options request.key).ttl request.now (log request.key) ++ [request.now] := by
      simp [stepped, stamps]
    have otherStamps : ∀ key, key ≠ request.key →
        (RateWindows.step options store request).stamps key =
          (store.sweep request.now).stamps key := by
      intro key differs
      simp [stepped, stamps, differs]
    constructor
    · intro key
      by_cases same : key = request.key
      · subst same
        rw [own]
        exact (remembers.within request.key).append admits
      · rw [others key same]
        exact remembers.within key
    · intro key stamp mem
      by_cases same : key = request.key
      · subst same
        rw [ownStamps] at mem
        rcases List.mem_append.mp mem with old | new
        · exact (mem_recent.mp old).2.2
        · exact (List.mem_singleton.mp new).le
      · rw [otherStamps key same] at mem
        exact remembers.sweep.past key stamp mem
    · intro key later order
      by_cases same : key = request.key
      · subst same
        rw [own, ownStamps, recent_append, recent_append,
          recent_recent (remembers.within request.key).past order]
      · rw [others key same, otherStamps key same]
        exact remembers.sweep.shown key later order
    · intro key window kept stamp mem
      by_cases same : key = request.key
      · subst same
        simp only [stepped, Function.update_self, Option.some.injEq] at kept
        subst kept
        rcases List.mem_append.mp mem with old | new
        · have ended := (mem_recent.mp old).2.2
          simpa using ended
        · have last := (List.mem_singleton.mp new).le
          simpa using last
      · simp only [stepped, Function.update_of_ne same] at kept
        exact remembers.sweep.expires key window kept stamp mem
  · have kept : logged options store log request = log := by
      funext key
      simp [logged, refused]
    rw [stepped, kept]
    exact remembers.sweep

theorem Remembers.run {requests : List (Hit Key)}
    (remembers : Remembers options store log clock)
    (after : ∀ request ∈ requests, clock ≤ request.now)
    (ordered : requests.Pairwise (·.now ≤ ·.now)) (order : clock ≤ now)
    (before : ∀ request ∈ requests, request.now ≤ now) :
    Remembers options (Runs.run (RateWindows.step options) store requests)
      (fun key => log key ++ allowedAt options key store requests) now := by
  induction requests generalizing store log clock with
  | nil => simpa [allowedAt] using remembers.mono order
  | cons request requests ih =>
      rw [List.pairwise_cons] at ordered
      rw [List.forall_mem_cons] at after before
      have stepped := (remembers.mono after.1).step
      have rest := ih stepped ordered.1 ordered.2 before.1 before.2
      simpa only [Runs.run_cons, allowedAt, logged, List.append_assoc] using rest

theorem run_remembers {requests : List (Hit Key)}
    (ordered : requests.Pairwise (·.now ≤ ·.now))
    (before : ∀ request ∈ requests, request.now ≤ now) :
    Remembers options (Runs.run (RateWindows.step options) {} requests)
      (fun key => allowedAt options key {} requests) now := by
  cases requests with
  | nil => exact remembers_empty options now
  | cons first requests =>
      have after : ∀ request ∈ first :: requests, first.now ≤ request.now := by
        rw [List.forall_mem_cons]
        exact ⟨le_rfl, (List.pairwise_cons.mp ordered).1⟩
      have order : first.now ≤ now := before first List.mem_cons_self
      simpa using (remembers_empty options first.now).run after ordered order before

theorem allowedAt_append (first second : List (Hit Key)) :
    allowedAt options key store (first ++ second) =
      allowedAt options key store first ++
        allowedAt options key (Runs.run (step options) store first) second := by
  induction first generalizing store with
  | nil => rfl
  | cons request requests ih => simp [allowedAt, ih]

theorem allowedAt_others {requests : List (Hit Key)}
    (others : ∀ request ∈ requests, request.key ≠ key) :
    allowedAt options key store requests = [] := by
  induction requests generalizing store with
  | nil => rfl
  | cons request requests ih =>
      rw [List.forall_mem_cons] at others
      simp [allowedAt, others.1, ih others.2]

section Verdict

variable {earlier : List (Hit Key)}
  (ordered : (earlier ++ [request]).Pairwise (·.now ≤ ·.now))

include ordered

theorem remembers_before :
    Remembers options (Runs.run (step options) {} earlier)
      (fun key => allowedAt options key {} earlier) request.now := by
  rw [List.pairwise_append] at ordered
  exact run_remembers ordered.1 fun other mem => ordered.2.2 other mem request (by simp)

theorem verdict_allowed_iff :
    (verdict options earlier request).allowed = true ↔
      Admits (options request.key).limit (options request.key).ttl request.now
        (allowedAt options request.key {} earlier) := by
  have remembers := @remembers_before Key options request _ earlier ordered
  rcases remembers.hit_cases with ⟨admits, allowed, -⟩ | ⟨full, refused, -⟩
  · simp [verdict, allowed, admits]
  · simp [verdict, refused, full]

/-- A refused request is told when the oldest request of its window leaves it. -/
theorem verdict_refused (limits : 1 ≤ (options request.key).limit)
    (refused : (verdict options earlier request).allowed = false) :
    ∃ oldest rest,
      recent (options request.key).ttl request.now (allowedAt options request.key {} earlier) =
        oldest :: rest ∧
      (verdict options earlier request).retryAfterMs =
        oldest + (options request.key).ttl - request.now := by
  have full : ¬ Admits (options request.key).limit (options request.key).ttl request.now
      (allowedAt options request.key {} earlier) := by
    rw [← verdict_allowed_iff ordered, refused]
    simp
  have remembers := @remembers_before Key options request _ earlier ordered
  rcases remembers.hit_cases with ⟨admits, -, -⟩ | ⟨-, answered, -⟩
  · exact absurd admits full
  · cases window : recent (options request.key).ttl request.now
        (allowedAt options request.key {} earlier) with
    | nil =>
        rw [Admits, window, List.length_nil] at full
        omega
    | cons oldest rest =>
        refine ⟨oldest, rest, rfl, ?_⟩
        simp only [verdict, answered, window, List.headI_cons]

end Verdict

/-- Among the requests that were allowed, no half-open interval of one window's length
holds more than the limit. -/
theorem allowed_within {requests : List (Hit Key)}
    (ordered : requests.Pairwise (·.now ≤ ·.now)) (key : Key) (start : ℤ) :
    ((allowedAt options key {} requests).filter fun stamp =>
        start < stamp ∧ stamp ≤ start + (options key).ttl).length ≤ (options key).limit := by
  have remembers : ∃ now, Remembers options (Runs.run (RateWindows.step options) {} requests)
      (fun key => allowedAt options key {} requests) now := by
    rcases List.eq_nil_or_concat requests with rfl | ⟨before, last, rfl⟩
    · exact ⟨0, remembers_empty options 0⟩
    · refine ⟨last.now, run_remembers ordered ?_⟩
      rw [List.concat_eq_append, List.pairwise_append] at ordered
      intro request mem
      rcases List.mem_append.mp (List.concat_eq_append ▸ mem) with old | new
      · exact ordered.2.2 request old last (by simp)
      · rw [List.mem_singleton.mp new]
  rcases remembers with ⟨now, remembers⟩
  simpa [recent] using (remembers.within key).bounded (start + (options key).ttl)

theorem allowed_within_from {requests : List (Hit Key)}
    (ordered : requests.Pairwise (·.now ≤ ·.now)) (key : Key) (start : ℤ) :
    ((allowedAt options key {} requests).filter fun stamp =>
        start ≤ stamp ∧ stamp < start + (options key).ttl).length ≤ (options key).limit := by
  have within := @allowed_within Key options _ requests ordered key (start - 1)
  have alike : ∀ stamp : ℤ, (start ≤ stamp ∧ stamp < start + (options key).ttl) ↔
      start - 1 < stamp ∧ stamp ≤ start - 1 + (options key).ttl := by
    intro stamp
    omega
  simpa only [alike] using within

/-- Between a refusal and the next request of the key, the key's log stands still. -/
theorem allowedAt_refused {earlier between : List (Hit Key)}
    (refused : (verdict options earlier request).allowed = false)
    (others : ∀ other ∈ between, other.key ≠ request.key) :
    allowedAt options request.key {} (earlier ++ request :: between) =
      allowedAt options request.key {} earlier := by
  rw [verdict] at refused
  rw [allowedAt_append, allowedAt, allowedAt_others others, refused]
  simp

theorem verdict_after_refusal {earlier between : List (Hit Key)} {again : Hit Key}
    (ordered : (earlier ++ request :: between ++ [again]).Pairwise (·.now ≤ ·.now))
    (limits : 1 ≤ (options request.key).limit)
    (refused : (verdict options earlier request).allowed = false)
    (others : ∀ other ∈ between, other.key ≠ request.key) (same : again.key = request.key) :
    (verdict options (earlier ++ request :: between) again).allowed = true ↔
      request.now + (verdict options earlier request).retryAfterMs ≤ again.now := by
  have earlierOrdered : (earlier ++ [request]).Pairwise (·.now ≤ ·.now) := by
    refine List.Pairwise.sublist ?_ ordered
    rw [List.append_assoc, List.cons_append]
    apply List.Sublist.append_left
    simp
  have order : request.now ≤ again.now :=
    (List.pairwise_append.mp ordered).2.2 request (by simp) again (by simp)
  have remembers := @remembers_before Key options request _ earlier earlierOrdered
  have full : ¬ Admits (options request.key).limit (options request.key).ttl request.now
      (allowedAt options request.key {} earlier) := by
    rw [← verdict_allowed_iff earlierOrdered, refused]
    simp
  rcases verdict_refused earlierOrdered limits refused with ⟨oldest, rest, window, retry⟩
  rw [verdict_allowed_iff ordered, same, allowedAt_refused refused others,
    (remembers.within request.key).admits_later_iff full window order, retry]
  omega

/-- With a clock that never goes back, a request is allowed if and only if fewer than
`limit` requests of its key were allowed in the window that ends at it; no half-open
interval of the window's length ever holds more; and a refused request is told exactly
when the next one of its key will be allowed. -/
theorem verdict_slides (options : Key → RateWindowOptions)
    (limits : ∀ key, 1 ≤ (options key).limit)
    (earlier : List (Hit Key)) (request : Hit Key)
    (ordered : (earlier ++ [request]).Pairwise (·.now ≤ ·.now)) :
    ((verdict options earlier request).allowed = true ↔
      ((allowedAt options request.key {} earlier).filter fun stamp =>
          request.now - (options request.key).ttl < stamp ∧ stamp ≤ request.now).length <
        (options request.key).limit) ∧
    (∀ key start,
      ((allowedAt options key {} (earlier ++ [request])).filter fun stamp =>
          start < stamp ∧ stamp ≤ start + (options key).ttl).length ≤ (options key).limit ∧
      ((allowedAt options key {} (earlier ++ [request])).filter fun stamp =>
          start ≤ stamp ∧ stamp < start + (options key).ttl).length ≤ (options key).limit) ∧
    ((verdict options earlier request).allowed = false →
      0 < (verdict options earlier request).retryAfterMs ∧
      (verdict options earlier request).retryAfterMs ≤ (options request.key).ttl ∧
      ∀ (between : List (Hit Key)) (again : Hit Key),
        (earlier ++ request :: between ++ [again]).Pairwise (·.now ≤ ·.now) →
        (∀ other ∈ between, other.key ≠ request.key) → again.key = request.key →
        ((verdict options (earlier ++ request :: between) again).allowed = true ↔
          request.now + (verdict options earlier request).retryAfterMs ≤ again.now)) := by
  refine ⟨verdict_allowed_iff ordered, ?_, ?_⟩
  · intro key start
    exact ⟨allowed_within ordered key start, allowed_within_from ordered key start⟩
  · intro refused
    rcases verdict_refused ordered (limits request.key) refused with
      ⟨oldest, rest, window, retry⟩
    have inside := oldest_mem window
    refine ⟨?_, ?_, ?_⟩
    · omega
    · omega
    · intro between again orderedAgain others same
      exact verdict_after_refusal orderedAgain (limits request.key) refused others same

/-- Two requests in a second, then a refusal that ends when the first one leaves. -/
theorem verdict_slides_example :
    let options : ℕ → RateWindowOptions := fun _ => { limit := 2, ttl := 1000 }
    let earlier : List (Hit ℕ) := [⟨7, 0⟩, ⟨7, 100⟩]
    verdict options earlier ⟨7, 200⟩ = { allowed := false, retryAfterMs := 800 } ∧
      (verdict options (earlier ++ ⟨7, 200⟩ :: [] : List (Hit ℕ)) ⟨7, 1000⟩).allowed = true := by
  intro options earlier
  have slides := verdict_slides options (fun _ => by decide) earlier ⟨7, 200⟩ (by decide)
  have refused : verdict options earlier ⟨7, 200⟩ = { allowed := false, retryAfterMs := 800 } := by
    decide
  refine ⟨refused, ?_⟩
  rw [(slides.2.2 (by rw [refused])).2.2 [] ⟨7, 1000⟩ (by decide) (by simp) rfl, refused]
  decide

end RateWindows

end MyBuild
