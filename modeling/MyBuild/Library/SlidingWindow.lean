import Mathlib.Algebra.Order.Group.Defs
import Mathlib.Algebra.Order.Sub.Basic

/-!
# A limit over a sliding window

A limiter admits an event at a moment when fewer than `limit` of the events admitted
before lie in the window of length `ttl` that ends there.  The log lists the admitted
moments, the oldest first.  No window, wherever it ends, holds more than `limit` of them,
and a full window opens exactly when its oldest moment leaves it.
-/

namespace SlidingWindow

variable {Time : Type} [AddCommGroup Time] [LinearOrder Time]

/-- The moments of the log in the window of length `ttl` that ends at `now`. -/
def recent (ttl now : Time) (log : List Time) : List Time :=
  log.filter fun stamp => now - ttl < stamp ∧ stamp ≤ now

def Admits (limit : ℕ) (ttl now : Time) (log : List Time) : Prop :=
  (recent ttl now log).length < limit

instance (limit : ℕ) (ttl now : Time) (log : List Time) : Decidable (Admits limit ttl now log) :=
  inferInstanceAs (Decidable (_ < _))

/-- The log is in order, ends by `now`, and no window holds more than `limit` of it. -/
structure Within (limit : ℕ) (ttl now : Time) (log : List Time) : Prop where
  ordered : log.Pairwise (· ≤ ·)
  past : ∀ stamp ∈ log, stamp ≤ now
  bounded : ∀ moment, (recent ttl moment log).length ≤ limit

variable {limit : ℕ} {ttl now later oldest : Time} {log rest : List Time}

theorem Within.nil (limit : ℕ) (ttl now : Time) : Within limit ttl now [] := by
  constructor
  · exact List.Pairwise.nil
  · simp
  · simp [recent]

theorem Within.mono (within : Within limit ttl now log) (order : now ≤ later) :
    Within limit ttl later log where
  ordered := within.ordered
  past stamp mem := (within.past stamp mem).trans order
  bounded := within.bounded

theorem mem_recent {stamp : Time} :
    stamp ∈ recent ttl now log ↔ stamp ∈ log ∧ now - ttl < stamp ∧ stamp ≤ now := by
  simp [recent]

theorem recent_append (first second : List Time) :
    recent ttl now (first ++ second) = recent ttl now first ++ recent ttl now second := by
  simp [recent]

/-- Of a log that ends by now, the window holds what is not too old. -/
theorem recent_of_past (past : ∀ stamp ∈ log, stamp ≤ now) :
    recent ttl now log = log.filter (now - ttl < ·) := by
  apply List.filter_congr
  intro stamp mem
  simp [past stamp mem]

/-- The oldest moment of a full window lies in it. -/
theorem oldest_mem (full : recent ttl now log = oldest :: rest) :
    now - ttl < oldest ∧ oldest ≤ now := by
  have mem : oldest ∈ recent ttl now log := by simp [full]
  exact (mem_recent.mp mem).2

theorem Within.oldest_le (within : Within limit ttl now log)
    (full : recent ttl now log = oldest :: rest) :
    ∀ stamp ∈ recent ttl now log, oldest ≤ stamp := by
  have ordered : (recent ttl now log).Pairwise (· ≤ ·) :=
    within.ordered.sublist List.filter_sublist
  rw [full, List.pairwise_cons] at ordered
  rw [full]
  rintro stamp (_ | ⟨_, mem⟩)
  · exact le_rfl
  · exact ordered.1 stamp mem

variable [IsOrderedAddMonoid Time]

/-- A window that ends later holds nothing of the log but what the earlier one holds. -/
theorem recent_recent (past : ∀ stamp ∈ log, stamp ≤ now) (order : now ≤ later) :
    recent ttl later (recent ttl now log) = recent ttl later log := by
  simp only [recent, List.filter_filter]
  apply List.filter_congr
  intro stamp mem
  have started : now - ttl ≤ later - ttl := sub_le_sub_right order ttl
  have alike : (later - ttl < stamp ∧ stamp ≤ later) ∧ now - ttl < stamp ∧ stamp ≤ now ↔
      later - ttl < stamp ∧ stamp ≤ later := by
    refine ⟨And.left, fun inside => ⟨inside, ?_⟩⟩
    exact ⟨started.trans_lt inside.1, past stamp mem⟩
  rw [← Bool.decide_and, decide_eq_decide]
  exact alike

theorem Within.append (within : Within limit ttl now log) (admits : Admits limit ttl now log) :
    Within limit ttl now (log ++ [now]) := by
  constructor
  · rw [List.pairwise_append]
    refine ⟨within.ordered, List.pairwise_singleton _ _, ?_⟩
    intro stamp mem last isLast
    rw [List.mem_singleton.mp isLast]
    exact within.past stamp mem
  · intro stamp mem
    rcases List.mem_append.mp mem with old | new
    · exact within.past stamp old
    · exact (List.mem_singleton.mp new).le
  · intro moment
    rw [recent_append, List.length_append]
    by_cases inside : moment - ttl < now ∧ now ≤ moment
    · have held : recent ttl moment [now] = [now] := by simp [recent, inside]
      have fewer : (recent ttl moment log).length ≤ (recent ttl now log).length := by
        rw [← recent_recent within.past inside.2]
        exact List.length_filter_le _ _
      have room : (recent ttl now log).length < limit := admits
      rw [held, List.length_singleton]
      omega
    · have dropped : recent ttl moment [now] = [] := by
        simp only [recent, List.filter_cons, decide_eq_true_eq, if_neg inside, List.filter_nil]
      rw [dropped]
      exact within.bounded moment

/-- A full window opens exactly when its oldest moment leaves it. -/
theorem Within.admits_later_iff (within : Within limit ttl now log)
    (refused : ¬ Admits limit ttl now log) (full : recent ttl now log = oldest :: rest)
    (order : now ≤ later) : Admits limit ttl later log ↔ oldest + ttl ≤ later := by
  have many : limit ≤ (recent ttl now log).length := not_lt.mp refused
  rw [Admits, ← recent_recent within.past order]
  constructor
  · intro admits
    by_contra early
    have kept : recent ttl later (recent ttl now log) = recent ttl now log := by
      simp only [recent, List.filter_eq_self, decide_eq_true_eq]
      intro stamp mem
      have after : oldest ≤ stamp := within.oldest_le full stamp mem
      have young : later - ttl < oldest := sub_lt_iff_lt_add.mpr (not_le.mp early)
      have ended : stamp ≤ now := (mem_recent.mp mem).2.2
      exact ⟨young.trans_le after, ended.trans order⟩
    rw [kept] at admits
    omega
  · intro left
    have gone : ¬ later - ttl < oldest := not_lt.mpr (le_sub_iff_add_le.mpr left)
    have fewer : (recent ttl later (oldest :: rest)).length ≤ rest.length := by
      simp only [recent, List.filter_cons, gone, false_and, decide_false, Bool.false_eq_true,
        if_false]
      exact List.length_filter_le _ _
    have bounded := within.bounded now
    rw [full, List.length_cons] at bounded
    rw [full]
    omega

end SlidingWindow
