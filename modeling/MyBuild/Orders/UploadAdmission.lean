import MyBuild.Library.Rows
import MyBuild.Library.Runs

/-!
# Admission of uploads

A request with files takes one of a few slots before its body is read, and gives it back when
its response closes.  The guard waits for a quota check first, takes the slot once the check
is answered, and only then asks to be told of the close.  A response that closed during the
wait has told nobody, and its slot is never given back: the slots in use at rest are those
taken so.
-/

namespace MyBuild

structure UploadSlots where
  limit : ℕ
  active : ℕ

namespace UploadSlots

def tryAcquire (slots : UploadSlots) : Option UploadSlots :=
  if slots.limit ≤ slots.active then none else some { slots with active := slots.active + 1 }

/-- A call of a release function; after its first call it does nothing. -/
def release (slots : UploadSlots) (released : Bool) : UploadSlots :=
  if released then slots else { slots with active := slots.active - 1 }

end UploadSlots

/-- Where `canActivate` stands with a request. -/
inductive AdmissionPhase where
  | checking
  | admitted
  | refused
  deriving DecidableEq

/-- A request, whether its response has closed, and whether its release function was called. -/
structure UploadRequest where
  phase : AdmissionPhase
  closed : Bool
  released : Bool

namespace UploadRequest

/-- How many slots the request holds. -/
def held (request : UploadRequest) : ℕ :=
  if request.phase = .admitted ∧ request.released = false then 1 else 0

/-- How many slots the request holds after its response has closed. -/
def leaked (request : UploadRequest) : ℕ :=
  if request.closed then request.held else 0

end UploadRequest

structure UploadAdmission where
  slots : UploadSlots
  requests : List UploadRequest

/-- `authorized` says whether a user was found for the request, `fits` how its quota check ends. -/
inductive AdmissionLabel where
  | arrive (authorized : Bool)
  | checked (request : ℕ) (fits : Bool)
  | close (request : ℕ)

namespace UploadAdmission

def idle (limit : ℕ) : UploadAdmission :=
  { slots := { limit, active := 0 }, requests := [] }

variable (admission : UploadAdmission)

/-- The guard goes on after the check: it takes a slot, and listens for the close of the
response from now on. -/
def resume (index : ℕ) (request : UploadRequest) (fits : Bool) : UploadAdmission :=
  match (if fits then admission.slots.tryAcquire else none) with
  | some slots =>
      { slots
        requests :=
          admission.requests.set index { request with phase := .admitted, released := false } }
  | none =>
      { admission with requests := admission.requests.set index { request with phase := .refused } }

/-- The response closes, which happens once, and calls the release function that listens. -/
def close (index : ℕ) (request : UploadRequest) : UploadAdmission :=
  match request.phase, request.closed with
  | _, true => admission
  | .admitted, false =>
      { slots := admission.slots.release request.released
        requests := admission.requests.set index { request with closed := true, released := true } }
  | _, false =>
      { admission with requests := admission.requests.set index { request with closed := true } }

def step (admission : UploadAdmission) : AdmissionLabel → UploadAdmission
  | .arrive authorized =>
      { admission with
        requests := admission.requests ++
          [{ phase := if authorized then .checking else .refused
             closed := false, released := false }] }
  | .checked index fits =>
      match admission.requests[index]? with
      | some request =>
          match request.phase with
          | .checking => admission.resume index request fits
          | _ => admission
      | none => admission
  | .close index =>
      match admission.requests[index]? with
      | some request => admission.close index request
      | none => admission

/-- A request gets a slot whose response has closed during its check. -/
def leaks (admission : UploadAdmission) : AdmissionLabel → Bool
  | .checked index fits =>
      (admission.requests[index]?).any fun request =>
        request.phase == .checking && request.closed && fits &&
          decide (admission.slots.active < admission.slots.limit)
  | _ => false

def held : ℕ := (admission.requests.map UploadRequest.held).sum

def leaked : ℕ := (admission.requests.map UploadRequest.leaked).sum

/-- The slots in use are those the requests hold, and no more than there are. -/
structure Counted (limit : ℕ) (admission : UploadAdmission) : Prop where
  limited : admission.slots.limit = limit
  active : admission.slots.active = admission.held
  within : admission.slots.active ≤ limit

section

variable {admission : UploadAdmission} {limit index : ℕ} {request : UploadRequest}

theorem held_set (new : UploadRequest) {slots : UploadSlots}
    (found : admission.requests[index]? = some request) :
    held { slots, requests := admission.requests.set index new } + request.held =
      admission.held + new.held :=
  Rows.sum_map_set new found

theorem leaked_set (new : UploadRequest) {slots : UploadSlots}
    (found : admission.requests[index]? = some request) :
    leaked { slots, requests := admission.requests.set index new } + request.leaked =
      admission.leaked + new.leaked :=
  Rows.sum_map_set new found

/-- A new row that holds what the old one held, and leaks no more, changes no count. -/
theorem counted_set (counted : admission.Counted limit) {new : UploadRequest}
    (found : admission.requests[index]? = some request) (held : new.held = request.held)
    (leaked : new.leaked = request.leaked) :
    Counted limit { admission with requests := admission.requests.set index new } ∧
      UploadAdmission.leaked { admission with requests := admission.requests.set index new } =
        admission.leaked := by
  have sameHeld := @held_set admission index request new admission.slots found
  have sameLeaked := @leaked_set admission index request new admission.slots found
  rw [held] at sameHeld
  rw [leaked] at sameLeaked
  refine ⟨⟨counted.limited, ?_, counted.within⟩, ?_⟩
  · have active := counted.active
    dsimp only
    omega
  · omega

theorem resume_counted (counted : admission.Counted limit) (fits : Bool)
    (found : admission.requests[index]? = some request) (checking : request.phase = .checking) :
    (admission.resume index request fits).Counted limit ∧
      (admission.resume index request fits).leaked =
        admission.leaked + if admission.leaks (.checked index fits) then 1 else 0 := by
  have noneHeld : request.held = 0 := by simp [UploadRequest.held, checking]
  have noneLeaked : request.leaked = 0 := by simp [UploadRequest.leaked, noneHeld]
  by_cases admitted : fits = true ∧ admission.slots.active < admission.slots.limit
  · rcases admitted with ⟨rfl, free⟩
    let new : UploadRequest := { request with phase := .admitted, released := false }
    have newHeld : new.held = 1 := by simp [new, UploadRequest.held]
    have taken : admission.resume index request true =
        { slots := { admission.slots with active := admission.slots.active + 1 }
          requests := admission.requests.set index new } := by
      simp [resume, UploadSlots.tryAcquire, Nat.not_le.mpr free, new]
    have heldAfter := @held_set admission index request new
      { admission.slots with active := admission.slots.active + 1 } found
    have leakedAfter := @leaked_set admission index request new
      { admission.slots with active := admission.slots.active + 1 } found
    rw [taken]
    refine ⟨⟨counted.limited, ?_, ?_⟩, ?_⟩
    · have active := counted.active
      dsimp only at heldAfter ⊢
      omega
    · have limited := counted.limited
      dsimp only
      omega
    · have newLeaked : new.leaked = if request.closed then 1 else 0 := by
        simp [UploadRequest.leaked, newHeld, new]
      rw [noneLeaked, newLeaked] at leakedAfter
      simpa [leaks, found, checking, free] using leakedAfter
  · have refused : admission.resume index request fits =
        { admission with
          requests := admission.requests.set index { request with phase := .refused } } := by
      cases fits with
      | false => rfl
      | true =>
          have full : admission.slots.limit ≤ admission.slots.active := by simpa using admitted
          simp [resume, UploadSlots.tryAcquire, full]
    have noLeak : admission.leaks (.checked index fits) = false := by
      simp only [leaks, found, Option.any_some]
      cases fits with
      | false => simp
      | true => simpa [checking] using fun _ => by simpa using admitted
    rw [refused, noLeak]
    refine counted_set counted found ?_ ?_
    · rw [noneHeld]
      rfl
    · rw [noneLeaked]
      simp [UploadRequest.leaked, UploadRequest.held]

theorem close_counted (counted : admission.Counted limit)
    (found : admission.requests[index]? = some request) :
    (admission.close index request).Counted limit ∧
      (admission.close index request).leaked = admission.leaked := by
  rcases request with ⟨phase, closed, released⟩
  cases closed with
  | true => exact ⟨counted, rfl⟩
  | false =>
      cases phase with
      | admitted =>
          cases released with
          | true => exact counted_set counted found rfl rfl
          | false =>
              have heldAfter : (admission.close index ⟨.admitted, false, false⟩).held + 1 =
                  admission.held + 0 :=
                @held_set admission index _ ⟨.admitted, true, true⟩ _ found
              have leakedAfter : (admission.close index ⟨.admitted, false, false⟩).leaked + 0 =
                  admission.leaked + 0 :=
                @leaked_set admission index _ ⟨.admitted, true, true⟩ _ found
              have after : (admission.close index ⟨.admitted, false, false⟩).slots.active =
                  admission.slots.active - 1 := rfl
              have active := counted.active
              have within := counted.within
              refine ⟨⟨counted.limited, ?_, ?_⟩, leakedAfter⟩
              · omega
              · omega
      | _ => exact counted_set counted found rfl rfl

theorem step_counted (counted : admission.Counted limit) (label : AdmissionLabel) :
    (admission.step label).Counted limit ∧
      (admission.step label).leaked =
        admission.leaked + if admission.leaks label then 1 else 0 := by
  cases label with
  | arrive authorized =>
      have newHeld : UploadRequest.held ⟨if authorized then .checking else .refused, false, false⟩ =
          0 := by
        cases authorized <;> rfl
      refine ⟨⟨counted.limited, ?_, counted.within⟩, ?_⟩
      · simpa [step, held, newHeld] using counted.active
      · simp [step, leaked, leaks, UploadRequest.leaked]
  | checked index fits =>
      simp only [step]
      cases found : admission.requests[index]? with
      | none => exact ⟨counted, by simp [leaks, found]⟩
      | some request =>
          cases phase : request.phase with
          | checking =>
              simp only [phase]
              exact resume_counted counted fits found phase
          | _ =>
              simp only [phase]
              exact ⟨counted, by simp [leaks, found, phase]⟩
  | close index =>
      simp only [step]
      cases found : admission.requests[index]? with
      | none => exact ⟨counted, rfl⟩
      | some request => exact close_counted counted found

theorem idle_counted (limit : ℕ) : (idle limit).Counted limit :=
  ⟨rfl, rfl, Nat.zero_le limit⟩

/-- At rest the slots in use are those that were leaked. -/
theorem held_eq_leaked (atRest : ∀ request ∈ admission.requests, request.closed = true) :
    admission.held = admission.leaked := by
  simp only [held, leaked]
  congr 1
  apply List.map_congr_left
  intro request mem
  simp [UploadRequest.leaked, atRest request mem]

end

end UploadAdmission

/-- The limit holds at every moment; and once every response has closed and every guard has
returned, all slots are free exactly if none was given to a request whose response had closed
during its check. -/
theorem upload_slots_returned_iff (limit : ℕ) (labels : List AdmissionLabel) :
    let admission := Runs.run UploadAdmission.step (UploadAdmission.idle limit) labels
    admission.slots.active ≤ limit ∧
      ((∀ request ∈ admission.requests, request.closed = true ∧ request.phase ≠ .checking) →
        (admission.slots.active = 0 ↔
          Runs.Along UploadAdmission.step
            (fun admission label => admission.leaks label = false)
            (UploadAdmission.idle limit) labels)) := by
  intro admission
  have idle := UploadAdmission.idle_counted limit
  have preserved : ∀ (state : UploadAdmission) (label : AdmissionLabel),
      state.Counted limit → (state.step label).Counted limit :=
    fun _ label holds => (UploadAdmission.step_counted holds label).1
  have counted : admission.Counted limit := Runs.run_invariant preserved idle labels
  have leaked : admission.leaked =
      0 + Runs.count UploadAdmission.step UploadAdmission.leaks (UploadAdmission.idle limit)
        labels :=
    Runs.run_count preserved
      (fun _ label holds => (UploadAdmission.step_counted holds label).2) idle labels
  refine ⟨counted.within, fun atRest => ?_⟩
  rw [counted.active, UploadAdmission.held_eq_leaked fun request mem => (atRest request mem).1,
    leaked, Nat.zero_add]
  exact Runs.count_eq_zero_iff

/-- The response closes while the quota is checked: the guard takes the only slot for it, and
the slot is never free again. -/
theorem closed_during_check_leaks :
    let admission := Runs.run UploadAdmission.step (UploadAdmission.idle 1)
      [.arrive true, .close 0, .checked 0 true]
    (∀ request ∈ admission.requests, request.closed = true ∧ request.phase ≠ .checking) ∧
      admission.slots.active = 1 := by
  decide

end MyBuild
