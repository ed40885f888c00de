import Mathlib.Data.Int.Notation
import MyBuild.Files.Quota
import MyBuild.Library.Rows
import MyBuild.Library.Runs

/-!
# Reservations as they are kept

The maps of `StorageReservations` hold a number for every key that has one, and drop it when it
is no longer positive; each call of `reserve` returns a function of its own, which remembers
whether it was called.  Against this stands what a list of calls promises: the reservations it
makes, without those that it releases later.

The maps add up to what is promised, which makes them the plain sums of the quota model.
-/

namespace MyBuild

namespace FileQuota

variable {Key OrderId ClientId : Type}

/-- Room in bytes as the running sums have it. -/
structure StorageUsage where
  order : ℤ
  client : ℤ
  total : ℤ
  deriving DecidableEq

/-- Empty entries are taken out, or the map would grow with every order for ever. -/
def adjust [DecidableEq Key] (map : Key → Option ℤ) (key : Key) (delta : ℤ) : Key → Option ℤ :=
  let next := (map key).getD 0 + delta
  if next ≤ 0 then Function.update map key none else Function.update map key (some next)

structure StorageReservations (OrderId ClientId : Type) where
  byOrder : OrderId → Option ℤ
  byClient : ClientId → Option ℤ
  total : ℤ

/-- The function that a call of `reserve` returns, with its own flag. -/
structure Reservation (OrderId ClientId : Type) where
  orderId : OrderId
  clientId : ClientId
  bytes : ℕ
  released : Bool

namespace StorageReservations

def empty : StorageReservations OrderId ClientId :=
  { byOrder := fun _ => none, byClient := fun _ => none, total := 0 }

def pending (reservations : StorageReservations OrderId ClientId) (orderId : OrderId)
    (clientId : ClientId) : StorageUsage :=
  { order := (reservations.byOrder orderId).getD 0
    client := (reservations.byClient clientId).getD 0
    total := reservations.total }

variable [DecidableEq OrderId] [DecidableEq ClientId]

def reserve (reservations : StorageReservations OrderId ClientId) (orderId : OrderId)
    (clientId : ClientId) (bytes : ℕ) :
    StorageReservations OrderId ClientId × Reservation OrderId ClientId :=
  ({ byOrder := adjust reservations.byOrder orderId bytes
     byClient := adjust reservations.byClient clientId bytes
     total := reservations.total + bytes },
    { orderId, clientId, bytes, released := false })

/-- A call of the function that `reserve` returned. -/
def release (reservations : StorageReservations OrderId ClientId)
    (reservation : Reservation OrderId ClientId) :
    StorageReservations OrderId ClientId × Reservation OrderId ClientId :=
  if reservation.released then (reservations, reservation)
  else
    ({ byOrder := adjust reservations.byOrder reservation.orderId (-reservation.bytes)
       byClient := adjust reservations.byClient reservation.clientId (-reservation.bytes)
       total := reservations.total - reservation.bytes },
      { reservation with released := true })

end StorageReservations

/-- Functions are numbered in the order in which they were returned. -/
inductive ReservationCall (OrderId ClientId : Type) where
  | reserve (orderId : OrderId) (clientId : ClientId) (bytes : ℕ)
  | release (index : ℕ)

def ReservationCall.isRelease (index : ℕ) : ReservationCall OrderId ClientId → Bool
  | .reserve .. => false
  | .release other => other == index

structure ReservationRun (OrderId ClientId : Type) where
  reservations : StorageReservations OrderId ClientId
  returned : List (Reservation OrderId ClientId)

namespace ReservationRun

def fresh : ReservationRun OrderId ClientId :=
  { reservations := .empty, returned := [] }

variable [DecidableEq OrderId] [DecidableEq ClientId]

/-- A function that was not returned yet cannot be called. -/
def step (state : ReservationRun OrderId ClientId) :
    ReservationCall OrderId ClientId → ReservationRun OrderId ClientId
  | .reserve orderId clientId bytes =>
      let (reservations, reservation) := state.reservations.reserve orderId clientId bytes
      { reservations, returned := state.returned ++ [reservation] }
  | .release index =>
      match state.returned[index]? with
      | none => state
      | some reservation =>
          let (reservations, called) := state.reservations.release reservation
          { reservations, returned := state.returned.set index called }

end ReservationRun

section Promises

/-- The reservations that a list of calls makes, numbered from here on; one is released when its
function is called later. -/
def reservationsFrom : ℕ → List (ReservationCall OrderId ClientId) →
    List (Reservation OrderId ClientId)
  | _, [] => []
  | index, .reserve orderId clientId bytes :: later =>
      { orderId, clientId, bytes, released := later.any (·.isRelease index) } ::
        reservationsFrom (index + 1) later
  | index, .release _ :: later => reservationsFrom index later

/-- The reservations not yet released. -/
def outstanding (calls : List (ReservationCall OrderId ClientId)) :
    List (Reservation OrderId ClientId) :=
  (reservationsFrom 0 calls).filter (!·.released)

def promisedBytes (reservations : List (Reservation OrderId ClientId)) : ℕ :=
  (reservations.map (·.bytes)).sum

/-- What the calls make of a function that was returned before them. -/
def markReleased (calls : List (ReservationCall OrderId ClientId)) (index : ℕ)
    (reservation : Reservation OrderId ClientId) : Reservation OrderId ClientId :=
  { reservation with released := reservation.released || calls.any (·.isRelease index) }

variable {calls : List (ReservationCall OrderId ClientId)} {index : ℕ}
  {reservation : Reservation OrderId ClientId}

theorem markReleased_nil : markReleased [] index reservation = reservation := by
  simp [markReleased]

theorem markReleased_reserve {orderId : OrderId} {clientId : ClientId} {bytes : ℕ} :
    markReleased (.reserve orderId clientId bytes :: calls) = markReleased calls := by
  funext index reservation
  simp [markReleased, ReservationCall.isRelease]

theorem markReleased_release {other : ℕ} :
    markReleased (.release other :: calls) index reservation =
      markReleased calls index
        (if other = index then { reservation with released := true } else reservation) := by
  have called : (ReservationCall.release other : ReservationCall OrderId ClientId).isRelease index =
      (other == index) := rfl
  simp only [markReleased, List.any_cons, called]
  by_cases same : other = index
  · simp [same]
  · simp [same, beq_eq_false_iff_ne.mpr same]

end Promises

section Entries

variable [DecidableEq Key] {map : Key → Option ℤ} {before after : Key → ℕ} {key : Key} {delta : ℤ}

/-- What a map holds for a sum. -/
def entry (sum : ℕ) : Option ℤ := if sum = 0 then none else some sum

@[simp]
theorem getD_entry (sum : ℕ) : (entry sum).getD 0 = sum := by
  simp only [entry]
  split
  case isTrue zero => simp [zero]
  case isFalse => rfl

theorem entry_eq_none_iff {sum : ℕ} : entry sum = none ↔ sum = 0 := by
  simp [entry]

/-- A map of sums whose sums change as the adjustment says. -/
theorem adjust_eq_entry (holds : ∀ other, map other = entry (before other))
    (changes : ∀ other, (after other : ℤ) = before other + if key = other then delta else 0)
    (other : Key) : adjust map key delta other = entry (after other) := by
  have change := changes other
  by_cases same : key = other
  · subst same
    have next : (map key).getD 0 + delta = after key := by
      rw [change, if_pos rfl, holds, getD_entry]
    simp only [adjust, next, entry]
    split
    case isTrue none =>
      have zero : after key = 0 := by omega
      simp [zero]
    case isFalse some =>
      have positive : after key ≠ 0 := by omega
      simp [positive]
  · rw [if_neg same, add_zero, Nat.cast_inj] at change
    simp only [adjust, change, ← holds]
    split <;> simp [Ne.symm same]

end Entries

section Sums

variable {reservations : List (Reservation OrderId ClientId)}
  {reservation : Reservation OrderId ClientId} {index : ℕ}

/-- The bytes of the chosen reservations that are not released. -/
def promisedTo (chosen : Reservation OrderId ClientId → Bool)
    (reservations : List (Reservation OrderId ClientId)) : ℕ :=
  promisedBytes ((reservations.filter (!·.released)).filter chosen)

variable {chosen : Reservation OrderId ClientId → Bool}

theorem promisedTo_append :
    promisedTo chosen (reservations ++ [reservation]) = promisedTo chosen reservations +
      if !reservation.released && chosen reservation then reservation.bytes else 0 := by
  simp only [promisedTo, promisedBytes, List.filter_append, List.map_append, List.sum_append]
  cases released : reservation.released <;> cases isChosen : chosen reservation <;>
    simp [released, isChosen]

theorem promisedTo_released (found : reservations[index]? = some reservation)
    (unreleased : reservation.released = false) :
    promisedTo chosen (reservations.set index { reservation with released := true }) +
      (if chosen reservation then reservation.bytes else 0) = promisedTo chosen reservations := by
  have weights := @Rows.sum_map_set _ _
    (fun other => if (chosen other && !other.released) then other.bytes else 0) _ _
    { reservation with released := true } found
  simpa [promisedTo, promisedBytes, List.filter_filter, Rows.sum_map_filter, unreleased] using
    weights

section Keys

variable [DecidableEq Key] {map : Key → Option ℤ} {keyOf : Reservation OrderId ClientId → Key}

theorem adjust_reserved
    (holds : ∀ key, map key = entry (promisedTo (keyOf · == key) reservations))
    (unreleased : reservation.released = false) (key : Key) :
    adjust map (keyOf reservation) reservation.bytes key =
      entry (promisedTo (keyOf · == key) (reservations ++ [reservation])) := by
  apply adjust_eq_entry holds
  intro other
  rw [promisedTo_append, unreleased]
  by_cases same : keyOf reservation = other <;> simp [same]

theorem adjust_released
    (holds : ∀ key, map key = entry (promisedTo (keyOf · == key) reservations))
    (found : reservations[index]? = some reservation) (unreleased : reservation.released = false)
    (key : Key) :
    adjust map (keyOf reservation) (-reservation.bytes) key =
      entry (promisedTo (keyOf · == key)
        (reservations.set index { reservation with released := true })) := by
  apply adjust_eq_entry holds
  intro other
  have change := @promisedTo_released _ _ _ _ _ (keyOf · == other) found unreleased
  by_cases same : keyOf reservation = other
  · simp only [same, beq_self_eq_true, if_true] at change ⊢
    omega
  · simp only [beq_eq_false_iff_ne.mpr same, Bool.false_eq_true, if_false, if_neg same] at change ⊢
    omega

end Keys

end Sums

namespace ReservationRun

/-- The running sums are the sums of what is promised. -/
structure AddsUp [DecidableEq OrderId] [DecidableEq ClientId]
    (state : ReservationRun OrderId ClientId) : Prop where
  byOrder : ∀ orderId, state.reservations.byOrder orderId =
    entry (promisedTo (·.orderId == orderId) state.returned)
  byClient : ∀ clientId, state.reservations.byClient clientId =
    entry (promisedTo (·.clientId == clientId) state.returned)
  total : state.reservations.total = promisedTo (fun _ => true) state.returned

variable [DecidableEq OrderId] [DecidableEq ClientId] {state : ReservationRun OrderId ClientId}

theorem addsUp_fresh : (fresh : ReservationRun OrderId ClientId).AddsUp :=
  ⟨fun _ => rfl, fun _ => rfl, rfl⟩

namespace AddsUp

theorem reserve (addsUp : state.AddsUp) (orderId : OrderId) (clientId : ClientId) (bytes : ℕ) :
    (state.step (.reserve orderId clientId bytes)).AddsUp := by
  let reservation : Reservation OrderId ClientId := { orderId, clientId, bytes, released := false }
  constructor
  · exact @adjust_reserved _ _ _ _ reservation _ _ _ addsUp.byOrder rfl
  · exact @adjust_reserved _ _ _ _ reservation _ _ _ addsUp.byClient rfl
  · simp only [ReservationRun.step, StorageReservations.reserve, promisedTo_append, addsUp.total]
    simp

theorem release (addsUp : state.AddsUp) (index : ℕ) : (state.step (.release index)).AddsUp := by
  simp only [ReservationRun.step]
  cases found : state.returned[index]? with
  | none => exact addsUp
  | some reservation =>
      cases released : reservation.released with
      | true =>
          have same : state.returned.set index reservation = state.returned := by
            rcases List.getElem?_eq_some_iff.mp found with ⟨bound, rfl⟩
            exact List.set_getElem_self bound
          simp only [StorageReservations.release, released, if_true, same]
          exact addsUp
      | false =>
          have total := @promisedTo_released _ _ _ _ _ (fun _ => true) found released
          simp only [StorageReservations.release, released, Bool.false_eq_true, if_false]
          constructor
          · exact adjust_released addsUp.byOrder found released
          · exact adjust_released addsUp.byClient found released
          · simp only [if_true] at total
            simp only [addsUp.total]
            omega

theorem step (addsUp : state.AddsUp) (call : ReservationCall OrderId ClientId) :
    (state.step call).AddsUp := by
  cases call with
  | reserve orderId clientId bytes => exact addsUp.reserve orderId clientId bytes
  | release index => exact addsUp.release index

theorem nonneg (addsUp : state.AddsUp) (orderId : OrderId) (clientId : ClientId) :
    0 ≤ (state.reservations.pending orderId clientId).order ∧
      0 ≤ (state.reservations.pending orderId clientId).client ∧
        0 ≤ (state.reservations.pending orderId clientId).total := by
  simp only [StorageReservations.pending, addsUp.byOrder, addsUp.byClient, addsUp.total, getD_entry]
  exact ⟨Int.natCast_nonneg _, Int.natCast_nonneg _, Int.natCast_nonneg _⟩

/-- Nothing is left of the maps once all that was reserved is released. -/
theorem eq_empty (addsUp : state.AddsUp)
    (none : state.returned.filter (!·.released) = []) : state.reservations = .empty := by
  have noneTo : ∀ chosen, promisedTo chosen state.returned = 0 := by
    intro chosen
    rw [promisedTo, none]
    rfl
  have orders : state.reservations.byOrder = fun _ => Option.none := by
    funext orderId
    rw [addsUp.byOrder, noneTo, entry_eq_none_iff]
  have clients : state.reservations.byClient = fun _ => Option.none := by
    funext clientId
    rw [addsUp.byClient, noneTo, entry_eq_none_iff]
  have total : state.reservations.total = 0 := by
    rw [addsUp.total, noneTo]
    rfl
  calc state.reservations = ⟨state.reservations.byOrder, state.reservations.byClient,
        state.reservations.total⟩ := rfl
    _ = .empty := by
      rw [orders, clients, total]
      rfl

end AddsUp

theorem returned_release (index : ℕ) :
    (state.step (.release index)).returned =
      state.returned.modify index fun reservation => { reservation with released := true } := by
  simp only [step]
  cases found : state.returned[index]? with
  | none => rw [List.modify_eq_self (List.getElem?_eq_none_iff.mp found)]
  | some reservation =>
      rw [Rows.modify_eq_set _ found]
      rcases reservation with ⟨orderId, clientId, bytes, released⟩
      cases released <;> rfl

/-- The flags of the functions say what the list of calls says. -/
theorem returned_run (calls : List (ReservationCall OrderId ClientId)) :
    (Runs.run step state calls).returned =
      state.returned.mapIdx (markReleased calls) ++
        reservationsFrom state.returned.length calls := by
  induction calls generalizing state with
  | nil =>
      rw [Runs.run_nil, reservationsFrom, List.append_nil, eq_comm, List.mapIdx_eq_iff]
      intro index
      cases state.returned[index]? with
      | none => rfl
      | some reservation => rw [Option.map_some, markReleased_nil]
  | cons call calls ih =>
      rw [Runs.run_cons, ih]
      cases call with
      | reserve orderId clientId bytes =>
          simp only [step, StorageReservations.reserve, List.mapIdx_concat, List.length_append,
            List.length_singleton, reservationsFrom, markReleased_reserve, List.append_assoc,
            List.singleton_append, markReleased, Bool.false_or]
      | release index =>
          rw [returned_release, List.length_modify, reservationsFrom]
          congr 1
          apply List.ext_getElem?
          intro other
          rw [List.getElem?_mapIdx, List.getElem?_mapIdx, List.getElem?_modify]
          cases state.returned[other]? with
          | none => rfl
          | some reservation =>
              rw [Option.map_some, markReleased_release]
              rfl

end ReservationRun

/-- Whatever is reserved and released, and however often and in which order. -/
theorem pending_eq_outstanding [DecidableEq OrderId] [DecidableEq ClientId]
    (calls : List (ReservationCall OrderId ClientId)) :
    let reservations := (Runs.run ReservationRun.step ReservationRun.fresh calls).reservations
    (∀ orderId clientId,
        reservations.pending orderId clientId =
            { order := promisedBytes ((outstanding calls).filter (·.orderId == orderId))
              client := promisedBytes ((outstanding calls).filter (·.clientId == clientId))
              total := promisedBytes (outstanding calls) } ∧
          0 ≤ (reservations.pending orderId clientId).order ∧
            0 ≤ (reservations.pending orderId clientId).client ∧
              0 ≤ (reservations.pending orderId clientId).total) ∧
      (outstanding calls = [] → reservations = .empty) := by
  intro reservations
  have addsUp : (Runs.run ReservationRun.step ReservationRun.fresh calls).AddsUp :=
    Runs.run_invariant (fun _ call holds => holds.step call) ReservationRun.addsUp_fresh calls
  have returned : (Runs.run ReservationRun.step ReservationRun.fresh calls).returned =
      reservationsFrom 0 calls :=
    ReservationRun.returned_run calls
  constructor
  · intro orderId clientId
    refine ⟨?_, addsUp.nonneg orderId clientId⟩
    simp [StorageReservations.pending, reservations, addsUp.byOrder, addsUp.byClient, addsUp.total,
      returned, promisedTo, outstanding]
  · intro none
    apply addsUp.eq_empty
    rw [returned]
    exact none

example : (Runs.run ReservationRun.step ReservationRun.fresh
    [.reserve "order-1" "client-1" 10, .reserve "order-2" "client-1" 5, .release 0,
      .release 0]).reservations.pending "order-1" "client-1" =
        { order := 0, client := 5, total := 5 } := by
  decide

section Quota

namespace StorageReservations

/-- The sums without the maps. -/
def sums (reservations : StorageReservations Uuid Uuid) : MyBuild.StorageReservations :=
  { byOrder := fun orderId => ((reservations.byOrder orderId).getD 0).toNat
    byClient := fun clientId => ((reservations.byClient clientId).getD 0).toNat
    total := reservations.total.toNat }

end StorageReservations

theorem toNat_adjust {map : Uuid → Option ℤ} {key : Uuid} (positive : 0 ≤ (map key).getD 0)
    (delta : ℤ) :
    (fun other => ((adjust map key delta other).getD 0).toNat) =
      MyBuild.adjust (fun other => ((map other).getD 0).toNat) key delta := by
  funext other
  by_cases same : other = key
  · subst same
    simp only [adjust, MyBuild.adjust, Function.update_self]
    split
    case isTrue none =>
      simp only [Function.update_self, Option.getD_none]
      omega
    case isFalse some =>
      simp only [Function.update_self, Option.getD_some]
      omega
  · simp only [adjust, MyBuild.adjust, Function.update_of_ne same]
    split <;> rw [Function.update_of_ne same]

namespace ReservationRun.AddsUp

variable {state : ReservationRun Uuid Uuid} {reservation : Reservation Uuid Uuid} {index : ℕ}

theorem sums_reserve (addsUp : state.AddsUp) (orderId clientId : Uuid) (bytes : ℕ) :
    (state.step (.reserve orderId clientId bytes)).reservations.sums =
      state.reservations.sums.reserve orderId clientId bytes := by
  have nonneg := addsUp.nonneg orderId clientId
  simp only [StorageReservations.pending] at nonneg
  rcases nonneg with ⟨order, client, total⟩
  simp only [ReservationRun.step, StorageReservations.reserve, StorageReservations.sums,
    MyBuild.StorageReservations.reserve, toNat_adjust order, toNat_adjust client,
    MyBuild.StorageReservations.mk.injEq, true_and]
  omega

/-- The function that `reserve` returned does once what the quota model says. -/
theorem sums_release (addsUp : state.AddsUp) (found : state.returned[index]? = some reservation) :
    (state.step (.release index)).reservations.sums =
      if reservation.released then state.reservations.sums
      else state.reservations.sums.release reservation.orderId reservation.clientId
        reservation.bytes := by
  have nonneg := addsUp.nonneg reservation.orderId reservation.clientId
  simp only [StorageReservations.pending] at nonneg
  rcases nonneg with ⟨order, client, total⟩
  simp only [ReservationRun.step, found, StorageReservations.release]
  split
  case isTrue => rfl
  case isFalse =>
    simp only [StorageReservations.sums, MyBuild.StorageReservations.release, toNat_adjust order,
      toNat_adjust client, MyBuild.StorageReservations.mk.injEq, true_and]
    omega

end ReservationRun.AddsUp

end Quota

end FileQuota

end MyBuild
