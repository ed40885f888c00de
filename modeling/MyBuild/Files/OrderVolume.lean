import MyBuild.Files.Turns
import MyBuild.Library.Runs

/-!
# The volume of an order

The files of an order fit its bound in every state, whatever order the calls on it take
their steps in and wherever they fail.  The check that counts is the last one: it reads the
volume inside the transaction, and until the transaction is over no other call on the order
inserts a row.  The checks before it may have seen older volumes; all they decide is which
calls come this far.
-/

namespace MyBuild

namespace AttachState

/-- Every order fits its bound, and a transaction under way has read the volume its order has. -/
structure VolumeFits (state : AttachState) : Prop where
  fits : ∀ orderId, FilesService.orderBytes (state.orderRows orderId) ≤ maxOrderFilesBytes
  current : ∀ (index : ℕ) (call : AttachCall) (first : Reading) (rest : List Reading),
    state.calls[index]? = some call → call.phase = .checking (first :: rest) →
    first.bytes = FilesService.orderBytes (state.orderRows call.orderId)

variable {clients : Uuid → Option Uuid} {state next : AttachState} {index : ℕ}
  {call after : AttachCall}

theorem storedBytes_order (orderId : Uuid) (rows : List OrderFile) :
    (StorageScope.order orderId).storedBytes clients rows =
      FilesService.orderBytes (rows.filter (·.orderId == orderId)) := rfl

namespace VolumeFits

theorem moved (volume : state.VolumeFits) (rows : next.rows = state.rows)
    (calls : next.calls = state.calls.set index after)
    (reads : ∀ first rest, after.phase = .checking (first :: rest) →
      first.bytes = FilesService.orderBytes (state.orderRows after.orderId)) :
    next.VolumeFits := by
  have sameRows : next.orderRows = state.orderRows := by
    unfold orderRows
    rw [rows]
  constructor
  · rw [sameRows]
    exact volume.fits
  · intro other otherCall first rest found phase
    rw [calls] at found
    rw [sameRows]
    rcases Rows.getElem?_set_cases found with ⟨_, rfl⟩ | ⟨_, old⟩
    · exact reads first rest phase
    · exact volume.current other otherCall first rest old phase

theorem quiet (volume : state.VolumeFits) (move : QuietMove call after) :
    (state.put index after).VolumeFits := by
  refine volume.moved rfl rfl ?_
  intro first rest phase
  cases move <;> cases phase

theorem readInside (volume : state.VolumeFits) (found : state.calls[index]? = some call)
    {clientId : Uuid} {readings : List Reading} {scope : StorageScope}
    (phase : call.phase = .checking readings)
    (query : (call.scopes clientId)[readings.length]? = some scope) :
    (state.put index
      { call with
        phase := .checking (readings ++
          [{ bytes := scope.storedBytes clients state.rows, readAt := state.clock }]) }).VolumeFits
    := by
  refine volume.moved rfl rfl ?_
  intro first rest nextPhase
  cases readings with
  | nil =>
      cases query
      cases nextPhase
      exact storedBytes_order call.orderId state.rows
  | cons known readings =>
      cases nextPhase
      exact volume.current index call _ readings found phase

/-- The insert step: the volume that was read is the volume there is, so the check bounds the
volume there will be. -/
theorem inserted (volume : state.VolumeFits) (turns : state.TakesTurns)
    (found : state.calls[index]? = some call) {readings : List Reading} {usage : StorageUsage}
    (phase : call.phase = .checking readings) (read : usageOf readings = some usage)
    (fits : checkStorageQuota usage (sumSizes call.fresh) call.ownerType = none)
    (environment : Environment) :
    ({ state.put index
        { call with
          phase := .settled (some (state.created call environment))
          committedAt := some state.clock
          inserted := !(state.created call environment).isEmpty } with
      rows := state.rows ++ state.created call environment } : AttachState).VolumeFits := by
  have grown : ∀ orderId, FilesService.orderBytes
      ((state.rows ++ state.created call environment).filter (·.orderId == orderId)) =
        FilesService.orderBytes (state.rows.filter (·.orderId == orderId)) +
          if call.orderId == orderId then
            FilesService.orderBytes (state.created call environment)
          else 0 :=
    fun orderId => @storedBytes_created (fun _ => none) state call (.order orderId) environment
  rcases usageOf_eq_some_iff.mp read with ⟨first, second, third, rfl, rfl⟩
  have current := volume.current index call first [second, third] found phase
  have checked : first.bytes + sumSizes call.fresh ≤ maxOrderFilesBytes :=
    (checkStorageQuota_eq_none_iff.mp fits).1
  have room := @orderBytes_created_le state call environment
  constructor
  · intro orderId
    have before := volume.fits orderId
    simp only [orderRows] at before current ⊢
    rw [grown]
    by_cases same : call.orderId = orderId
    · subst same
      simp only [BEq.rfl, if_true]
      omega
    · simpa [same] using before
  · intro other otherCall otherFirst rest otherFound otherPhase
    rcases Rows.getElem?_set_cases otherFound with ⟨_, rfl⟩ | ⟨differs, old⟩
    · cases otherPhase
    · have otherCurrent := volume.current other otherCall otherFirst rest old otherPhase
      have otherOrder : call.orderId ≠ otherCall.orderId := by
        intro sameOrder
        apply differs
        apply turns.sole old found sameOrder.symm
        · rw [otherPhase]
          rfl
        · rw [phase]
          rfl
      simp only [orderRows] at otherCurrent ⊢
      rw [grown, otherCurrent]
      simp [otherOrder]

theorem left (volume : state.VolumeFits) (turns : state.TakesTurns)
    (found : state.calls[index]? = some call) {created : Option (List OrderFile)}
    (phase : call.phase = .settled created) : (state.leave index call).VolumeFits := by
  apply turns.leave_rule found phase
  · rintro next (rfl | rfl)
    · exact volume.moved rfl rfl nofun
    · exact volume.moved rfl rfl nofun
  · intro reached ticket waiter _ _ volume
    exact volume.moved rfl rfl nofun
  · intro reached queue volume
    exact ⟨volume.fits, volume.current⟩

theorem changed (volume : state.VolumeFits) (turns : state.TakesTurns) {label : AttachLabel}
    (change : AttachStep clients state label next) : next.VolumeFits := by
  cases change with
  | started =>
      refine ⟨volume.fits, ?_⟩
      intro index call first rest found phase
      rcases getElem?_append_singleton found with old | rfl
      · exact volume.current index call first rest old phase
      · cases phase
  | quiet index action call after found move => exact volume.quiet move
  | readInside index call clientId readings scope found phase owner query =>
      exact volume.readInside found phase query
  | inserted index call environment readings usage found phase read fits =>
      exact volume.inserted turns found phase read fits environment
  | left index call created found phase => exact volume.left turns found phase
  | _ => exact volume.moved rfl rfl nofun

theorem step (volume : state.VolumeFits) (turns : state.TakesTurns) (label : AttachLabel) :
    (state.step clients label).VolumeFits := by
  apply step_rule volume
  · intro next change
    exact volume.changed turns change
  · intro reached volume
    exact ⟨volume.fits, volume.current⟩

end VolumeFits

/-- The files of an order fit its bound in every state that calls of `attachFiles` can reach. -/
theorem order_volume_bounded (clients : Uuid → Option Uuid) (rows : List OrderFile)
    (bucket : List String)
    (fits : ∀ orderId, FilesService.orderBytes (rows.filter (·.orderId == orderId)) ≤
      maxOrderFilesBytes) (labels : List AttachLabel) (orderId : Uuid) :
    FilesService.orderBytes
      ((Runs.run (step clients) (initial rows bucket) labels).orderRows orderId) ≤
        maxOrderFilesBytes := by
  have preserved : ∀ state label, state.TakesTurns ∧ state.VolumeFits →
      (step clients state label).TakesTurns ∧ (step clients state label).VolumeFits := by
    rintro state label ⟨turns, volume⟩
    exact ⟨turns.step label, volume.step turns label⟩
  have start : (initial rows bucket).TakesTurns ∧ (initial rows bucket).VolumeFits := by
    refine ⟨⟨_, InTurn.initial rows bucket⟩, fits, ?_⟩
    intro index call first rest found
    cases found
  exact (Runs.run_invariant preserved start labels).2.fits orderId

/-- The first call has checked an older volume; its last check refuses it. -/
theorem order_volume_bounded_stale :
    FilesService.orderBytes
      ((Runs.run (step fun _ => some ⟨2⟩) (initial [] [])
        (staleRun ++ AttachLabel.each 0 ([.upload, .upload, .acquire] ++
          AttachAction.transaction))).orderRows ⟨1⟩) ≤ maxOrderFilesBytes :=
  order_volume_bounded _ [] [] (fun _ => Nat.zero_le _) _ ⟨1⟩

end AttachState

end MyBuild
