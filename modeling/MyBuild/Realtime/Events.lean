import MyBuild.Orders.World

/-!
# Who leaves the room of an order

A change that is committed is told to the sockets afterwards, as a broadcast.  Before its
messages go out, those who are no participants of the order any more leave its room: the
companies whose offers the transition took out of play, or, when the order is deleted, all.
A request that strips a company of its place in the order evicts it.
-/

namespace MyBuild

inductive Room where
  | user (userId : Uuid)
  | order (orderId : Uuid)
  deriving DecidableEq

/-- Everybody in `members` leaves `room`. -/
structure RoomEviction where
  members : Room
  room : Room
  deriving DecidableEq

def transitionEvictions (orderId : Uuid) (applied : AppliedTransition) : List RoomEviction :=
  (applied.offerUpdates.filter (!isActiveOffer ·.status)).map fun update =>
    { members := .user update.companyId, room := .order orderId }

def orderDeletedEvictions (orderId : Uuid) : List RoomEviction :=
  [{ members := .order orderId, room := .order orderId }]

/-- The owner of the order, or a company with an active offer on it. -/
def OrderTables.isOrderParticipant (userId : Uuid) (tables : OrderTables) : Bool :=
  tables.order.clientId == userId ||
    tables.offers.any fun offer => offer.companyId == userId && isActiveOffer offer.status

namespace OffersService

/-- The transition of a submission, which is told once the submission is committed. -/
def submitApplied (environment : Environment) (companyId : Uuid) (editedAt : Date)
    (dto : CreateOfferDto) : OrderTx AppliedTransition := do
  let order ← lockOrder dto.orderId
  let tables ← get
  let existing := tables.offers.find? (·.companyId == companyId)
  let created ← upsertOffer environment editedAt order.id companyId dto
  OrderTransitionService.run environment
    (.offerSubmitted order.id created.id (existing.map Offer.status))

/-- The transition of a withdrawal or a rejection. -/
def leaveApplied (environment : Environment) (offerId : Uuid) (actor : OfferActor)
    (event : Uuid → Uuid → OrderTransitionCommand) : OrderTx AppliedTransition := do
  let offer ← findOffer offerId actor
  OrderTransitionService.run environment (event offer.orderId offerId)

end OffersService

/-- The transition that is told once the request is committed. -/
def Request.applied? (tables : OrderTables) : Request → Option AppliedTransition
  | .submitOffer environment editedAt companyId dto =>
      Transaction.result? (OffersService.submitApplied environment companyId editedAt dto) tables
  | .withdrawOffer environment companyId offerId =>
      Transaction.result? (OffersService.leaveApplied environment offerId (.company companyId)
        .offerWithdrawn) tables
  | .rejectOffer environment clientId offerId =>
      Transaction.result? (OffersService.leaveApplied environment offerId (.client clientId)
        .offerRejected) tables
  | .acceptOffer environment orderId offerId seenOfferEditedAt =>
      Transaction.result? (OrderWorkflowService.acceptOffer environment orderId offerId
        seenOfferEditedAt) tables
  | .submitWork environment orderId =>
      Transaction.result? (OrderWorkflowService.submitWork environment orderId) tables
  | .confirm environment orderId comment =>
      Transaction.result? (OrderWorkflowService.confirm environment orderId comment) tables
  | .dispute environment orderId correctionComment =>
      Transaction.result? (OrderWorkflowService.dispute environment orderId correctionComment)
        tables
  | _ => none

/-- The evictions of the broadcast that follows the request. -/
def Request.evictions (tables : OrderTables) (request : Request) : List RoomEviction :=
  (request.applied? tables).elim [] (transitionEvictions tables.order.id)

section

variable {now : Date} {updates : List OfferStatusUpdate} {id : Uuid}

theorem mem_addToGroup {update : OfferStatusUpdate} {groups : List (OfferStatus × List Uuid)}
    {group : OfferStatus × List Uuid} (mem : group ∈ addToGroup update groups)
    (idMem : id ∈ group.2) :
    (∃ old ∈ groups, old.1 = group.1 ∧ id ∈ old.2) ∨
      update.offerId = id ∧ update.status = group.1 := by
  induction groups with
  | nil =>
      simp only [addToGroup, List.mem_singleton] at mem
      subst mem
      exact Or.inr ⟨(List.mem_singleton.mp idMem).symm, rfl⟩
  | cons first groups ih =>
      simp only [addToGroup] at mem
      split at mem
      · rename_i sameStatus
        rcases List.mem_cons.mp mem with rfl | old
        · rcases List.mem_append.mp idMem with oldId | newId
          · exact Or.inl ⟨first, List.mem_cons_self, rfl, oldId⟩
          · exact Or.inr ⟨(List.mem_singleton.mp newId).symm, sameStatus.symm⟩
        · exact Or.inl ⟨group, List.mem_cons_of_mem _ old, rfl, idMem⟩
      · rcases List.mem_cons.mp mem with rfl | rest
        · exact Or.inl ⟨_, List.mem_cons_self, rfl, idMem⟩
        · rcases ih rest with ⟨old, oldMem, same⟩ | new
          · exact Or.inl ⟨old, List.mem_cons_of_mem _ oldMem, same⟩
          · exact Or.inr new

theorem mem_foldl_addToGroup {groups : List (OfferStatus × List Uuid)}
    {group : OfferStatus × List Uuid}
    (mem : group ∈ updates.foldl (fun grouped update => addToGroup update grouped) groups)
    (idMem : id ∈ group.2) :
    (∃ old ∈ groups, old.1 = group.1 ∧ id ∈ old.2) ∨
      ∃ update ∈ updates, update.offerId = id ∧ update.status = group.1 := by
  induction updates generalizing groups with
  | nil => exact Or.inl ⟨group, mem, rfl, idMem⟩
  | cons update updates ih =>
      rcases ih mem with ⟨old, oldMem, sameStatus, oldId⟩ | ⟨later, laterMem, named⟩
      · rcases mem_addToGroup oldMem oldId with ⟨first, firstMem, same, firstId⟩ | ⟨named, status⟩
        · exact Or.inl ⟨first, firstMem, same.trans sameStatus, firstId⟩
        · exact Or.inr ⟨update, List.mem_cons_self, named, status.trans sameStatus⟩
      · exact Or.inr ⟨later, List.mem_cons_of_mem _ laterMem, named⟩

theorem foldl_updateOffers_active {groups : List (OfferStatus × List Uuid)} {offers : List Offer}
    {offer : Offer} (mem : offer ∈ offers) (active : isActiveOffer offer.status = true)
    (keeps : ∀ group ∈ groups, offer.id ∈ group.2 → isActiveOffer group.1 = true) :
    ∃ kept ∈ groups.foldl (fun offers group => updateOffers now group.1 group.2 offers) offers,
      kept.companyId = offer.companyId ∧ isActiveOffer kept.status = true := by
  induction groups generalizing offers offer with
  | nil => exact ⟨offer, mem, rfl, active⟩
  | cons group groups ih =>
      rw [List.forall_mem_cons] at keeps
      rw [List.foldl_cons]
      by_cases chosen : offer.id ∈ group.2
      · have written : Offer.withStatus now group.1 offer ∈
            updateOffers now group.1 group.2 offers :=
          Rows.mem_updateWhere.mpr ⟨offer, mem, (if_pos chosen).symm⟩
        exact @ih _ (Offer.withStatus now group.1 offer) written (keeps.1 chosen) keeps.2
      · have kept : offer ∈ updateOffers now group.1 group.2 offers :=
          Rows.mem_updateWhere.mpr ⟨offer, mem, (if_neg chosen).symm⟩
        exact ih kept active keeps.2

/-- An active offer that no update takes out of play stays active. -/
theorem writeOffers_active {offers : List Offer} {offer : Offer} (mem : offer ∈ offers)
    (active : isActiveOffer offer.status = true)
    (keeps : ∀ update ∈ updates, update.offerId = offer.id →
      isActiveOffer update.status = true) :
    ∃ kept ∈ OrderTransitionService.writeOffers now updates offers,
      kept.companyId = offer.companyId ∧ isActiveOffer kept.status = true := by
  apply foldl_updateOffers_active mem active
  intro group groupMem chosen
  rcases mem_foldl_addToGroup groupMem chosen with ⟨_, none, _⟩ | ⟨update, updateMem, named, status⟩
  · cases none
  · exact status ▸ keeps update updateMem named

end

namespace OrderTransitionService

variable {environment : Environment} {command : OrderTransitionCommand}
  {tables next : OrderTables} {applied : AppliedTransition}

/-- The updates of a transition name offers of the order, with the companies they are from. -/
theorem updates_named {offer : Offer} {result : OrderTransitionResult} (mem : offer ∈ tables.offers)
    (handled : handlerOf command.type (contextOf tables.order)
      (buildEvent environment command offer tables) = .ok (result.nextStatus, result.effects)) :
    ∀ update ∈ (WriteSet.ofEffects tables.order.id result.nextStatus result.effects).offerUpdates,
      ∃ row ∈ tables.offers, row.id = update.offerId ∧ row.companyId = update.companyId := by
  rcases result with ⟨fromStatus, nextStatus, effects⟩
  cases command with
  | offerAccepted orderId offerId seenOfferEditedAt =>
      simp only [OrderTransitionCommand.type, handlerOf, buildEvent, offerAccepted,
        Except.ok.injEq, Prod.mk.injEq] at handled
      rcases handled with ⟨rfl, rfl⟩
      have rivals := foldl_addEffect_rivals tables.order.id
        (orderRef tables.order.orderNumber tables.order.title ++
          ": клиент выбрал другое предложение")
        (otherSentOffers tables offer)
      simp only [WriteSet.ofEffects, List.foldl_append, List.foldl_cons, List.foldl_nil,
        setOfferStatus, notify, WriteSet.addEffect, contextOf, List.nil_append] at rivals ⊢
      rw [(rivals _).2.1]
      simp only [List.singleton_append, List.forall_mem_cons, List.forall_mem_map]
      exact ⟨⟨offer, mem, rfl, rfl⟩, fun rival rivalMem =>
        ⟨rival, List.mem_of_mem_filter rivalMem, rfl, rfl⟩⟩
  | _ =>
      cases handled
      intro update updateMem
      rw [List.mem_singleton.mp updateMem]
      exact ⟨offer, mem, rfl, rfl⟩

/-- A participant the transition strips of its place is among those it evicts. -/
theorem run_evicts {userId : Uuid} (offerIds : (tables.offers.map Offer.id).Nodup)
    (returned : (run environment command).run tables = .ok (applied, next))
    (before : tables.isOrderParticipant userId = true)
    (after : next.isOrderParticipant userId = false) :
    ⟨.user userId, .order tables.order.id⟩ ∈ transitionEvictions tables.order.id applied := by
  have sameClient : next.order.clientId = tables.order.clientId := by
    rcases run_ok_after returned with ⟨_, _, same⟩
    rw [same.1]
    cases command <;> rfl
  rcases run_ok returned with ⟨_, offer, result, _, resolved, decision, _, updates, same⟩
  rcases OrderStateMachine.transition_eq_ok_iff.mp decision with ⟨_, _, _, handled, _⟩
  rw [buildEvent_type] at handled
  have mem : offer ∈ tables.offers := by
    simp only [resolved?] at resolved
    split at resolved <;> exact List.mem_of_find?_eq_some resolved
  have named := updates ▸ updates_named mem handled
  simp only [OrderTables.isOrderParticipant, sameClient, same.2.1, Bool.or_eq_false_iff,
    List.any_eq_false, Bool.and_eq_true, beq_iff_eq, beq_eq_false_iff_ne, not_and] at after
  rcases after with ⟨notOwner, stripped⟩
  simp only [OrderTables.isOrderParticipant, Bool.or_eq_true, beq_iff_eq, notOwner, false_or,
    List.any_eq_true, Bool.and_eq_true] at before
  rcases before with ⟨row, rowMem, isUser, active⟩
  by_contra notEvicted
  have keeps : ∀ update ∈ applied.offerUpdates, update.offerId = row.id →
      isActiveOffer update.status = true := by
    intro update updateMem sameId
    rcases named update updateMem with ⟨named, namedMem, namedId, namedCompany⟩
    have isRow := Rows.eq_of_key offerIds namedMem rowMem (namedId.trans sameId)
    by_contra inactive
    apply notEvicted
    refine List.mem_map.mpr ⟨update, List.mem_filter.mpr ⟨updateMem, by simpa using inactive⟩, ?_⟩
    rw [← namedCompany, isRow, isUser]
  rcases writeOffers_active rowMem active keeps with ⟨kept, keptMem, sameCompany, stillActive⟩
  exact stripped kept keptMem (sameCompany.trans isUser) stillActive

end OrderTransitionService

/-- Who keeps an active offer, and the owner, stay participants. -/
theorem OrderTables.isOrderParticipant_kept {before after : OrderTables} {userId : Uuid}
    (participant : before.isOrderParticipant userId = true)
    (sameClient : after.order.clientId = before.order.clientId)
    (active : ∀ offer ∈ before.offers, isActiveOffer offer.status = true →
      ∃ kept ∈ after.offers, kept.companyId = offer.companyId ∧
        isActiveOffer kept.status = true) :
    after.isOrderParticipant userId = true := by
  simp only [isOrderParticipant, Bool.or_eq_true, beq_iff_eq, List.any_eq_true,
    Bool.and_eq_true] at participant ⊢
  rcases participant with isOwner | ⟨offer, mem, isUser, isActive⟩
  · exact Or.inl (sameClient.trans isOwner)
  · rcases active offer mem isActive with ⟨kept, keptMem, sameCompany, stillActive⟩
    exact Or.inr ⟨kept, keptMem, sameCompany.trans isUser, stillActive⟩

theorem updateWhere_active {offers : List Offer} {chosen : Offer → Prop} [DecidablePred chosen]
    {update : Offer → Offer} {offer : Offer} (mem : offer ∈ offers)
    (active : isActiveOffer offer.status = true)
    (keeps : (update offer).companyId = offer.companyId ∧
      isActiveOffer (update offer).status = true) :
    ∃ kept ∈ Rows.updateWhere chosen update offers,
      kept.companyId = offer.companyId ∧ isActiveOffer kept.status = true := by
  refine ⟨_, Rows.mem_updateWhere.mpr ⟨offer, mem, rfl⟩, ?_⟩
  split
  · exact keeps
  · exact ⟨rfl, active⟩

/-- Of the changes, only the transitions of offers take an offer out of play. -/
theorem OrderChange.isOrderParticipant_kept {tables next : OrderTables} {kind : RequestKind}
    {userId : Uuid} (change : OrderChange tables kind next)
    (notTransition : ∀ event offerId, kind ≠ .transition event offerId)
    (participant : tables.isOrderParticipant userId = true) :
    next.isOrderParticipant userId = true := by
  cases change with
  | offersDropped demoIds =>
      refine OrderTables.isOrderParticipant_kept participant rfl fun offer mem active => ?_
      refine ⟨offer, List.mem_filter.mpr ⟨mem, ?_⟩, rfl, active⟩
      simp [Offer.isDemoTrace, active]
  | offerCreated environment editedAt companyId dto _ _ _ =>
      exact OrderTables.isOrderParticipant_kept participant rfl fun offer mem active =>
        ⟨offer, List.mem_append_left _ mem, rfl, active⟩
  | offerEdited existing environment editedAt dto _ _ _ _ =>
      exact OrderTables.isOrderParticipant_kept participant rfl fun _ mem active =>
        updateWhere_active mem active ⟨rfl, rfl⟩
  | transition _ _ _ _ _ => exact absurd rfl (notTransition _ _)
  | workSubmitted environment orderId offer submission _ _ _ =>
      exact OrderTables.isOrderParticipant_kept participant rfl fun _ mem active =>
        updateWhere_active mem active ⟨rfl, rfl⟩
  | _ => exact participant

theorem OffersService.leaveSelection_evicts {environment : Environment} {userId offerId : Uuid}
    {actor : OfferActor} {event : Uuid → Uuid → OrderTransitionCommand}
    {tables next : OrderTables} {updated : Offer} (keyed : tables.WellKeyed)
    (returned : (leaveSelection environment offerId actor event).run tables = .ok (updated, next))
    (before : tables.isOrderParticipant userId = true)
    (after : next.isOrderParticipant userId = false) :
    ⟨.user userId, .order tables.order.id⟩ ∈
      (Transaction.result? (leaveApplied environment offerId actor event) tables).elim []
        (transitionEvictions tables.order.id) := by
  rcases leaveSelection_ok returned with ⟨offer, applied, found, ran⟩
  have applies : (leaveApplied environment offerId actor event).run tables =
      .ok (applied, next) := by
    simp only [leaveApplied]
    rw [Transaction.run_bind_of_ok (findOffer_eq_ok_iff.mpr ⟨found, rfl⟩)]
    exact ran
  rw [Transaction.result?_of_ok applies]
  exact OrderTransitionService.run_evicts keyed.offerIds ran before after

theorem OrderTransitionService.apply_evicts {environment : Environment} {userId : Uuid}
    {command : OrderTransitionCommand} {tables next : OrderTables} {applied : AppliedTransition}
    (keyed : tables.WellKeyed)
    (returned : (run environment command).run tables = .ok (applied, next))
    (before : tables.isOrderParticipant userId = true)
    (after : next.isOrderParticipant userId = false) :
    ⟨.user userId, .order tables.order.id⟩ ∈
      (Transaction.result? (run environment command) tables).elim []
        (transitionEvictions tables.order.id) := by
  rw [Transaction.result?_of_ok returned]
  exact run_evicts keyed.offerIds returned before after

namespace World

variable {world : World} {userId : Uuid}

theorem commit_evicts {α : Type} {tx : OrderTx α} {evictions : List RoomEviction}
    (evicts : ∀ value next, tx.run world.tables = .ok (value, next) →
      next.isOrderParticipant userId = false →
        ⟨.user userId, .order world.tables.order.id⟩ ∈ evictions)
    (before : world.tables.isOrderParticipant userId = true)
    (after : (world.commit tx).tables.isOrderParticipant userId = false) :
    ⟨.user userId, .order world.tables.order.id⟩ ∈ evictions := by
  rcases Transaction.commit_cases tx world.tables with ⟨value, returned⟩ | unchanged
  · exact evicts value _ returned after
  · rw [show (world.commit tx).tables = world.tables from unchanged, before] at after
    cases after

/-- A request that strips a participant of its place in the order evicts it. -/
theorem step_evicts (wellFormed : world.WellFormed) (request : Request)
    (before : world.tables.isOrderParticipant userId = true)
    (after : (world.step request).tables.isOrderParticipant userId = false) :
    ⟨.user userId, .order world.tables.order.id⟩ ∈ request.evictions world.tables := by
  have keyed := wellFormed.keyed
  by_cases isTransition : ∃ event offerId, request.kind = .transition event offerId
  · cases request with
    | withdrawOffer environment companyId offerId =>
        exact commit_evicts (fun _ _ returned => OffersService.leaveSelection_evicts keyed
          returned before) before after
    | rejectOffer environment clientId offerId =>
        exact commit_evicts (fun _ _ returned => OffersService.leaveSelection_evicts keyed
          returned before) before after
    | acceptOffer environment orderId offerId seenOfferEditedAt =>
        exact commit_evicts (fun _ _ returned => OrderTransitionService.apply_evicts keyed
          returned before) before after
    | confirm environment orderId comment =>
        exact commit_evicts (fun _ _ returned => OrderTransitionService.apply_evicts keyed
          returned before) before after
    | dispute environment orderId correctionComment =>
        exact commit_evicts (fun _ _ returned => OrderTransitionService.apply_evicts keyed
          returned before) before after
    | _ => simp [Request.kind] at isTransition
  · have stays : (world.step request).tables.isOrderParticipant userId = true := by
      rcases step_changes wellFormed request with same | ⟨middle, change, same⟩
      · simpa only [OrderTables.isOrderParticipant, same.1, same.2.1] using before
      · have kept := change.isOrderParticipant_kept
          (fun event offerId isKind => isTransition ⟨event, offerId, isKind⟩) before
        simpa only [OrderTables.isOrderParticipant, same.1, same.2.1] using kept
    rw [stays] at after
    cases after

end World

end MyBuild
