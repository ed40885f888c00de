import MyBuild.Orders.Coupling

/-!
# The cap on rejections

The client may reject the offer of a company twice; after that the company cannot send it
again.  The counter is written with the effects of a transition and read after an upsert
that has already written the new terms, so the cap is a fact about whole runs: the counter
is the number of rejections committed, and the second one is the last thing that happens to
the offer.
-/

namespace MyBuild

/-- Where an offer comes from that is there after a change of a kind. -/
inductive OfferSource (tables : OrderTables) (kind : RequestKind) (row : Offer) : Prop where
  | kept (mem : row ∈ tables.offers)
  | moved (old : Offer) (now : Date) (status : OfferStatus) (mem : old ∈ tables.offers)
      (active : isActiveOffer old.status = true)
      (rejection : status = .rejected → kind = .transition .offerRejected (some old.id))
      (isMoved : row = old.withStatus now status)
  | edited (old : Offer) (environment : Environment) (editedAt : Date) (dto : CreateOfferDto)
      (mem : old ∈ tables.offers)
      (notFinal : isFinallyRejected (some old.status) old.rejectionCount = false)
      (isKind : kind = .offerSubmission environment editedAt old.companyId dto)
      (isEdited : row = old.edit editedAt environment.now dto)
  | created (environment : Environment) (editedAt : Date) (companyId : Uuid)
      (dto : CreateOfferDto)
      (absent : ∀ offer ∈ tables.offers, offer.companyId ≠ companyId)
      (isKind : kind = .offerSubmission environment editedAt companyId dto)
      (isCreated : row = Offer.create environment tables.order.id companyId dto)

namespace OrderTransitionCommand

variable {environment : Environment} {command : OrderTransitionCommand} {tables : OrderTables}
  {offer row : Offer} {now : Date}

theorem Allowed.offerId_eq (allowed : command.Allowed environment tables offer) {offerId : Uuid}
    (isOffer : command.offerId = some offerId) : offer.id = offerId := by
  have resolved := allowed.resolved
  simp only [OrderTransitionService.resolved?, isOffer] at resolved
  simpa using List.find?_some resolved

theorem offerId_of_rejected (allowed : command.Allowed environment tables offer)
    (isRejection : command.type = .offerRejected) :
    RequestKind.transition command.type command.offerId =
      .transition .offerRejected (some offer.id) := by
  cases command <;> cases isRejection
  rw [allowed.offerId_eq rfl]
  rfl

/-- The offer a transition is about, or one of the rivals that lose to it. -/
theorem offerSource_of_after (allowed : command.Allowed environment tables offer)
    (keyed : tables.WellKeyed) (notSubmitted : command.type ≠ .offerSubmitted)
    (mem : row ∈ (command.after now offer tables).offers) :
    OfferSource tables (.transition command.type command.offerId) row := by
  have active := allowed.active notSubmitted
  have single : ∀ status, (status = .rejected → command.type = .offerRejected) →
      row ∈ updateOffers now status [offer.id] tables.offers →
        OfferSource tables (.transition command.type command.offerId) row := by
    intro status rejection rowMem
    rcases mem_updateOffers.mp rowMem with ⟨old, oldMem, chosen, rfl⟩ | ⟨oldMem, _⟩
    · have same : old = offer :=
        Rows.eq_of_key keyed.offerIds oldMem allowed.mem (List.mem_singleton.mp chosen)
      subst same
      exact .moved old now status oldMem active
        (fun isRejected => offerId_of_rejected allowed (rejection isRejected)) rfl
    · exact .kept oldMem
  cases command with
  | offerSubmitted _ _ _ => exact absurd rfl notSubmitted
  | offerAccepted _ _ _ =>
      rcases mem_updateOffers.mp mem with ⟨middle, middleMem, chosen, rfl⟩ | ⟨middle, _⟩
      · rcases List.mem_map.mp chosen with ⟨rival, rivalMem, sameId⟩
        simp only [OrderTransitionService.otherSentOffers, List.mem_filter, Bool.and_eq_true,
          beq_iff_eq, bne_iff_ne] at rivalMem
        rcases mem_updateOffers.mp middleMem with ⟨old, oldMem, isOffer, rfl⟩ | ⟨oldMem, _⟩
        · have other := rivalMem.2.2
          rw [sameId, Offer.withStatus_id, List.mem_singleton.mp isOffer] at other
          exact absurd rfl other
        · have same := Rows.eq_of_key keyed.offerIds oldMem rivalMem.1 sameId.symm
          subst same
          refine .moved middle now .notAccepted oldMem ?_ (fun isRejected => by cases isRejected)
            rfl
          exact (isActiveOffer_iff _).mpr (Or.inl rivalMem.2.1)
      · exact single .accepted (fun isRejected => by cases isRejected) middle
  | offerRejected _ _ => exact single .rejected (fun _ => rfl) mem
  | _ => exact single _ (fun isRejected => by cases isRejected) mem

end OrderTransitionCommand

section

variable {tables next : OrderTables} {kind : RequestKind} {row : Offer}

theorem OrderChange.offerSource (keyed : tables.WellKeyed) (change : OrderChange tables kind next)
    (mem : row ∈ next.offers) : OfferSource tables kind row := by
  cases change with
  | offerCreated environment editedAt companyId dto _ absent _ =>
      rcases List.mem_append.mp mem with old | new
      · exact .kept old
      · exact .created environment editedAt companyId dto absent rfl (List.mem_singleton.mp new)
  | offerEdited existing environment editedAt dto _ existingMem _ notFinal =>
      rcases Rows.mem_updateWhere.mp mem with ⟨old, oldMem, rfl⟩
      by_cases own : old.companyId = existing.companyId
      · have same := Rows.eq_of_key keyed.companies oldMem existingMem own
        subst same
        rw [if_pos rfl]
        exact .edited old environment editedAt dto oldMem notFinal rfl rfl
      · rw [if_neg own]
        exact .kept oldMem
  | transition environment command offer allowed plain =>
      exact OrderTransitionCommand.offerSource_of_after allowed keyed plain.1 mem
  | workSubmitted environment orderId offer submission allowed _ _ =>
      have source := OrderTransitionCommand.offerSource_of_after allowed keyed
        (by simp [OrderTransitionCommand.type]) mem
      cases source with
      | kept mem => exact .kept mem
      | moved old now status mem active rejection isMoved =>
          refine .moved old now status mem active (fun isRejected => ?_) isMoved
          cases rejection isRejected
      | edited _ _ _ _ _ _ isKind _ => cases isKind
      | created _ _ _ _ _ isKind _ => cases isKind
  | offersDropped demoIds => exact .kept (List.mem_of_mem_filter mem)
  | submissionOpened _ _ _ _ _ => exact .kept mem
  | submissionFilled _ _ _ _ _ _ _ => exact .kept mem
  | clientFilesAdded _ _ => exact .kept mem
  | areaVerified _ _ _ => exact .kept mem

/-- No offer is rejected more often than the cap, and one that has reached it stays rejected. -/
def OrderTables.Capped (tables : OrderTables) : Prop :=
  ∀ offer ∈ tables.offers, offer.rejectionCount ≤ maxOfferRejections ∧
    (offer.rejectionCount = maxOfferRejections → offer.status = .rejected)

namespace OrderTables.Capped

theorem preserved (capped : tables.Capped) (keyed : tables.WellKeyed)
    (change : OrderChange tables kind next) : next.Capped := by
  intro row mem
  cases change.offerSource keyed mem with
  | kept mem => exact capped row mem
  | moved old now status oldMem active _ isMoved =>
      subst isMoved
      rcases capped old oldMem with ⟨bounded, final⟩
      have below : old.rejectionCount < maxOfferRejections := by
        apply Nat.lt_of_le_of_ne bounded
        intro reached
        rw [final reached] at active
        cases active
      by_cases isRejected : status = .rejected
      · simp only [Offer.withStatus, isRejected, if_true, implies_true, and_true]
        omega
      · simp only [Offer.withStatus, isRejected, if_false]
        omega
  | edited old environment editedAt dto oldMem notFinal _ isEdited =>
      subst isEdited
      rcases capped old oldMem with ⟨bounded, final⟩
      refine ⟨bounded, fun reached => ?_⟩
      have same : (old.edit editedAt environment.now dto).rejectionCount = old.rejectionCount := rfl
      rw [same] at reached
      simp [isFinallyRejected, final reached, reached] at notFinal
  | created environment editedAt companyId dto _ _ isCreated =>
      subst isCreated
      exact ⟨Nat.zero_le _, fun reached => by cases reached⟩

theorem blind (tables : OrderTables) (notifications : List Notification) :
    ({ tables with notifications } : OrderTables).Capped ↔ tables.Capped := Iff.rfl

theorem of_fresh (fresh : tables.Fresh) : tables.Capped := by
  intro offer mem
  rw [fresh.noOffers] at mem
  cases mem

end OrderTables.Capped

/-! The offer that has reached the cap -/

theorem OrderTransitionCommand.mem_after_of_inactive {environment : Environment}
    {command : OrderTransitionCommand} {offer : Offer} {now : Date}
    (allowed : command.Allowed environment tables offer) (keyed : tables.WellKeyed)
    (notSubmitted : command.type ≠ .offerSubmitted) (mem : row ∈ tables.offers)
    (inactive : isActiveOffer row.status = false) :
    row ∈ (command.after now offer tables).offers := by
  have other : row.id ∉ [offer.id] := by
    intro sameId
    have same := Rows.eq_of_key keyed.offerIds mem allowed.mem (List.mem_singleton.mp sameId)
    rw [same, allowed.active notSubmitted] at inactive
    cases inactive
  have single : ∀ status, row ∈ updateOffers now status [offer.id] tables.offers := fun _ =>
    mem_updateOffers.mpr (Or.inr ⟨mem, other⟩)
  cases command with
  | offerSubmitted _ _ _ => exact absurd rfl notSubmitted
  | offerAccepted _ _ _ =>
      refine mem_updateOffers.mpr (Or.inr ⟨single .accepted, ?_⟩)
      intro chosen
      rcases List.mem_map.mp chosen with ⟨rival, rivalMem, sameId⟩
      simp only [OrderTransitionService.otherSentOffers, List.mem_filter, Bool.and_eq_true,
        beq_iff_eq] at rivalMem
      rw [← Rows.eq_of_key keyed.offerIds rivalMem.1 mem sameId, rivalMem.2.1] at inactive
      cases inactive
  | _ => exact single _

/-- What is finally rejected stays as it is, unless the demo accounts are reset. -/
theorem OrderChange.mem_of_finallyRejected (keyed : tables.WellKeyed)
    (change : OrderChange tables kind next) (notReset : kind ≠ .demoReset)
    (mem : row ∈ tables.offers)
    (final : isFinallyRejected (some row.status) row.rejectionCount = true) :
    row ∈ next.offers := by
  have inactive : isActiveOffer row.status = false := by
    simp only [isFinallyRejected, Bool.and_eq_true, beq_iff_eq, Option.some.injEq] at final
    rw [final.1]
    rfl
  cases change with
  | offerCreated _ _ _ _ _ _ _ => exact List.mem_append_left _ mem
  | offerEdited existing environment editedAt dto _ existingMem _ notFinal =>
      refine Rows.mem_updateWhere.mpr ⟨row, mem, (if_neg ?_).symm⟩
      intro own
      rw [Rows.eq_of_key keyed.companies mem existingMem own, notFinal] at final
      cases final
  | transition environment command offer allowed plain =>
      exact OrderTransitionCommand.mem_after_of_inactive allowed keyed plain.1 mem inactive
  | workSubmitted environment orderId offer submission allowed _ _ =>
      exact OrderTransitionCommand.mem_after_of_inactive allowed keyed
        (by simp [OrderTransitionCommand.type]) mem inactive
  | offersDropped demoIds => exact absurd rfl notReset
  | submissionOpened _ _ _ _ _ => exact mem
  | submissionFilled _ _ _ _ _ _ _ => exact mem
  | clientFilesAdded _ _ => exact mem
  | areaVerified _ _ _ => exact mem

/-! The counter and the rejections it counts -/

def Offer.rejections (offer : Offer) : Uuid × ℕ := (offer.id, offer.rejectionCount)

/-- How often the offer with this identifier was rejected, 0 before it is there. -/
def OrderTables.rejectionsOf (offerId : Uuid) (tables : OrderTables) : ℕ :=
  ((tables.offers.map Offer.rejections).find? (·.1 == offerId)).elim 0 Prod.snd

theorem updateOffers_map_rejections {now : Date} {status : OfferStatus} {ids : List Uuid}
    {offers : List Offer} (notRejected : status ≠ .rejected) :
    (updateOffers now status ids offers).map Offer.rejections = offers.map Offer.rejections :=
  Rows.map_updateWhere (by simp [Offer.rejections, Offer.withStatus, notRejected])

theorem OrderTransitionCommand.after_map_rejections {command : OrderTransitionCommand}
    {offer : Offer} {now : Date} (notRejection : command.type ≠ .offerRejected) :
    (command.after now offer tables).offers.map Offer.rejections =
      tables.offers.map Offer.rejections := by
  cases command with
  | offerRejected _ _ => exact absurd rfl notRejection
  | offerAccepted _ _ _ =>
      exact (updateOffers_map_rejections (by decide)).trans
        (updateOffers_map_rejections (by decide))
  | _ => exact updateOffers_map_rejections (by decide)

/-- Every change but a rejection and a reset keeps the counters, a new one being 0. -/
theorem OrderChange.rejections (change : OrderChange tables kind next)
    (notReset : kind ≠ .demoReset) (notRejection : ∀ id, kind ≠ .transition .offerRejected id) :
    ∃ new, next.offers.map Offer.rejections = tables.offers.map Offer.rejections ++ new ∧
      ∀ counted ∈ new, counted.2 = 0 := by
  have unchanged : next.offers.map Offer.rejections = tables.offers.map Offer.rejections →
      ∃ new, next.offers.map Offer.rejections = tables.offers.map Offer.rejections ++ new ∧
        ∀ counted ∈ new, counted.2 = 0 := fun same => ⟨[], by simpa using same, by simp⟩
  cases change with
  | offerCreated environment editedAt companyId dto _ _ _ =>
      exact ⟨[(environment.offerId, 0)], by simp [Offer.rejections, Offer.create], by simp⟩
  | offerEdited existing environment editedAt dto _ _ _ _ =>
      exact unchanged (Rows.map_updateWhere fun _ => rfl)
  | transition environment command offer allowed plain =>
      apply unchanged
      apply OrderTransitionCommand.after_map_rejections
      intro isRejection
      rw [isRejection] at notRejection
      exact notRejection _ rfl
  | workSubmitted environment orderId offer submission _ _ _ =>
      exact unchanged (updateOffers_map_rejections (by decide))
  | offersDropped demoIds => exact absurd rfl notReset
  | submissionOpened _ _ _ _ _ => exact unchanged rfl
  | submissionFilled _ _ _ _ _ _ _ => exact unchanged rfl
  | clientFilesAdded _ _ => exact unchanged rfl
  | areaVerified _ _ _ => exact unchanged rfl

theorem rejectionsOf_of_append {offerId : Uuid} {new : List (Uuid × ℕ)}
    (appended : next.offers.map Offer.rejections = tables.offers.map Offer.rejections ++ new)
    (zero : ∀ counted ∈ new, counted.2 = 0) :
    next.rejectionsOf offerId = tables.rejectionsOf offerId := by
  simp only [OrderTables.rejectionsOf, appended, List.find?_append]
  cases (tables.offers.map Offer.rejections).find? (·.1 == offerId) with
  | some counted => rfl
  | none =>
      cases found : new.find? (·.1 == offerId) with
      | none => rfl
      | some counted => exact zero counted (List.mem_of_find?_eq_some found)

theorem rejectionsOf_of_mem {offer : Offer} (keyed : tables.WellKeyed)
    (mem : offer ∈ tables.offers) : tables.rejectionsOf offer.id = offer.rejectionCount := by
  have unique : ((tables.offers.map Offer.rejections).map Prod.fst).Nodup := by
    simpa [Function.comp_def, Offer.rejections] using keyed.offerIds
  have found := Rows.find?_eq_some_of_mem unique (List.mem_map_of_mem mem)
  rw [OrderTables.rejectionsOf, show (fun counted : Uuid × ℕ => counted.1 == offer.id) =
    fun counted => counted.1 == (Offer.rejections offer).1 from rfl, found]
  rfl

/-- A rejection raises the counter of its offer and no other. -/
theorem rejectionsOf_reject {offer : Offer} {offerId : Uuid} {now : Date}
    (keyed : tables.WellKeyed) (mem : offer ∈ tables.offers)
    (offers : next.offers = updateOffers now .rejected [offer.id] tables.offers) :
    next.rejectionsOf offerId =
      tables.rejectionsOf offerId + if offer.id = offerId then 1 else 0 := by
  rcases exists_split_updateOffers keyed mem now .rejected with
    ⟨before, after, split, updated, others⟩
  have absent : (before.map Offer.rejections).find? (·.1 == offer.id) = none := by
    rw [List.find?_eq_none]
    intro counted countedMem
    rcases List.mem_map.mp countedMem with ⟨other, otherMem, rfl⟩
    simpa [Offer.rejections] using others other (List.mem_append_left after otherMem)
  simp only [OrderTables.rejectionsOf, offers, updated]
  simp only [split, List.map_append, List.map_cons, List.find?_append, List.find?_cons]
  by_cases same : offer.id = offerId
  · subst same
    simp [absent, Offer.rejections, Offer.withStatus]
  · have other : (offer.id == offerId) = false := by simpa using same
    simp [same, other, Offer.rejections]

end

/-! Runs -/

/-- The step is a rejection of the offer, and it is committed. -/
def World.rejects (offerId : Uuid) (world : World) : Request → Bool
  | .rejectOffer environment clientId rejected =>
      rejected == offerId &&
        Transaction.succeeds (OffersService.reject environment clientId rejected) world.tables
  | _ => false

theorem World.rejectionsOf_step {world : World} (wellFormed : world.WellFormed) (offerId : Uuid)
    (request : Request) (notReset : request.kind ≠ .demoReset) :
    (world.step request).tables.rejectionsOf offerId =
      world.tables.rejectionsOf offerId + if world.rejects offerId request then 1 else 0 := by
  by_cases isRejection : ∃ id, request.kind = .transition .offerRejected id
  · rcases isRejection with ⟨id, isKind⟩
    cases request <;> cases isKind
    rename_i environment clientId rejected
    cases outcome : (OffersService.reject environment clientId rejected).run world.tables with
    | error error =>
        have unchanged : (world.step (.rejectOffer environment clientId rejected)).tables =
          world.tables := Transaction.commit_of_error outcome
        simp [unchanged, rejects, Transaction.succeeds, outcome]
    | ok result =>
        rcases result with ⟨updated, next⟩
        have committed : (world.step (.rejectOffer environment clientId rejected)).tables = next :=
          Transaction.commit_of_ok outcome
        rcases OffersService.leaveSelection_ok outcome with ⟨_, applied, _, ran⟩
        rcases OrderTransitionService.run_ok_after ran with ⟨offer, allowed, same⟩
        rw [committed, rejectionsOf_reject wellFormed.keyed allowed.mem same.2.1,
          allowed.offerId_eq rfl]
        simp [rejects, Transaction.succeeds, outcome]
  · have notRejects : world.rejects offerId request = false := by
      cases request <;> first | rfl | exact absurd ⟨_, rfl⟩ isRejection
    rw [notRejects]
    rcases step_changes wellFormed request with same | ⟨middle, change, same⟩
    · simp [OrderTables.rejectionsOf, same.2.1]
    · rcases change.rejections notReset (fun id isKind => isRejection ⟨id, isKind⟩) with
        ⟨new, appended, zero⟩
      rw [← same.2.1] at appended
      simpa using rejectionsOf_of_append appended zero

theorem World.rejectionsOf_run {world : World} (wellFormed : world.WellFormed) (offerId : Uuid)
    {requests : List Request} (noReset : ∀ request ∈ requests, request.kind ≠ .demoReset) :
    (Runs.run World.step world requests).tables.rejectionsOf offerId =
      world.tables.rejectionsOf offerId +
        Runs.count World.step (World.rejects offerId) world requests :=
  @Runs.Along.measure_eq World Request World.step (fun _ request => request.kind ≠ .demoReset)
    World.WellFormed (fun world => world.tables.rejectionsOf offerId) (World.rejects offerId)
    (fun _ request _ wellFormed => wellFormed.step request)
    (fun _ request notReset wellFormed => rejectionsOf_step wellFormed offerId request notReset)
    world requests (Runs.Along.of_mem noReset world) wellFormed

theorem World.mem_step_of_finallyRejected {world : World} {offer : Offer}
    (wellFormed : world.WellFormed) (request : Request) (notReset : request.kind ≠ .demoReset)
    (mem : offer ∈ world.tables.offers)
    (final : isFinallyRejected (some offer.status) offer.rejectionCount = true) :
    offer ∈ (world.step request).tables.offers := by
  rcases step_changes wellFormed request with same | ⟨middle, change, same⟩
  · rw [same.2.1]
    exact mem
  · rw [same.2.1]
    exact change.mem_of_finallyRejected wellFormed.keyed notReset mem final

theorem World.mem_run_of_finallyRejected {world : World} {offer : Offer}
    (wellFormed : world.WellFormed) (mem : offer ∈ world.tables.offers)
    (final : isFinallyRejected (some offer.status) offer.rejectionCount = true)
    {requests : List Request} (noReset : ∀ request ∈ requests, request.kind ≠ .demoReset) :
    (Runs.run World.step world requests).WellFormed ∧
      offer ∈ (Runs.run World.step world requests).tables.offers :=
  @Runs.Along.invariant World Request World.step (fun _ request => request.kind ≠ .demoReset)
    (fun world => world.WellFormed ∧ offer ∈ world.tables.offers)
    (fun _ request notReset holds => ⟨holds.1.step request,
      mem_step_of_finallyRejected holds.1 request notReset holds.2 final⟩)
    world requests (Runs.Along.of_mem noReset world) ⟨wellFormed, mem⟩

/-- What is finally rejected cannot be sent again, although the upsert writes its row first. -/
theorem OffersService.submit_notFinal {environment : Environment} {editedAt : Date}
    {companyId : Uuid} {dto : CreateOfferDto} {tables next : OrderTables} {created existing : Offer}
    (keyed : tables.WellKeyed)
    (found : tables.offers.find? (·.companyId == companyId) = some existing)
    (returned : (submit environment editedAt companyId dto).run tables = .ok (created, next)) :
    isFinallyRejected (some existing.status) existing.rejectionCount = false := by
  simp only [submit] at returned
  rcases Transaction.run_bind_eq_ok.mp returned with ⟨order, tables, locked, afterLock⟩
  rcases run_lockOrder_eq_ok.mp locked with ⟨_, rfl, rfl⟩
  rw [Transaction.run_get_bind] at afterLock
  rcases Transaction.run_bind_eq_ok.mp afterLock with ⟨row, middle, upserted, afterUpsert⟩
  rcases Transaction.run_bind_eq_ok.mp afterUpsert with ⟨applied, _, ran, _⟩
  rcases OrderTransitionService.run_ok_after ran with ⟨offer, allowed, _⟩
  rcases upsertOffer_ok keyed upserted with ⟨_, rowMem, unique, _, _⟩
  have isRow : offer = row :=
    Rows.eq_of_key unique allowed.mem rowMem (allowed.offerId_eq rfl)
  have terms := allowed.terms
  rw [found] at terms
  rcases run_upsertOffer_eq_ok.mp upserted with ⟨edited, sameFound, isEdited, _⟩ | ⟨absent, _⟩
  · rw [found] at sameFound
    cases sameFound
    rw [isRow, isEdited] at terms
    exact terms
  · rw [found] at absent
    cases absent

/-- Whatever requests an order has been through, the demo reset apart: the counter of an offer is
the number of its rejections, two at most.  An offer rejected twice is there in every later state
as it was, and no submission of its company changes anything. -/
theorem rejection_cap (id : Uuid) (orderNumber : ℕ) (now : Date) (clientId : Uuid)
    (order : CreateOrderDto) (requests : List Request)
    (noReset : ∀ demoIds, Request.resetDemo demoIds ∉ requests) :
    let created := World.ofTables (OrdersService.createOrder id orderNumber now clientId order)
    let world := reached id orderNumber now clientId order requests
    ∀ offer ∈ world.tables.offers,
      offer.rejectionCount = Runs.count World.step (World.rejects offer.id) created requests ∧
      offer.rejectionCount ≤ 2 ∧
      (offer.rejectionCount = 2 →
        ∀ later : List Request, (∀ demoIds, Request.resetDemo demoIds ∉ later) →
          let final := Runs.run World.step world later
          offer ∈ final.tables.offers ∧ offer.status = .rejected ∧
            ∀ (environment : Environment) (editedAt : Date) (dto : CreateOfferDto),
              Transaction.succeeds (OffersService.submit environment editedAt offer.companyId dto)
                  final.tables = false ∧
                (final.step (.submitOffer environment editedAt offer.companyId dto)).tables =
                  final.tables) := by
  have kinds : ∀ labels : List Request, (∀ demoIds, Request.resetDemo demoIds ∉ labels) →
      ∀ request ∈ labels, request.kind ≠ .demoReset := by
    intro labels none request mem isReset
    cases request <;> cases isReset
    exact none _ mem
  intro created world offer mem
  have fresh := OrdersService.createOrder_fresh id orderNumber now clientId order
  have start : created.WellFormed := World.wellFormed_ofTables fresh
  rcases World.run_tables_invariant OrderTables.Capped.blind
    (fun _ _ _ keyed change capped => OrderTables.Capped.preserved capped keyed change)
    start (OrderTables.Capped.of_fresh fresh) requests with ⟨wellFormed, capped⟩
  have counted := World.rejectionsOf_run start offer.id (kinds requests noReset)
  have none : created.tables.rejectionsOf offer.id = 0 := by
    simp [OrderTables.rejectionsOf, created, World.ofTables, fresh.noOffers]
  refine ⟨?_, (capped offer mem).1, ?_⟩
  · rw [none, Nat.zero_add] at counted
    rw [← counted]
    exact (rejectionsOf_of_mem wellFormed.keyed mem).symm
  · intro twice later noLaterReset final
    have isRejected : offer.status = .rejected := (capped offer mem).2 twice
    have isFinal : isFinallyRejected (some offer.status) offer.rejectionCount = true := by
      simp [isFinallyRejected, isRejected, twice, maxOfferRejections]
    have stays : final.WellFormed ∧ offer ∈ final.tables.offers :=
      World.mem_run_of_finallyRejected wellFormed mem isFinal (kinds later noLaterReset)
    refine ⟨stays.2, isRejected, ?_⟩
    intro environment editedAt dto
    have found := Rows.find?_eq_some_of_mem stays.1.keyed.companies stays.2
    cases outcome : (OffersService.submit environment editedAt offer.companyId dto).run
        final.tables with
    | ok result =>
        have notFinal := OffersService.submit_notFinal stays.1.keyed found outcome
        rw [isFinal] at notFinal
        cases notFinal
    | error error =>
        exact ⟨by simp [Transaction.succeeds, outcome], Transaction.commit_of_error outcome⟩

/-- A company offers twice, and is rejected twice. -/
def rejectedTwice : List Request :=
  [exampleSubmission ⟨3⟩ ⟨11⟩ 100, .rejectOffer (exampleEnvironment ⟨12⟩) ⟨2⟩ ⟨11⟩,
    exampleSubmission ⟨3⟩ ⟨12⟩ 90, .rejectOffer (exampleEnvironment ⟨12⟩) ⟨2⟩ ⟨11⟩]

theorem rejection_cap_rejectedTwice :
    let world := reached ⟨1⟩ 7 Date.epoch ⟨2⟩ exampleOrder rejectedTwice
    let final := Runs.run World.step world [exampleSubmission ⟨4⟩ ⟨13⟩ 80]
    let offer := world.tables.offers.head (by decide)
    let dto : CreateOfferDto :=
      { orderId := ⟨1⟩, proposedPrice := ⟨50⟩, proposedDeadline := Date.epoch, comment := none }
    offer.rejectionCount = Runs.count World.step (World.rejects offer.id)
        (World.ofTables (OrdersService.createOrder ⟨1⟩ 7 Date.epoch ⟨2⟩ exampleOrder))
        rejectedTwice ∧
      offer ∈ final.tables.offers ∧
      Transaction.succeeds (OffersService.submit (exampleEnvironment ⟨14⟩) exampleMoment
        offer.companyId dto) final.tables = false := by
  have capped := rejection_cap ⟨1⟩ 7 Date.epoch ⟨2⟩ exampleOrder rejectedTwice
    (by simp [rejectedTwice, exampleSubmission]) _ (List.head_mem (by decide))
  have stays := capped.2.2 (by decide +kernel) [exampleSubmission ⟨4⟩ ⟨13⟩ 80]
    (by simp [exampleSubmission])
  exact ⟨capped.1, stays.1, (stays.2.2 (exampleEnvironment ⟨14⟩) exampleMoment _).1⟩

end MyBuild
