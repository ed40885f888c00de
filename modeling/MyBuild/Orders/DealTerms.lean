import MyBuild.Orders.Coupling

/-!
# The agreed terms of the deal

The terms are copied from the accepted offer to the order, and from then on both copies
stay as they were agreed.  A refused submission has already written its terms over the
offer when the machine refuses it; the rollback takes them back, so such a request is
no change at all here.
-/

namespace MyBuild

namespace OrderTables

/-- The order has no terms while it accepts offers, and those of its executor afterwards. -/
structure TermsAgreed (tables : OrderTables) : Prop where
  open_ : acceptsOffers tables.order.status = true →
    tables.order.price = none ∧ tables.order.deadline = none
  agreed : ∀ offer ∈ tables.offers, isExecutorOffer offer.status = true →
    tables.order.price = some offer.proposedPrice ∧
      tables.order.deadline = some offer.proposedDeadline

/-- Once the order no longer accepts offers, its terms and those of its executor are settled. -/
def TermsFrozen (before after : OrderTables) : Prop :=
  acceptsOffers before.order.status = false →
    acceptsOffers after.order.status = false ∧
      after.order.price = before.order.price ∧ after.order.deadline = before.order.deadline ∧
      ∀ offer ∈ before.offers, isExecutorOffer offer.status = true →
        ∃ kept ∈ after.offers, kept.id = offer.id ∧ isExecutorOffer kept.status = true ∧
          kept.proposedPrice = offer.proposedPrice ∧
          kept.proposedDeadline = offer.proposedDeadline

variable {tables next : OrderTables}

theorem TermsFrozen.refl (tables : OrderTables) : tables.TermsFrozen tables := by
  intro closed
  exact ⟨closed, rfl, rfl, fun offer mem isExecutor =>
    ⟨offer, mem, rfl, isExecutor, rfl, rfl⟩⟩

theorem TermsFrozen.trans {first second third : OrderTables}
    (firstFrozen : first.TermsFrozen second) (secondFrozen : second.TermsFrozen third) :
    first.TermsFrozen third := by
  intro closed
  rcases firstFrozen closed with ⟨closedSecond, price, deadline, kept⟩
  rcases secondFrozen closedSecond with ⟨closedThird, price', deadline', kept'⟩
  refine ⟨closedThird, price'.trans price, deadline'.trans deadline, ?_⟩
  intro offer mem isExecutor
  rcases kept offer mem isExecutor with ⟨middle, middleMem, id, executes, proposed, due⟩
  rcases kept' middle middleMem executes with ⟨last, lastMem, id', executes', proposed', due'⟩
  exact ⟨last, lastMem, id'.trans id, executes', proposed'.trans proposed, due'.trans due⟩

theorem TermsAgreed.work (terms : tables.TermsAgreed) {now : Date} {offer : Offer}
    (keyed : tables.WellKeyed) (mem : offer ∈ tables.offers)
    (isExecutor : isExecutorOffer offer.status = true) {status : OfferStatus}
    (closed : acceptsOffers next.order.status = false)
    (price : next.order.price = tables.order.price)
    (deadline : next.order.deadline = tables.order.deadline)
    (offers : next.offers = updateOffers now status [offer.id] tables.offers) :
    next.TermsAgreed := by
  refine ⟨?_, ?_⟩
  · intro accepts
    rw [closed] at accepts
    cases accepts
  · intro moved movedMem executes
    rw [offers] at movedMem
    rw [price, deadline]
    rcases mem_updateOffers.mp movedMem with ⟨old, oldMem, chosen, rfl⟩ | ⟨oldMem, _⟩
    · have same : old = offer :=
        Rows.eq_of_key keyed.offerIds oldMem mem (List.mem_singleton.mp chosen)
      subst same
      exact terms.agreed old oldMem isExecutor
    · exact terms.agreed moved oldMem executes

theorem TermsFrozen.work {now : Date} {ids : List Uuid} {status : OfferStatus}
    (executes : isExecutorOffer status = true)
    (closed : acceptsOffers next.order.status = false)
    (price : next.order.price = tables.order.price)
    (deadline : next.order.deadline = tables.order.deadline)
    (offers : next.offers = updateOffers now status ids tables.offers) :
    tables.TermsFrozen next := by
  intro _
  refine ⟨closed, price, deadline, ?_⟩
  intro offer mem isExecutor
  rw [offers]
  refine ⟨_, Rows.mem_updateWhere.mpr ⟨offer, mem, rfl⟩, ?_⟩
  split
  · exact ⟨rfl, executes, rfl, rfl⟩
  · exact ⟨rfl, isExecutor, rfl, rfl⟩

theorem TermsFrozen.of_open (accepts : acceptsOffers tables.order.status = true) :
    tables.TermsFrozen next := by
  intro closed
  rw [accepts] at closed
  cases closed

/-- An event other than the work events is only listed while the order accepts offers. -/
theorem accepts_of_listed {event : OrderEventType} {status : OrderStatus}
    (notWork : event ≠ .workSubmitted ∧ event ≠ .workConfirmed ∧ event ≠ .workDisputed)
    (listed : event ∈ orderTransitions status) : acceptsOffers status = true := by
  cases status <;> cases event <;> simp_all [orderTransitions, acceptsOffers,
    offerEligibleOrderStatuses]

theorem acceptsOffers_iff {status : OrderStatus} :
    acceptsOffers status = true ↔ status = .waiting ∨ status = .awaitingConfirmation := by
  cases status <;> decide

theorem TermsAgreed.noExecutor (terms : tables.TermsAgreed)
    (accepts : acceptsOffers tables.order.status = true) :
    ∀ offer ∈ tables.offers, isExecutorOffer offer.status = false := by
  intro offer mem
  by_contra executes
  have agreed := (terms.agreed offer mem (by simpa using executes)).1
  rw [(terms.open_ accepts).1] at agreed
  cases agreed

theorem TermsAgreed.of_open (price : next.order.price = none)
    (deadline : next.order.deadline = none)
    (noExecutor : ∀ offer ∈ next.offers, isExecutorOffer offer.status = false) :
    next.TermsAgreed := by
  refine ⟨fun _ => ⟨price, deadline⟩, ?_⟩
  intro offer mem executes
  rw [noExecutor offer mem] at executes
  cases executes

theorem TermsAgreed.leave (terms : tables.TermsAgreed) {now : Date} {offer : Offer}
    (accepts : acceptsOffers tables.order.status = true) {status : OfferStatus}
    (out : isExecutorOffer status = false) :
    (OrderTransitionCommand.leave now status offer tables).TermsAgreed := by
  have unset := terms.open_ accepts
  refine TermsAgreed.of_open unset.1 unset.2 ?_
  intro other mem
  rcases mem_updateOffers.mp mem with ⟨_, _, _, rfl⟩ | ⟨oldMem, _⟩
  · exact out
  · exact terms.noExecutor accepts other oldMem

/-- The accepted offer is the only executor, and gives the order its terms. -/
theorem TermsAgreed.accept (terms : tables.TermsAgreed) (keyed : tables.WellKeyed) {now : Date}
    {offer : Offer} (mem : offer ∈ tables.offers)
    (accepts : acceptsOffers tables.order.status = true) {orderId offerId : Uuid}
    {seen : Option String} :
    ((OrderTransitionCommand.offerAccepted orderId offerId seen).after now offer
      tables).TermsAgreed := by
  constructor
  · intro accepting
    cases accepting
  intro executor executorMem executes
  rcases mem_updateOffers.mp executorMem with ⟨old, _, _, rfl⟩ | ⟨middleMem, _⟩
  · cases executes
  rcases mem_updateOffers.mp middleMem with ⟨old, oldMem, chosen, rfl⟩ | ⟨oldMem, _⟩
  · have same : old = offer :=
      Rows.eq_of_key keyed.offerIds oldMem mem (List.mem_singleton.mp chosen)
    subst same
    exact ⟨rfl, rfl⟩
  · rw [terms.noExecutor accepts executor oldMem] at executes
    cases executes

theorem accepted_mem {now : Date} {offer : Offer} (mem : offer ∈ tables.offers)
    {orderId offerId : Uuid} {seen : Option String} :
    offer.withStatus now .accepted ∈
      ((OrderTransitionCommand.offerAccepted orderId offerId seen).after now offer
        tables).offers := by
  refine mem_updateOffers.mpr (Or.inr ⟨?_, ?_⟩)
  · exact mem_updateOffers.mpr (Or.inl ⟨offer, mem, by simp, rfl⟩)
  intro isRival
  rcases List.mem_map.mp isRival with ⟨rival, rivalMem, sameId⟩
  have fits := (List.mem_filter.mp rivalMem).2
  simp [show rival.id = offer.id from sameId] at fits

theorem executor_of_resolved {environment : Environment} {command : OrderTransitionCommand}
    {offer : Offer} (allowed : command.Allowed environment tables offer)
    (isWork : command.offerId = none) : isExecutorOffer offer.status = true := by
  have resolved := allowed.resolved
  simp only [OrderTransitionService.resolved?, isWork] at resolved
  simpa using List.find?_some resolved

theorem TermsAgreed.preserved (terms : tables.TermsAgreed) (keyed : tables.WellKeyed)
    {kind : RequestKind} (change : OrderChange tables kind next) : next.TermsAgreed := by
  cases change with
  | offerCreated environment _ companyId dto accepts _ _ =>
      have unset := terms.open_ accepts
      refine TermsAgreed.of_open unset.1 unset.2 ?_
      intro offer mem
      rcases List.mem_append.mp mem with old | new
      · exact terms.noExecutor accepts offer old
      · rw [List.mem_singleton.mp new]
        rfl
  | offerEdited existing environment editedAt dto accepts _ _ _ =>
      have unset := terms.open_ accepts
      refine TermsAgreed.of_open unset.1 unset.2 ?_
      intro offer mem
      rcases Rows.mem_updateWhere.mp mem with ⟨old, oldMem, rfl⟩
      split
      · rfl
      · exact terms.noExecutor accepts old oldMem
  | transition environment command offer allowed plain =>
      cases command with
      | offerSubmitted _ _ _ => exact absurd rfl plain.1
      | workSubmitted _ => exact absurd rfl plain.2
      | offerWithdrawn _ _ =>
          exact terms.leave (accepts_of_listed (by simp [OrderTransitionCommand.type])
            allowed.listed) rfl
      | offerRejected _ _ =>
          exact terms.leave (accepts_of_listed (by simp [OrderTransitionCommand.type])
            allowed.listed) rfl
      | offerAccepted _ _ _ =>
          exact terms.accept keyed allowed.mem (accepts_of_listed
            (by simp [OrderTransitionCommand.type]) allowed.listed)
      | workConfirmed _ _ =>
          exact terms.work keyed allowed.mem (executor_of_resolved allowed rfl) rfl rfl rfl rfl
      | workDisputed _ _ =>
          exact terms.work keyed allowed.mem (executor_of_resolved allowed rfl) rfl rfl rfl rfl
  | workSubmitted environment orderId offer submission allowed _ _ =>
      exact terms.work keyed allowed.mem (executor_of_resolved allowed rfl) rfl rfl rfl rfl
  | offersDropped demoIds =>
      exact ⟨terms.open_, fun offer mem => terms.agreed offer (List.mem_of_mem_filter mem)⟩
  | submissionOpened _ _ _ _ _ => exact ⟨terms.open_, terms.agreed⟩
  | submissionFilled _ _ _ _ _ _ _ => exact ⟨terms.open_, terms.agreed⟩
  | clientFilesAdded _ _ => exact ⟨terms.open_, terms.agreed⟩
  | areaVerified _ _ _ => exact ⟨terms.open_, terms.agreed⟩

theorem TermsFrozen.of_kept (status : next.order.status = tables.order.status)
    (price : next.order.price = tables.order.price)
    (deadline : next.order.deadline = tables.order.deadline)
    (offers : ∀ offer ∈ tables.offers, isExecutorOffer offer.status = true →
      offer ∈ next.offers) : tables.TermsFrozen next := by
  intro closed
  refine ⟨status ▸ closed, price, deadline, ?_⟩
  intro offer mem executes
  exact ⟨offer, offers offer mem executes, rfl, executes, rfl, rfl⟩

theorem TermsFrozen.of_change {kind : RequestKind} (change : OrderChange tables kind next) :
    tables.TermsFrozen next := by
  cases change with
  | offerCreated _ _ _ _ accepts _ _ => exact TermsFrozen.of_open accepts
  | offerEdited _ _ _ _ accepts _ _ _ => exact TermsFrozen.of_open accepts
  | transition environment command offer allowed plain =>
      cases command with
      | offerSubmitted _ _ _ => exact absurd rfl plain.1
      | workSubmitted _ => exact absurd rfl plain.2
      | workConfirmed _ _ => exact TermsFrozen.work rfl rfl rfl rfl rfl
      | workDisputed _ _ => exact TermsFrozen.work rfl rfl rfl rfl rfl
      | _ =>
          exact TermsFrozen.of_open (accepts_of_listed (by simp [OrderTransitionCommand.type])
            allowed.listed)
  | workSubmitted _ _ _ _ _ _ _ => exact TermsFrozen.work rfl rfl rfl rfl rfl
  | offersDropped demoIds =>
      refine TermsFrozen.of_kept rfl rfl rfl ?_
      intro offer mem executes
      refine List.mem_filter.mpr ⟨mem, ?_⟩
      simp [Offer.isDemoTrace, (isActiveOffer_iff offer.status).mpr (Or.inr executes)]
  | submissionOpened _ _ _ _ _ => exact TermsFrozen.of_kept rfl rfl rfl fun _ mem _ => mem
  | submissionFilled _ _ _ _ _ _ _ => exact TermsFrozen.of_kept rfl rfl rfl fun _ mem _ => mem
  | clientFilesAdded _ _ => exact TermsFrozen.of_kept rfl rfl rfl fun _ mem _ => mem
  | areaVerified _ _ _ => exact TermsFrozen.of_kept rfl rfl rfl fun _ mem _ => mem

theorem TermsAgreed.blind (tables : OrderTables) (notifications : List Notification) :
    ({ tables with notifications } : OrderTables).TermsAgreed ↔ tables.TermsAgreed :=
  ⟨fun terms => ⟨terms.open_, terms.agreed⟩, fun terms => ⟨terms.open_, terms.agreed⟩⟩

theorem TermsAgreed.of_fresh (fresh : tables.Fresh) : tables.TermsAgreed := by
  apply TermsAgreed.of_open fresh.noPrice fresh.noDeadline
  simp [fresh.noOffers]

/-- Settled terms are the same after every run. -/
theorem TermsFrozen.run {world : World} (wellFormed : world.WellFormed)
    (requests : List Request) :
    world.tables.TermsFrozen (Runs.run World.step world requests).tables :=
  World.run_tables_relation (fun _ _ => Iff.rfl) (fun _ _ _ _ _ _ => trivial) TermsFrozen.refl
    (fun _ _ _ => TermsFrozen.trans) (fun _ _ _ => Iff.rfl)
    (fun _ _ _ _ change _ => TermsFrozen.of_change change) wellFormed trivial requests

end OrderTables

theorem reached_termsAgreed (id : Uuid) (orderNumber : ℕ) (now : Date) (clientId : Uuid)
    (dto : CreateOrderDto) (requests : List Request) :
    (reached id orderNumber now clientId dto requests).tables.TermsAgreed := by
  have fresh := OrdersService.createOrder_fresh id orderNumber now clientId dto
  exact (World.run_tables_invariant OrderTables.TermsAgreed.blind
    (fun _ _ _ keyed change terms => terms.preserved keyed change)
    (World.wellFormed_ofTables fresh) (OrderTables.TermsAgreed.of_fresh fresh) requests).2

/-- After the client has accepted an offer, every later state has the terms of that offer, on the
order and on the executor's offer alike. -/
theorem terms_after_accept {world : World} (wellFormed : world.WellFormed)
    {environment : Environment} {orderId offerId : Uuid} {seen : Option String}
    {applied : AppliedTransition} {next : OrderTables}
    (returned : (OrderWorkflowService.acceptOffer environment orderId offerId seen).run
      world.tables = .ok (applied, next)) :
    ∃ offer ∈ world.tables.offers, offer.id = offerId ∧ ∀ later : List Request,
      let final := (Runs.run World.step world
        (.acceptOffer environment orderId offerId seen :: later)).tables
      final.order.price = some offer.proposedPrice ∧
        final.order.deadline = some offer.proposedDeadline ∧
        ∃ executor ∈ final.offers, executor.id = offerId ∧
          isExecutorOffer executor.status = true ∧
          executor.proposedPrice = offer.proposedPrice ∧
          executor.proposedDeadline = offer.proposedDeadline := by
  rcases OrderTransitionService.run_ok_after returned with ⟨offer, allowed, same⟩
  have isChosen : offer.id = offerId := by simpa using List.find?_some allowed.resolved
  refine ⟨offer, allowed.mem, isChosen, ?_⟩
  intro later final
  have committed : (world.step (.acceptOffer environment orderId offerId seen)).tables = next :=
    Transaction.commit_of_ok returned
  have frozen := OrderTables.TermsFrozen.run
    (wellFormed.step (.acceptOffer environment orderId offerId seen)) later
  rw [committed] at frozen
  rcases same with ⟨sameOrder, sameOffers, _, _⟩
  have closed : acceptsOffers next.order.status = false := by
    rw [sameOrder]
    rfl
  rcases frozen closed with ⟨_, price, deadline, kept⟩
  have accepted : offer.withStatus environment.now .accepted ∈
      ((OrderTransitionCommand.offerAccepted orderId offerId seen).after environment.now offer
        world.tables).offers := OrderTables.accepted_mem allowed.mem
  rw [← sameOffers] at accepted
  rcases kept _ accepted rfl with ⟨executor, mem, sameId, executes, proposed, due⟩
  refine ⟨?_, ?_, executor, mem, sameId.trans isChosen, executes, proposed, due⟩
  · rw [show final.order.price = next.order.price from price, sameOrder]
    rfl
  · rw [show final.order.deadline = next.order.deadline from deadline, sameOrder]
    rfl

/-- Whatever requests an order has been through: it has no terms while it looks for an executor,
afterwards it has those of its executor's offer, and neither copy ever changes again; the terms
are the ones of the offer the client accepted. -/
theorem deal_terms_never_drift (id : Uuid) (orderNumber : ℕ) (now : Date) (clientId : Uuid)
    (dto : CreateOrderDto) (requests : List Request) :
    let world := reached id orderNumber now clientId dto requests
    (world.tables.order.status = .waiting ∨ world.tables.order.status = .awaitingConfirmation →
        world.tables.order.price = none ∧ world.tables.order.deadline = none) ∧
      (world.tables.order.status ≠ .waiting → world.tables.order.status ≠ .awaitingConfirmation →
        ∃ executor ∈ world.tables.offers, isExecutorOffer executor.status = true ∧
          world.tables.order.price = some executor.proposedPrice ∧
          world.tables.order.deadline = some executor.proposedDeadline ∧
          ∀ later : List Request,
            let final := (Runs.run World.step world later).tables
            final.order.price = world.tables.order.price ∧
              final.order.deadline = world.tables.order.deadline ∧
              ∃ kept ∈ final.offers, kept.id = executor.id ∧
                isExecutorOffer kept.status = true ∧
                kept.proposedPrice = executor.proposedPrice ∧
                kept.proposedDeadline = executor.proposedDeadline) ∧
      ∀ (environment : Environment) (orderId offerId : Uuid) (seen : Option String)
        (applied : AppliedTransition) (next : OrderTables),
        (OrderWorkflowService.acceptOffer environment orderId offerId seen).run world.tables =
            .ok (applied, next) →
          ∃ offer ∈ world.tables.offers, offer.id = offerId ∧ ∀ later : List Request,
            let final := (Runs.run World.step world
              (.acceptOffer environment orderId offerId seen :: later)).tables
            final.order.price = some offer.proposedPrice ∧
              final.order.deadline = some offer.proposedDeadline ∧
              ∃ executor ∈ final.offers, executor.id = offerId ∧
                isExecutorOffer executor.status = true ∧
                executor.proposedPrice = offer.proposedPrice ∧
                executor.proposedDeadline = offer.proposedDeadline := by
  intro world
  rcases reached_coupled id orderNumber now clientId dto requests with ⟨wellFormed, coupled⟩
  have terms := reached_termsAgreed id orderNumber now clientId dto requests
  refine ⟨?_, ?_, ?_⟩
  · intro looking
    exact terms.open_ (OrderTables.acceptsOffers_iff.mpr looking)
  · intro notWaiting notAwaiting
    have closed : acceptsOffers world.tables.order.status = false := by
      cases accepts : acceptsOffers world.tables.order.status
      · rfl
      · rcases OrderTables.acceptsOffers_iff.mp accepts with waiting | awaiting
        · exact absurd waiting notWaiting
        · exact absurd awaiting notAwaiting
    rcases coupled.executor_of_closed closed with ⟨executor, mem, executes⟩
    have agreed := terms.agreed executor mem executes
    refine ⟨executor, mem, executes, agreed.1, agreed.2, ?_⟩
    intro later
    rcases OrderTables.TermsFrozen.run wellFormed later closed with ⟨_, price, deadline, kept⟩
    exact ⟨price, deadline, kept executor mem executes⟩
  · intro environment orderId offerId seen applied next returned
    exact terms_after_accept wellFormed returned

end MyBuild
