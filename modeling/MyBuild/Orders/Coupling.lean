import MyBuild.Orders.World

/-!
# The status of an order and its offers

The status of the order determines what its offers are: how many of them wait for the
client, and whether one was accepted and how far its work has come.  The two tables are
written by different parts of the code; `Coupled` is the invariant that ties them
together, and it survives every change a request can make.
-/

namespace MyBuild

def executorStatuses (offers : List Offer) : List OfferStatus :=
  (offers.map Offer.status).filter isExecutorOffer

def HasSent (offers : List Offer) : Prop :=
  ∃ offer ∈ offers, offer.status = .sent

/-- The statuses of the executor's offer in each status of the order. -/
def expectedExecutors : OrderStatus → List OfferStatus
  | .waiting | .awaitingConfirmation => []
  | .inProgress => [.accepted]
  | .awaitingCompletionConfirmation => [.workSubmitted]
  | .completionDisputed => [.backForOverride]
  | .completed => [.completed]

/-- The offers are the ones the status of the order calls for. -/
structure OrderTables.Coupled (tables : OrderTables) : Prop where
  executors : executorStatuses tables.offers = expectedExecutors tables.order.status
  sent : HasSent tables.offers ↔ tables.order.status = .awaitingConfirmation

@[simp]
theorem executorStatuses_nil : executorStatuses [] = [] := rfl

@[simp]
theorem hasSent_nil : ¬HasSent [] := by
  simp [HasSent]

@[simp]
theorem executorStatuses_append (first second : List Offer) :
    executorStatuses (first ++ second) = executorStatuses first ++ executorStatuses second := by
  simp [executorStatuses]

@[simp]
theorem executorStatuses_cons (offer : Offer) (offers : List Offer) :
    executorStatuses (offer :: offers) =
      (if isExecutorOffer offer.status then [offer.status] else []) ++ executorStatuses offers := by
  cases isExecutor : isExecutorOffer offer.status <;> simp [executorStatuses, isExecutor]

@[simp]
theorem hasSent_append (first second : List Offer) :
    HasSent (first ++ second) ↔ HasSent first ∨ HasSent second := by
  simp [HasSent, or_and_right, exists_or]

@[simp]
theorem hasSent_cons (offer : Offer) (offers : List Offer) :
    HasSent (offer :: offers) ↔ offer.status = .sent ∨ HasSent offers := by
  simp [HasSent]

theorem executorStatuses_eq_nil_iff {offers : List Offer} :
    executorStatuses offers = [] ↔ ∀ offer ∈ offers, isExecutorOffer offer.status = false := by
  simp [executorStatuses]

@[simp]
theorem Offer.withStatus_status (now : Date) (status : OfferStatus) (offer : Offer) :
    (offer.withStatus now status).status = status := rfl

@[simp]
theorem Offer.withStatus_id (now : Date) (status : OfferStatus) (offer : Offer) :
    (offer.withStatus now status).id = offer.id := rfl

theorem mem_updateOffers {now : Date} {status : OfferStatus} {ids : List Uuid}
    {offers : List Offer} {row : Offer} :
    row ∈ updateOffers now status ids offers ↔
      (∃ old ∈ offers, old.id ∈ ids ∧ row = old.withStatus now status) ∨
        (row ∈ offers ∧ row.id ∉ ids) := by
  rw [updateOffers, Rows.mem_updateWhere]
  constructor
  · rintro ⟨old, mem, rfl⟩
    by_cases chosen : old.id ∈ ids
    · rw [if_pos chosen]
      exact Or.inl ⟨old, mem, chosen, rfl⟩
    · rw [if_neg chosen]
      exact Or.inr ⟨mem, chosen⟩
  · rintro (⟨old, mem, chosen, rfl⟩ | ⟨mem, notChosen⟩)
    · exact ⟨old, mem, (if_pos chosen).symm⟩
    · exact ⟨row, mem, (if_neg notChosen).symm⟩

theorem exists_split_updateOffers {tables : OrderTables} (keyed : tables.WellKeyed)
    {offer : Offer} (mem : offer ∈ tables.offers) (now : Date) (status : OfferStatus) :
    ∃ before after, tables.offers = before ++ offer :: after ∧
      updateOffers now status [offer.id] tables.offers =
        before ++ offer.withStatus now status :: after ∧
      ∀ other ∈ before ++ after, other.id ≠ offer.id := by
  rcases Rows.exists_split_updateWhere keyed.offerIds mem (Offer.withStatus now status) with
    ⟨before, after, split, updated, others⟩
  refine ⟨before, after, split, ?_, others⟩
  rw [← updated, updateOffers]
  simp only [List.mem_singleton]

namespace OrderTransitionCommand.Allowed

variable {environment : Environment} {command : OrderTransitionCommand} {tables : OrderTables}
  {offer : Offer}

theorem mem (allowed : command.Allowed environment tables offer) : offer ∈ tables.offers := by
  have resolved := allowed.resolved
  simp only [OrderTransitionService.resolved?] at resolved
  split at resolved <;> exact List.mem_of_find?_eq_some resolved

theorem active (allowed : command.Allowed environment tables offer)
    (notSubmitted : command.type ≠ .offerSubmitted) : isActiveOffer offer.status = true := by
  apply isActiveOffer_of_mem_precondition notSubmitted
  cases command with
  | offerSubmitted _ _ _ => exact absurd rfl notSubmitted
  | _ => exact allowed.precondition offer.status rfl

end OrderTransitionCommand.Allowed

theorem active_of_after {environment : Environment} {command : OrderTransitionCommand}
    {tables : OrderTables} {offer row : Offer} {now : Date} (keyed : tables.WellKeyed)
    (allowed : command.Allowed environment tables offer)
    (notSubmitted : command.type ≠ .offerSubmitted)
    (mem : row ∈ (command.after now offer tables).offers)
    (active : isActiveOffer row.status = true) :
    ∃ old ∈ tables.offers, old.companyId = row.companyId ∧ isActiveOffer old.status = true := by
  have single : ∀ status, row ∈ updateOffers now status [offer.id] tables.offers →
      ∃ old ∈ tables.offers, old.companyId = row.companyId ∧ isActiveOffer old.status = true := by
    intro status rowMem
    rcases mem_updateOffers.mp rowMem with ⟨old, oldMem, chosen, rfl⟩ | ⟨oldMem, _⟩
    · have same : old = offer :=
        Rows.eq_of_key keyed.offerIds oldMem allowed.mem (List.mem_singleton.mp chosen)
      exact ⟨old, oldMem, rfl, same ▸ allowed.active notSubmitted⟩
    · exact ⟨row, oldMem, rfl, active⟩
  cases command with
  | offerSubmitted _ _ _ => exact absurd rfl notSubmitted
  | offerAccepted _ _ _ =>
      rcases mem_updateOffers.mp mem with ⟨_, _, _, rfl⟩ | ⟨middle, _⟩
      · cases active
      · exact single _ middle
  | _ => exact single _ mem

/-- An offer in play after a change was in play before, or has just been submitted. -/
theorem OrderChange.active_source {tables next : OrderTables} {kind : RequestKind}
    (keyed : tables.WellKeyed) (change : OrderChange tables kind next) {row : Offer}
    (mem : row ∈ next.offers) (active : isActiveOffer row.status = true) :
    (∃ old ∈ tables.offers, old.companyId = row.companyId ∧ isActiveOffer old.status = true) ∨
      ∃ environment editedAt dto,
        kind = .offerSubmission environment editedAt row.companyId dto := by
  cases change with
  | offerCreated environment editedAt companyId dto _ _ _ =>
      rcases List.mem_append.mp mem with old | new
      · exact Or.inl ⟨row, old, rfl, active⟩
      · rw [List.mem_singleton.mp new]
        exact Or.inr ⟨environment, editedAt, dto, rfl⟩
  | offerEdited existing environment editedAt dto _ _ _ _ =>
      rcases Rows.mem_updateWhere.mp mem with ⟨old, oldMem, rfl⟩
      split at active
      · rename_i sameCompany
        rw [if_pos sameCompany]
        exact Or.inr ⟨environment, editedAt, dto, by rw [Offer.edit_companyId, sameCompany]⟩
      · rename_i otherCompany
        rw [if_neg otherCompany]
        exact Or.inl ⟨old, oldMem, rfl, active⟩
  | transition environment command offer allowed plain =>
      exact Or.inl (active_of_after keyed allowed plain.1 mem active)
  | workSubmitted environment orderId offer submission allowed _ _ =>
      have notSubmitted : (OrderTransitionCommand.workSubmitted orderId).type ≠
          .offerSubmitted := by simp [OrderTransitionCommand.type]
      exact Or.inl (active_of_after keyed allowed notSubmitted mem active)
  | offersDropped demoIds => exact Or.inl ⟨row, List.mem_of_mem_filter mem, rfl, active⟩
  | _ => exact Or.inl ⟨row, mem, rfl, active⟩

namespace OrderTables.Coupled

variable {tables : OrderTables} {now : Date}

theorem leave (coupled : tables.Coupled) (keyed : tables.WellKeyed) {offer : Offer}
    (mem : offer ∈ tables.offers) (isSent : offer.status = .sent) {status : OfferStatus}
    (out : status ≠ .sent ∧ isExecutorOffer status = false) :
    (OrderTransitionCommand.leave now status offer tables).Coupled := by
  have awaiting := coupled.sent.mp ⟨offer, mem, isSent⟩
  rcases exists_split_updateOffers keyed mem now status with
    ⟨before, after, split, updated, others⟩
  have none := coupled.executors
  rw [awaiting, split] at none
  simp only [expectedExecutors, executorStatuses_append, executorStatuses_cons,
    List.append_eq_nil_iff] at none
  have remaining : 0 < (OrderTransitionService.otherSentOffers tables offer).length ↔
      HasSent before ∨ HasSent after := by
    rw [← hasSent_append, List.length_pos_iff_exists_mem]
    simp only [OrderTransitionService.otherSentOffers, split, List.mem_filter, HasSent]
    constructor
    · rintro ⟨other, otherMem, fits⟩
      simp only [Bool.and_eq_true, beq_iff_eq, bne_iff_ne] at fits
      refine ⟨other, ?_, fits.1⟩
      simp only [List.mem_append, List.mem_cons] at otherMem ⊢
      rcases otherMem with old | rfl | old
      · exact Or.inl old
      · exact absurd rfl fits.2
      · exact Or.inr old
    · rintro ⟨other, otherMem, fits⟩
      refine ⟨other, ?_, ?_⟩
      · simp only [List.mem_append, List.mem_cons] at otherMem ⊢
        tauto
      · simp [fits, others other otherMem]
  by_cases some : 0 < (OrderTransitionService.otherSentOffers tables offer).length
  · refine ⟨?_, ?_⟩
    · simp [OrderTransitionCommand.leave, updated, some, out.2, none.1, none.2.2, expectedExecutors]
    · simp [OrderTransitionCommand.leave, updated, some, out.1, remaining.mp some]
  · refine ⟨?_, ?_⟩
    · simp [OrderTransitionCommand.leave, updated, some, out.2, none.1, none.2.2, expectedExecutors]
    · simp [OrderTransitionCommand.leave, updated, some, out.1, ← remaining]

/-- Every rival of the accepted offer loses: none of the others is sent or executes. -/
theorem rivals_lose (now : Date) (coupled : tables.Coupled) (keyed : tables.WellKeyed)
    (awaiting : tables.order.status = .awaitingConfirmation) {offer : Offer} {part : List Offer}
    (within : ∀ other ∈ part, other ∈ tables.offers)
    (others : ∀ other ∈ part, other.id ≠ offer.id) :
    let losers := updateOffers now .notAccepted
      ((OrderTransitionService.otherSentOffers tables offer).map Offer.id) part
    executorStatuses losers = [] ∧ ¬HasSent losers := by
  have noExecutor := coupled.executors
  rw [awaiting, expectedExecutors, executorStatuses_eq_nil_iff] at noExecutor
  have lost : ∀ loser ∈ updateOffers now .notAccepted
      ((OrderTransitionService.otherSentOffers tables offer).map Offer.id) part,
      isExecutorOffer loser.status = false ∧ loser.status ≠ .sent := by
    intro loser loserMem
    rcases Rows.mem_updateWhere.mp loserMem with ⟨other, otherMem, rfl⟩
    by_cases isSent : other.status = .sent
    · have isRival : other.id ∈
          (OrderTransitionService.otherSentOffers tables offer).map Offer.id := by
        refine List.mem_map_of_mem (List.mem_filter.mpr ⟨within other otherMem, ?_⟩)
        simp [isSent, others other otherMem]
      rw [if_pos isRival]
      simp [isExecutorOffer, executorOfferStatuses, executingOfferStatuses]
    · have notRival : other.id ∉
          (OrderTransitionService.otherSentOffers tables offer).map Offer.id := by
        intro isRival
        rcases List.mem_map.mp isRival with ⟨rival, rivalMem, sameId⟩
        rcases List.mem_filter.mp rivalMem with ⟨mem, fits⟩
        have same := Rows.eq_of_key keyed.offerIds mem (within other otherMem) sameId
        rw [same] at fits
        simp [isSent] at fits
      rw [if_neg notRival]
      exact ⟨noExecutor other (within other otherMem), isSent⟩
  refine ⟨executorStatuses_eq_nil_iff.mpr fun loser mem => (lost loser mem).1, ?_⟩
  rintro ⟨loser, mem, isSent⟩
  exact (lost loser mem).2 isSent

theorem accept (coupled : tables.Coupled) (keyed : tables.WellKeyed) {offer : Offer}
    (mem : offer ∈ tables.offers) (awaiting : tables.order.status = .awaitingConfirmation)
    {orderId offerId : Uuid} {seen : Option String} :
    ((OrderTransitionCommand.offerAccepted orderId offerId seen).after now offer
      tables).Coupled := by
  rcases exists_split_updateOffers keyed mem now .accepted with
    ⟨before, after, split, updated, others⟩
  have within : ∀ other ∈ before ++ after, other ∈ tables.offers := by
    intro other otherMem
    rw [split]
    simp only [List.mem_append, List.mem_cons] at otherMem ⊢
    tauto
  have first := rivals_lose now coupled keyed awaiting
    (fun other otherMem => within other (List.mem_append_left after otherMem))
    (fun other otherMem => others other (List.mem_append_left after otherMem))
  have last := rivals_lose now coupled keyed awaiting
    (fun other otherMem => within other (List.mem_append_right before otherMem))
    (fun other otherMem => others other (List.mem_append_right before otherMem))
  have notRival : offer.id ∉
      (OrderTransitionService.otherSentOffers tables offer).map Offer.id := by
    intro isRival
    rcases List.mem_map.mp isRival with ⟨rival, rivalMem, sameId⟩
    have fits := (List.mem_filter.mp rivalMem).2
    simp [sameId] at fits
  have offersAfter : ((OrderTransitionCommand.offerAccepted orderId offerId seen).after now offer
      tables).offers =
        updateOffers now .notAccepted
          ((OrderTransitionService.otherSentOffers tables offer).map Offer.id) before ++
        offer.withStatus now .accepted ::
          updateOffers now .notAccepted
            ((OrderTransitionService.otherSentOffers tables offer).map Offer.id) after := by
    simp only [OrderTransitionCommand.after, updated]
    rw [updateOffers, Rows.updateWhere_append, Rows.updateWhere_cons_of_not]
    · rfl
    · exact notRival
  refine ⟨?_, ?_⟩
  · rw [offersAfter]
    simp [first.1, last.1, isExecutorOffer, executorOfferStatuses, executingOfferStatuses,
      OrderTransitionCommand.after, expectedExecutors]
  · rw [offersAfter]
    simp [first.2, last.2, OrderTransitionCommand.after]

theorem work (coupled : tables.Coupled) (keyed : tables.WellKeyed) {offer : Offer}
    (mem : offer ∈ tables.offers) (isExecutor : isExecutorOffer offer.status = true)
    {status : OfferStatus} {orderStatus : OrderStatus}
    (expected : expectedExecutors orderStatus = [status]) (executes : isExecutorOffer status = true)
    {next : OrderTables} (nextStatus : next.order.status = orderStatus)
    (nextOffers : next.offers = updateOffers now status [offer.id] tables.offers) :
    next.Coupled := by
  rcases exists_split_updateOffers keyed mem now status with ⟨before, after, split, updated, others⟩
  have sole := coupled.executors
  rw [split, executorStatuses_append, executorStatuses_cons, if_pos isExecutor] at sole
  have length := congrArg List.length sole
  have atMostOne : (expectedExecutors tables.order.status).length ≤ 1 := by
    cases tables.order.status <;> decide
  simp only [List.length_append, List.length_cons, List.length_nil] at length
  have noneBefore : executorStatuses before = [] := List.eq_nil_of_length_eq_zero (by omega)
  have noneAfter : executorStatuses after = [] := List.eq_nil_of_length_eq_zero (by omega)
  have notAwaiting : tables.order.status ≠ .awaitingConfirmation := by
    intro awaiting
    rw [awaiting] at length
    simp only [expectedExecutors, List.length_nil] at length
    omega
  have noneSent : ¬HasSent (before ++ offer :: after) := by
    rw [← split, coupled.sent]
    exact notAwaiting
  simp only [hasSent_append, hasSent_cons, not_or] at noneSent
  refine ⟨?_, ?_⟩
  · rw [nextOffers, updated, nextStatus, expected]
    simp [noneBefore, noneAfter, executes]
  · rw [nextOffers, updated, nextStatus]
    have notSent : status ≠ .sent := by
      rintro rfl
      cases executes
    have elsewhere : orderStatus ≠ .awaitingConfirmation := by
      rintro rfl
      cases expected
    simp [noneSent.1, noneSent.2.2, notSent, elsewhere]

theorem blind (tables : OrderTables) (notifications : List Notification) :
    ({ tables with notifications } : OrderTables).Coupled ↔ tables.Coupled :=
  ⟨fun coupled => ⟨coupled.executors, coupled.sent⟩,
    fun coupled => ⟨coupled.executors, coupled.sent⟩⟩

theorem of_work (coupled : tables.Coupled) (keyed : tables.WellKeyed) {environment : Environment}
    {command : OrderTransitionCommand} {offer : Offer}
    (allowed : command.Allowed environment tables offer) (isWork : command.offerId = none)
    {status : OfferStatus} {orderStatus : OrderStatus}
    (expected : expectedExecutors orderStatus = [status]) (executes : isExecutorOffer status = true)
    {next : OrderTables} (nextStatus : next.order.status = orderStatus)
    (nextOffers : next.offers = updateOffers now status [offer.id] tables.offers) :
    next.Coupled := by
  have resolved := allowed.resolved
  simp only [OrderTransitionService.resolved?, isWork] at resolved
  exact coupled.work keyed allowed.mem (by simpa using List.find?_some resolved) expected executes
    nextStatus nextOffers

/-- No change a request can make uncouples the offers from the status of the order. -/
theorem preserved {next : OrderTables} (keyed : tables.WellKeyed)
    {kind : RequestKind} (change : OrderChange tables kind next) (coupled : tables.Coupled) :
    next.Coupled := by
  cases change with
  | offerCreated environment _ companyId dto accepts _ _ =>
      have none : executorStatuses tables.offers = [] := by
        rw [coupled.executors]
        cases status : tables.order.status <;> simp_all [expectedExecutors, acceptsOffers,
          offerEligibleOrderStatuses]
      refine ⟨?_, ?_⟩
      · simp [none, isExecutorOffer, executorOfferStatuses, executingOfferStatuses,
          expectedExecutors]
      · simp
  | offerEdited existing environment editedAt dto accepts mem resubmittable _ =>
      have none : executorStatuses tables.offers = [] := by
        rw [coupled.executors]
        cases status : tables.order.status <;> simp_all [expectedExecutors, acceptsOffers,
          offerEligibleOrderStatuses]
      rcases Rows.exists_split_updateWhere keyed.companies mem
        (Offer.edit editedAt environment.now dto) with
        ⟨before, after, split, updated, _⟩
      rw [split] at none
      simp only [executorStatuses_append, executorStatuses_cons, List.append_eq_nil_iff] at none
      refine ⟨?_, ?_⟩
      · simp only [editOffers, updated]
        simp [none.1, none.2.2, isExecutorOffer, executorOfferStatuses, executingOfferStatuses,
          expectedExecutors]
      · simp only [editOffers, updated]
        simp
  | transition environment command offer allowed plain =>
      cases command with
      | offerSubmitted _ _ _ => exact absurd rfl plain.1
      | workSubmitted _ => exact absurd rfl plain.2
      | offerWithdrawn _ _ =>
          have isSent : offer.status = .sent :=
            List.mem_singleton.mp (allowed.precondition offer.status rfl)
          exact coupled.leave keyed allowed.mem isSent ⟨by decide, by decide⟩
      | offerRejected _ _ =>
          have isSent : offer.status = .sent :=
            List.mem_singleton.mp (allowed.precondition offer.status rfl)
          exact coupled.leave keyed allowed.mem isSent ⟨by decide, by decide⟩
      | offerAccepted _ _ _ =>
          have isSent : offer.status = .sent :=
            List.mem_singleton.mp (allowed.precondition offer.status rfl)
          exact coupled.accept keyed allowed.mem (coupled.sent.mp ⟨offer, allowed.mem, isSent⟩)
      | workConfirmed _ _ => exact coupled.of_work keyed allowed rfl rfl rfl rfl rfl
      | workDisputed _ _ => exact coupled.of_work keyed allowed rfl rfl rfl rfl rfl
  | workSubmitted environment orderId offer submission allowed _ _ =>
      exact coupled.of_work keyed allowed rfl rfl rfl rfl rfl
  | offersDropped demoIds =>
      have kept : ∀ offer ∈ tables.offers, isActiveOffer offer.status = true →
          (!offer.isDemoTrace demoIds) = true := by
        intro offer _ active
        simp [Offer.isDemoTrace, active]
      refine ⟨?_, ?_⟩
      · rw [← coupled.executors]
        simp only [executorStatuses, List.filter_map, List.filter_filter]
        congr 1
        apply List.filter_congr
        intro offer mem
        cases isExecutor : isExecutorOffer offer.status
        · simp [isExecutor]
        · simp [isExecutor, kept offer mem ((isActiveOffer_iff _).mpr (Or.inr isExecutor))]
      · rw [← coupled.sent]
        constructor
        · rintro ⟨offer, mem, isSent⟩
          exact ⟨offer, List.mem_of_mem_filter mem, isSent⟩
        · rintro ⟨offer, mem, isSent⟩
          exact ⟨offer, List.mem_filter.mpr
            ⟨mem, kept offer mem ((isActiveOffer_iff _).mpr (Or.inl isSent))⟩, isSent⟩
  | submissionOpened _ _ _ _ _ => exact ⟨coupled.executors, coupled.sent⟩
  | submissionFilled _ _ _ _ _ _ _ => exact ⟨coupled.executors, coupled.sent⟩
  | clientFilesAdded _ _ => exact ⟨coupled.executors, coupled.sent⟩
  | areaVerified _ _ _ => exact ⟨coupled.executors, coupled.sent⟩

theorem executor_status (coupled : tables.Coupled) {first second : Offer}
    (firstMem : first ∈ tables.offers) (firstExecutes : isExecutorOffer first.status = true)
    (secondMem : second ∈ tables.offers) (secondExecutes : isExecutorOffer second.status = true) :
    first.status = second.status := by
  have listed : ∀ offer ∈ tables.offers, isExecutorOffer offer.status = true →
      offer.status ∈ expectedExecutors tables.order.status := by
    intro offer mem executes
    rw [← coupled.executors]
    exact List.mem_filter.mpr ⟨List.mem_map_of_mem mem, executes⟩
  have inFirst := listed first firstMem firstExecutes
  have inSecond := listed second secondMem secondExecutes
  cases status : tables.order.status <;> rw [status] at inFirst inSecond <;>
    simp_all [expectedExecutors]

/-- The work event of a status finds the executor's offer, in a status it may start from. -/
theorem work_allowed (coupled : tables.Coupled) (environment : Environment)
    {command : OrderTransitionCommand} (isWork : command.offerId = none)
    (sameOrder : command.orderId = tables.order.id)
    (listed : command.type ∈ orderTransitions tables.order.status) :
    ∃ offer, command.Allowed environment tables offer := by
  have executors := coupled.executors
  have expected : ∃ status ∈ offerPreconditions command.type,
      expectedExecutors tables.order.status = [status] := by
    cases command <;> cases isWork <;> cases status : tables.order.status <;>
      simp [OrderTransitionCommand.type, orderTransitions, status] at listed <;>
      exact ⟨_, by simp [OrderTransitionCommand.type, offerPreconditions], rfl⟩
  rcases expected with ⟨status, precondition, sole⟩
  rw [sole] at executors
  have isExecutor : status ∈ executorStatuses tables.offers := by
    rw [executors]
    exact List.mem_singleton_self status
  simp only [executorStatuses, List.mem_filter, List.mem_map] at isExecutor
  rcases isExecutor with ⟨⟨offer, mem, rfl⟩, executes⟩
  cases resolved : tables.offers.find? (isExecutorOffer ·.status) with
  | none => exact absurd executes (List.find?_eq_none.mp resolved offer mem)
  | some found =>
      have foundStatus : found.status = offer.status :=
        coupled.executor_status (List.mem_of_find?_eq_some resolved)
          (by simpa using List.find?_some resolved) mem executes
      refine ⟨found, sameOrder, ?_, listed, ?_, ?_⟩
      · rw [OrderTransitionService.resolved?, isWork]
        exact resolved
      · intro checked isChecked
        cases command <;> cases isWork <;> cases isChecked <;> exact foundStatus ▸ precondition
      · cases command <;> cases isWork <;> trivial

theorem work_allowed_iff (coupled : tables.Coupled) {environment : Environment}
    {command : OrderTransitionCommand} (isWork : command.offerId = none)
    (sameOrder : command.orderId = tables.order.id) :
    (∃ offer, command.Allowed environment tables offer) ↔
      ∃ offer ∈ tables.offers, isExecutorOffer offer.status = true ∧
        canTransition tables.order.status command.type (some offer.status) = true := by
  constructor
  · rintro ⟨offer, allowed⟩
    have resolved := allowed.resolved
    rw [OrderTransitionService.resolved?, isWork] at resolved
    refine ⟨offer, allowed.mem, by simpa using List.find?_some resolved, ?_⟩
    have precondition : offer.status ∈ offerPreconditions command.type := by
      apply allowed.precondition
      cases command <;> cases isWork <;> rfl
    simp [canTransition, allowed.listed, precondition]
  · rintro ⟨offer, mem, executes, allowed⟩
    simp only [canTransition, Bool.and_eq_true, List.contains_iff_mem] at allowed
    exact coupled.work_allowed environment isWork sameOrder allowed.1

theorem awaits_of_sent (coupled : tables.Coupled) {offer : Offer} (mem : offer ∈ tables.offers)
    (isSent : offer.status = .sent) : tables.order.status = .awaitingConfirmation :=
  coupled.sent.mp ⟨offer, mem, isSent⟩

theorem executor_of_closed (coupled : tables.Coupled)
    (closed : acceptsOffers tables.order.status = false) :
    ∃ executor ∈ tables.offers, isExecutorOffer executor.status = true := by
  have executors := coupled.executors
  by_contra absent
  rw [executorStatuses_eq_nil_iff.mpr] at executors
  · cases status : tables.order.status <;> rw [status] at executors closed <;>
      first | exact absurd executors (by decide) | exact absurd closed (by decide)
  · intro offer mem
    by_contra executes
    exact absent ⟨offer, mem, by simpa using executes⟩

/-- Read the other way: the offers determine the status. -/
theorem status_iff (coupled : tables.Coupled) (status : OrderStatus) :
    tables.order.status = status ↔
      (HasSent tables.offers ↔ status = .awaitingConfirmation) ∧
        executorStatuses tables.offers = expectedExecutors status := by
  constructor
  · rintro rfl
    exact ⟨coupled.sent, coupled.executors⟩
  · rintro ⟨sent, executors⟩
    rw [coupled.sent] at sent
    rw [coupled.executors] at executors
    cases actual : tables.order.status <;> cases status <;>
      simp_all [expectedExecutors]

theorem of_fresh (fresh : tables.Fresh) : tables.Coupled := by
  refine ⟨?_, ?_⟩
  · simp [fresh.noOffers, fresh.waiting, executorStatuses, expectedExecutors]
  · simp [fresh.noOffers, fresh.waiting, HasSent]

end OrderTables.Coupled

/-- The state of an order after the requests, from its creation on. -/
def reached (id : Uuid) (orderNumber : ℕ) (now : Date) (clientId : Uuid) (dto : CreateOrderDto)
    (requests : List Request) : World :=
  Runs.run World.step (World.ofTables (OrdersService.createOrder id orderNumber now clientId dto))
    requests

theorem reached_append (id : Uuid) (orderNumber : ℕ) (now : Date) (clientId : Uuid)
    (dto : CreateOrderDto) (requests later : List Request) :
    reached id orderNumber now clientId dto (requests ++ later) =
      Runs.run World.step (reached id orderNumber now clientId dto requests) later :=
  Runs.run_append World.step _ requests later

theorem reached_coupled (id : Uuid) (orderNumber : ℕ) (now : Date) (clientId : Uuid)
    (dto : CreateOrderDto) (requests : List Request) :
    (reached id orderNumber now clientId dto requests).WellFormed ∧
      (reached id orderNumber now clientId dto requests).tables.Coupled := by
  have fresh := OrdersService.createOrder_fresh id orderNumber now clientId dto
  exact World.run_tables_invariant OrderTables.Coupled.blind
    (fun _ _ _ keyed change coupled => coupled.preserved keyed change)
    (World.wellFormed_ofTables fresh) (OrderTables.Coupled.of_fresh fresh) requests

/-- Whatever requests an order has been through, its status determines its offers, a company has
at most one of them, and a work event of its status finds the executor ready for it. -/
theorem order_status_determines_offers (id : Uuid) (orderNumber : ℕ) (now : Date)
    (clientId : Uuid) (dto : CreateOrderDto) (requests : List Request) :
    let tables := (reached id orderNumber now clientId dto requests).tables
    (tables.order.status = .waiting ↔
        ¬HasSent tables.offers ∧ executorStatuses tables.offers = []) ∧
      (tables.order.status = .awaitingConfirmation ↔
        HasSent tables.offers ∧ executorStatuses tables.offers = []) ∧
      (tables.order.status = .inProgress ↔
        executorStatuses tables.offers = [.accepted] ∧ ¬HasSent tables.offers) ∧
      (tables.order.status = .awaitingCompletionConfirmation ↔
        executorStatuses tables.offers = [.workSubmitted] ∧ ¬HasSent tables.offers) ∧
      (tables.order.status = .completionDisputed ↔
        executorStatuses tables.offers = [.backForOverride] ∧ ¬HasSent tables.offers) ∧
      (tables.order.status = .completed ↔
        executorStatuses tables.offers = [.completed] ∧ ¬HasSent tables.offers) ∧
      (tables.offers.map Offer.companyId).Nodup ∧
      ∀ (environment : Environment) (command : OrderTransitionCommand),
        command.offerId = none → command.orderId = tables.order.id →
          command.type ∈ orderTransitions tables.order.status →
            ∃ offer, command.Allowed environment tables offer := by
  intro tables
  rcases reached_coupled id orderNumber now clientId dto requests with ⟨wellFormed, isCoupled⟩
  have coupled : tables.Coupled := isCoupled
  have status := coupled.status_iff
  refine ⟨?_, ?_, ?_, ?_, ?_, ?_, wellFormed.keyed.companies, ?_⟩
  · simpa [expectedExecutors] using status .waiting
  · simpa [expectedExecutors] using status .awaitingConfirmation
  · simpa [expectedExecutors, and_comm] using status .inProgress
  · simpa [expectedExecutors, and_comm] using status .awaitingCompletionConfirmation
  · simpa [expectedExecutors, and_comm] using status .completionDisputed
  · simpa [expectedExecutors, and_comm] using status .completed
  · intro environment command isWork sameOrder listed
    exact coupled.work_allowed environment isWork sameOrder listed

end MyBuild
