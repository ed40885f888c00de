import MyBuild.Orders.Coupling
import MyBuild.Orders.Detail
import MyBuild.Orders.Outsider

/-!
# What an order that moves shows to bystanders

A transition writes the order and some of its offers.  Whoever does not own the order and whose
own offer is not written sees no difference, unless the order has entered or left the feed.  The
moment of the last write is apart from that: the row has it from every transition, and a company
that waits for the choice of the client is shown it.
-/

namespace MyBuild

/-- The card without the moment of the last write. -/
def OrderDetail.undated (detail : OrderDetail) : OrderDetail := { detail with updatedAt := "" }

def OrderTables.ownOffer (viewer : Uuid) (tables : OrderTables) : Option Offer :=
  tables.offers.find? (·.companyId == viewer)

/-- The columns of an order that a transition does not write. -/
structure Order.SameTask (before after : Order) : Prop where
  id : after.id = before.id
  orderNumber : after.orderNumber = before.orderNumber
  clientId : after.clientId = before.clientId
  title : after.title = before.title
  category : after.category = before.category
  objectType : after.objectType = before.objectType
  description : after.description = before.description
  address : after.address = before.address
  squareMeters : after.squareMeters = before.squareMeters
  verifiedSquareMeters : after.verifiedSquareMeters = before.verifiedSquareMeters
  clientBudget : after.clientBudget = before.clientBudget
  desiredStartDate : after.desiredStartDate = before.desiredStartDate
  createdAt : after.createdAt = before.createdAt

/-- Neither the owner nor the executor, and with the same offer before and after. -/
structure OrderTables.Bystander (viewer : Uuid) (before after : OrderTables) : Prop where
  notOwner : before.order.clientId ≠ viewer
  notExecutor : (before.ownOffer viewer).any (isExecutorOffer ·.status) = false
  own : after.ownOffer viewer = before.ownOffer viewer

/-- The order has neither entered nor left the feed, and moved on only behind the back of the
viewer. -/
structure OrderTables.SameProgress (viewer : Uuid) (before after : OrderTables) : Prop where
  accepts : acceptsOffers after.order.status = acceptsOffers before.order.status
  progress : (before.ownOffer viewer).any (isActiveOffer ·.status) = true →
    after.order.status = before.order.status ∧ after.order.price = before.order.price ∧
      after.order.deadline = before.order.deadline

namespace OrderTables

variable {users : Uuid → User} {viewer : Uuid} {tables before after : OrderTables}

/-- What a bystander may see. -/
theorem visibility_bystander (companies : (tables.offers.map Offer.companyId).Nodup)
    (notOwner : tables.order.clientId ≠ viewer)
    (notExecutor : (tables.ownOffer viewer).any (isExecutorOffer ·.status) = false) :
    let view := resolveVisibility (OrdersService.detailRow users tables).toOrderRow viewer
    view.isOwner = false ∧ view.ownOffer = (tables.ownOffer viewer).map (Offer.toRow users) ∧
      view.seesProgress = (tables.ownOffer viewer).any (isActiveOffer ·.status) ∧
      view.isParty = false := by
  intro view
  have other : (tables.order.clientId == viewer) = false := by simpa using notOwner
  rcases @OrdersService.visibility_eq users tables viewer companies with
    ⟨isOwner, ownOffer, seesProgress, isParty⟩
  rw [other, Bool.false_or] at seesProgress isParty
  exact ⟨isOwner.trans other, ownOffer, seesProgress, isParty.trans notExecutor⟩

theorem companySeesTaskFiles_eq {status : OrderStatus} {own : Option Offer}
    (notExecutor : own.any (isExecutorOffer ·.status) = false) :
    companySeesTaskFiles status ((own.map (Offer.toRow users)).map fun offer => offer.status) =
      acceptsOffers status := by
  cases own with
  | none => rfl
  | some offer =>
      simp only [Option.any_some] at notExecutor
      simp [companySeesTaskFiles, Offer.toRow, notExecutor]

/-- A bystander sees an order that has made no progress for it as before. -/
theorem card_undated_eq (companies : (before.offers.map Offer.companyId).Nodup)
    (stillCompanies : (after.offers.map Offer.companyId).Nodup)
    (task : before.order.SameTask after.order) (files : after.files = before.files)
    (bystander : before.Bystander viewer after) (same : before.SameProgress viewer after) :
    (OrdersService.card users after viewer).undated =
      (OrdersService.card users before viewer).undated := by
  have notOwner : after.order.clientId ≠ viewer := by
    rw [task.clientId]
    exact bystander.notOwner
  have notExecutor : (after.ownOffer viewer).any (isExecutorOffer ·.status) = false := by
    rw [bystander.own]
    exact bystander.notExecutor
  rcases @visibility_bystander users viewer before companies bystander.notOwner
    bystander.notExecutor with ⟨isOwner, ownOffer, seesProgress, isParty⟩
  rcases @visibility_bystander users viewer after stillCompanies notOwner notExecutor with
    ⟨isOwner', ownOffer', seesProgress', isParty'⟩
  rw [bystander.own] at ownOffer' seesProgress'
  have statusOf : ∀ tables, (OrdersService.detailRow users tables).status = tables.order.status :=
    fun _ => rfl
  simp only [OrdersService.card, toOrderDetail, toOrderListItem, OrderDetail.undated,
    visibleFiles, visibleOffers, isOwner, ownOffer, seesProgress, isParty, isOwner', ownOffer',
    seesProgress', isParty', statusOf, companySeesTaskFiles_eq bystander.notExecutor,
    canTransition_offerSubmitted, same.accepts]
  simp only [OrdersService.detailRow, FilesService.listOrderFiles, task.id, task.orderNumber,
    task.title, task.category, task.objectType, task.clientBudget, task.createdAt,
    task.description, task.address, task.squareMeters, task.verifiedSquareMeters,
    task.desiredStartDate, files, Bool.false_eq_true, if_false]
  cases active : (before.ownOffer viewer).any (isActiveOffer ·.status) with
  | false => simp only [Bool.false_eq_true, if_false]
  | true =>
      rcases same.progress active with ⟨status, price, deadline⟩
      simp only [status, price, deadline]

end OrderTables

/-- The request is one that moves the order: a submission of an offer or of work, or a plain
transition. -/
def RequestKind.movesOrder : RequestKind → Bool
  | .offerSubmission .. | .workSubmission | .transition .. => true
  | _ => false

namespace OrderChange

variable {kind : RequestKind} {viewer : Uuid} {tables next : OrderTables}

theorem sameTask (change : OrderChange tables kind next) (moves : kind.movesOrder = true) :
    tables.order.SameTask next.order ∧ next.files = tables.files := by
  cases change with
  | offerCreated | offerEdited | workSubmitted => exact ⟨by constructor <;> rfl, rfl⟩
  | transition _ command _ _ _ =>
      cases command <;> exact ⟨by constructor <;> rfl, rfl⟩
  | submissionOpened | submissionFilled | clientFilesAdded | areaVerified | offersDropped =>
      cases moves

/-- Once a company executes the order, every transition changes the status. -/
theorem status_moves (change : OrderChange tables kind next) (moves : kind.movesOrder = true)
    (executed : expectedExecutors tables.order.status ≠ []) :
    next.order.status ≠ tables.order.status := by
  cases change with
  | offerCreated _ _ _ _ accepts | offerEdited _ _ _ _ accepts =>
      cases status : tables.order.status <;> rw [status] at executed accepts
      case waiting | awaitingConfirmation => exact absurd rfl executed
      all_goals cases accepts
  | workSubmitted _ _ _ _ allowed =>
      have listed := allowed.listed
      intro same
      rw [← same] at listed
      revert listed
      simp [OrderTransitionCommand.after, OrderTransitionCommand.type, orderTransitions]
  | transition _ command _ allowed plain =>
      have listed := allowed.listed
      cases status : tables.order.status <;> rw [status] at executed listed
      case waiting | awaitingConfirmation => exact absurd rfl executed
      all_goals
        cases command <;>
          simp_all [OrderTransitionCommand.type, orderTransitions, OrderTransitionCommand.after]
  | submissionOpened | submissionFilled | clientFilesAdded | areaVerified | offersDropped =>
      cases moves

/-- The terms of the deal are written by the transition that moves the order into work. -/
theorem terms_kept (change : OrderChange tables kind next) (moves : kind.movesOrder = true)
    (same : next.order.status = tables.order.status) :
    next.order.price = tables.order.price ∧ next.order.deadline = tables.order.deadline := by
  cases change with
  | offerCreated | offerEdited | workSubmitted => exact ⟨rfl, rfl⟩
  | transition _ command _ allowed _ =>
      cases command with
      | offerAccepted =>
          have listed := allowed.listed
          rw [← same] at listed
          revert listed
          simp [OrderTransitionCommand.after, OrderTransitionCommand.type, orderTransitions]
      | _ => exact ⟨rfl, rfl⟩
  | submissionOpened | submissionFilled | clientFilesAdded | areaVerified | offersDropped =>
      cases moves

end OrderChange

namespace OrderTables.Coupled

variable {kind : RequestKind} {viewer : Uuid} {tables next : OrderTables} {offer : Offer}

theorem expects (coupled : tables.Coupled) (mem : offer ∈ tables.offers)
    (executes : isExecutorOffer offer.status = true) :
    offer.status ∈ expectedExecutors tables.order.status := by
  rw [← coupled.executors]
  exact List.mem_filter.mpr ⟨List.mem_map_of_mem mem, executes⟩

theorem eq_of_expected {first second : OrderStatus} {status : OfferStatus}
    (inFirst : status ∈ expectedExecutors first) (inSecond : status ∈ expectedExecutors second) :
    first = second := by
  cases first <;> cases second <;> first | rfl | simp_all [expectedExecutors]

/-- The executor's offer is written by every transition of its order. -/
theorem not_executor_of_kept (coupled : tables.Coupled) (stillCoupled : next.Coupled)
    (change : OrderChange tables kind next) (moves : kind.movesOrder = true)
    (own : next.ownOffer viewer = tables.ownOffer viewer) :
    (tables.ownOffer viewer).any (isExecutorOffer ·.status) = false := by
  cases found : tables.ownOffer viewer with
  | none => rfl
  | some offer =>
      by_contra isExecutor
      have executes : isExecutorOffer offer.status = true := by simpa using isExecutor
      have before := coupled.expects (List.mem_of_find?_eq_some found) executes
      have after := stillCoupled.expects (List.mem_of_find?_eq_some (own.trans found)) executes
      apply change.status_moves moves
      · intro none
        rw [none] at before
        cases before
      · exact eq_of_expected after before

/-- A company that waits for the client's choice, and whose offer is not written, waits on. -/
theorem waits_on (coupled : tables.Coupled) (stillCoupled : next.Coupled)
    (change : OrderChange tables kind next) (moves : kind.movesOrder = true)
    (own : next.ownOffer viewer = tables.ownOffer viewer)
    (active : (tables.ownOffer viewer).any (isActiveOffer ·.status) = true) :
    next.order.status = tables.order.status ∧ next.order.price = tables.order.price ∧
      next.order.deadline = tables.order.deadline := by
  have notExecutor := coupled.not_executor_of_kept stillCoupled change moves own
  cases found : tables.ownOffer viewer with
  | none =>
      rw [found] at active
      cases active
  | some offer =>
      rw [found] at active notExecutor
      have isSent : offer.status = .sent := by
        rcases (isActiveOffer_iff _).mp active with isSent | executes
        · exact isSent
        · exact absurd executes (by simpa using notExecutor)
      have before := coupled.awaits_of_sent (List.mem_of_find?_eq_some found) isSent
      have after := stillCoupled.awaits_of_sent
        (List.mem_of_find?_eq_some (own.trans found)) isSent
      have same := after.trans before.symm
      exact ⟨same, change.terms_kept moves same⟩

end OrderTables.Coupled

end MyBuild
