import MyBuild.Orders.NamedRequests

/-!
# How a request spells an identifier

The letters of an identifier may come in either case, and the rows do not notice.  What is
kept under the text does: as soon as a request gets to a lane, a scope or a room under the
name of its order, another spelling of the name gets to another one.
-/

namespace MyBuild

/-- A route, or a message of a socket, that names an order.  The limits on frequency and size, and
the checks of the rest of its body, have let the route through; `allowed` and `expired` are what
the rate window and the clock say to the message. -/
inductive OrderRoute where
  | confirm (comment : Option String)
  | dispute (correctionComment : String)
  | submitWork
  | addFiles (declaredBytes : ℕ) (comment : String) (prepared : List PreparedFile)
  | verifyArea (verifiedSquareMeters : Decimal)
  | getOne
  | remove
  | submitOffer (editedAt : Date) (proposedPrice : Decimal) (proposedDeadline : Date)
      (comment : Option String)
  | listDocuments (ownerType : Option FileOwnerType)
  | subscribeOrder (allowed expired : Bool)
  | unsubscribeOrder (allowed : Bool)

inductive NamedRequest where
  | acceptOffer (orderId offerId : UuidText) (dto : AcceptOfferDto)
  | toOrder (orderId : UuidText) (route : OrderRoute)
  | withdrawOffer (offerId : UuidText)
  | rejectOffer (offerId : UuidText)

namespace Serving

def serveOrder (surroundings : Surroundings) (user : AuthUser) (orderId : UuidText) :
    OrderRoute → Serving Unit
  | .confirm comment => confirm surroundings user orderId comment
  | .dispute correctionComment => dispute surroundings user orderId correctionComment
  | .submitWork => submitWork surroundings user orderId
  | .addFiles declaredBytes comment prepared =>
      addFiles surroundings user orderId declaredBytes comment prepared
  | .verifyArea verifiedSquareMeters => verifyArea surroundings user orderId verifiedSquareMeters
  | .getOne => getOne surroundings user orderId
  | .remove => remove surroundings user orderId
  | .submitOffer editedAt proposedPrice proposedDeadline comment =>
      submitOffer surroundings user orderId editedAt proposedPrice proposedDeadline comment
  | .listDocuments ownerType => do
      let _ ← listDocuments user ownerType orderId
  | .subscribeOrder allowed expired => subscribeOrder user allowed expired orderId
  | .unsubscribeOrder allowed => unsubscribeOrder allowed orderId

def serve (surroundings : Surroundings) (user : AuthUser) : NamedRequest → Serving Unit
  | .acceptOffer orderId offerId dto => acceptOffer surroundings user orderId offerId dto
  | .toOrder orderId route => serveOrder surroundings user orderId route
  | .withdrawOffer offerId => withdrawOffer surroundings user offerId
  | .rejectOffer offerId => rejectOffer surroundings user offerId

end Serving

namespace NamedRequest

/-- What the request does when it meets this store. -/
def effects (surroundings : Surroundings) (user : AuthUser) (store : Store)
    (request : NamedRequest) : Effects :=
  (Journal.outcome (Serving.serve surroundings user request) { store, keys := [] }).2

/-- Letters of its identifiers are replaced by their other case. -/
inductive SameButCase : NamedRequest → NamedRequest → Prop
  | acceptOffer {orderId otherOrder offerId otherOffer : UuidText} {dto : AcceptOfferDto}
      (order : orderId.SameButCase otherOrder) (offer : offerId.SameButCase otherOffer) :
      SameButCase (acceptOffer orderId offerId dto) (acceptOffer otherOrder otherOffer dto)
  | toOrder {orderId otherOrder : UuidText} {route : OrderRoute}
      (order : orderId.SameButCase otherOrder) :
      SameButCase (toOrder orderId route) (toOrder otherOrder route)
  | withdrawOffer {offerId otherOffer : UuidText} (offer : offerId.SameButCase otherOffer) :
      SameButCase (withdrawOffer offerId) (withdrawOffer otherOffer)
  | rejectOffer {offerId otherOffer : UuidText} (offer : offerId.SameButCase otherOffer) :
      SameButCase (rejectOffer offerId) (rejectOffer otherOffer)

end NamedRequest

/-- The rows of the order, if the guards of a route let the user in. -/
def Store.admitted (store : Store) (user : AuthUser) (role : Role) (mode : OrderAccessMode)
    (orderId : Uuid) : Option OrderTables :=
  if user.role = some role then
    ((store.orders.find? (·.order.id == orderId)).map World.tables).filter
      (OwnershipGuard.allows mode user)
  else none

/-- The request gets to something that is kept under the name of the order. -/
def OrderRoute.usesName (bodyCheck : BodyCheck) (user : AuthUser) (store : Store)
    (orderId : UuidText) : OrderRoute → Bool
  | .confirm _ | .dispute _ => (store.admitted user .client .owner orderId.value).isSome
  | .submitWork | .addFiles .. => (store.admitted user .company .executor orderId.value).isSome
  | .verifyArea _ =>
      (store.admitted user .company .executor orderId.value).any (canVerifyArea ·.order.status)
  | .remove =>
      (store.admitted user .client .owner orderId.value).any (canDeleteOrder ·.order.status)
  | .submitOffer .. => user.role == some .company && bodyCheck.accepts orderId.text
  | .subscribeOrder allowed expired =>
      allowed && !expired && Serving.isOrderParticipant user.id orderId.value store
  | .unsubscribeOrder allowed => allowed
  | .getOne | .listDocuments _ => false

namespace NamedRequest

def usesName (bodyCheck : BodyCheck) (user : AuthUser) (store : Store) : NamedRequest → Bool
  | acceptOffer orderId _ _ => (store.admitted user .client .owner orderId.value).isSome
  | toOrder orderId route => route.usesName bodyCheck user store orderId
  | withdrawOffer _ | rejectOffer _ => false

/-- Letters in the name of the order. -/
def hasLetters : NamedRequest → Bool
  | acceptOffer orderId _ _ | toOrder orderId _ => orderId.hasLetters
  | withdrawOffer _ | rejectOffer _ => false

end NamedRequest

open Journal

namespace Serving

variable {α : Type} {surroundings : Surroundings} {user : AuthUser} {orderId : UuidText}

theorem starts_useKeys {key : SharedKey} {effects : Effects} :
    Starts Effects.keys key (useKeys [key]) effects :=
  List.prefix_refl _

theorem starts_queue {name : String} {task : Serving α} {effects : Effects}
    (appends : Appends Effects.keys task) :
    Starts Effects.keys (.lane name) (runInOrderQueue surroundings name task) effects := by
  apply starts_useKeys.bind
  intro used
  split
  · exact appends_throw _
  · exact appends

variable {role : Role} {mode : OrderAccessMode} {tables : OrderTables} {effects : Effects}

theorem admitted_eq_some_iff {id : Uuid} :
    effects.store.admitted user role mode id = some tables ↔
      user.role = some role ∧ ∃ world, effects.store.orders.find? (·.order.id == id) = some world ∧
        world.tables = tables ∧ OwnershipGuard.allows mode user tables = true := by
  simp only [Store.admitted]
  by_cases holds : user.role = some role
  · rw [if_pos holds, Option.filter_eq_some_iff, Option.map_eq_some_iff]
    constructor
    · rintro ⟨⟨world, found, isRows⟩, allowed⟩
      exact ⟨holds, world, found, isRows, allowed⟩
    · rintro ⟨_, world, found, isRows, allowed⟩
      exact ⟨⟨world, found, isRows⟩, allowed⟩
  · simp [holds]

/-- Queries leave everything as it is, and an order that is found answers from its rows. -/
theorem outcome_query_of_ok {id : Uuid} {tx : OrderTx α} {world : World} {value : α}
    {next : OrderTables} (found : effects.store.orders.find? (·.order.id == id) = some world)
    (returned : tx.run world.tables = .ok (value, next)) :
    outcome (query id tx) effects = (.ok value, effects) := by
  have ran : outcome (onRows id tx) effects = (.ok (value, next), effects) := by
    simp only [onRows, outcome_get_bind, found, returned]
    rfl
  exact outcome_bind_of_ok ran

theorem outcome_query_of_error {id : Uuid} {tx : OrderTx α} {world : World}
    {error : ApiException}
    (found : effects.store.orders.find? (·.order.id == id) = some world)
    (thrown : tx.run world.tables = .error error) :
    outcome (query id tx) effects = (.error (.refused error), effects) := by
  have ran : outcome (onRows id tx) effects = (.error (.refused error), effects) := by
    simp only [onRows, outcome_get_bind, found, thrown]
    rfl
  exact outcome_bind_of_error ran

theorem outcome_query_of_missing {id : Uuid} {tx : OrderTx α}
    (missing : effects.store.orders.find? (·.order.id == id) = none) :
    outcome (query id tx) effects = (.error (.refused (.notFound "Заказ не найден")), effects) := by
  have ran : outcome (onRows id tx) effects =
      (.error (.refused (.notFound "Заказ не найден")), effects) := by
    simp only [onRows, outcome_get_bind, missing]
    rfl
  exact outcome_bind_of_error ran

theorem outcome_query_state {id : Uuid} {tx : OrderTx α} :
    (outcome (query id tx) effects).2 = effects := by
  have kept := @outcome_onRows α id tx effects
  simp only [query, outcome_bind]
  rcases came : outcome (onRows id tx) effects with ⟨error | value, next⟩ <;> rw [came] at kept
  · exact kept
  · exact kept

theorem outcome_requireRole (holds : user.role = some role) :
    outcome (requireRole user role) effects = (.ok (), effects) := by
  simp only [requireRole, holds]
  rfl

theorem outcome_passGuards (admitted : effects.store.admitted user role mode orderId.value =
    some tables) :
    outcome (passGuards user role mode orderId) effects =
      (.ok (OwnershipGuard.contextOf user tables), effects) := by
  rcases admitted_eq_some_iff.mp admitted with ⟨holds, world, found, rfl, allowed⟩
  have isOrder : world.order.id = orderId.value := by
    simpa using List.find?_some found
  simp only [passGuards]
  rw [outcome_bind_of_ok (outcome_requireRole holds)]
  exact outcome_query_of_ok found (run_ownershipGuard isOrder allowed)

theorem outcome_requireRole_error (lacks : user.role ≠ some role) :
    ∃ error, outcome (requireRole user role) effects = (.error error, effects) := by
  simp only [requireRole]
  cases isRole : user.role with
  | none => exact ⟨_, rfl⟩
  | some held =>
      have other : held ≠ role := by
        rintro rfl
        exact lacks isRole
      simp only [if_neg other]
      exact ⟨_, rfl⟩

theorem outcome_passGuards_error
    (refused : effects.store.admitted user role mode orderId.value = none) :
    ∃ error, outcome (passGuards user role mode orderId) effects = (.error error, effects) := by
  simp only [passGuards]
  by_cases holds : user.role = some role
  · rw [outcome_bind_of_ok (outcome_requireRole holds)]
    cases found : effects.store.orders.find? (·.order.id == orderId.value) with
    | none =>
        exact ⟨_, outcome_query_of_missing found⟩
    | some world =>
        have denied : OwnershipGuard.allows mode user world.tables = false := by
          by_contra allowed
          rw [Bool.not_eq_false] at allowed
          have admitted := admitted_eq_some_iff.mpr ⟨holds, world, found, rfl, allowed⟩
          rw [refused] at admitted
          cases admitted
        exact ⟨_, outcome_query_of_error found (run_ownershipGuard_error denied)⟩
  · rcases @outcome_requireRole_error _ _ effects holds with ⟨error, thrown⟩
    exact ⟨error, outcome_bind_of_error thrown⟩

/-- A route whose guards refuse does nothing. -/
theorem passGuards_refused {rest : OrderAccessContext → Serving α}
    (refused : effects.store.admitted user role mode orderId.value = none) :
    (outcome (passGuards user role mode orderId >>= rest) effects).2 = effects := by
  rcases outcome_passGuards_error refused with ⟨error, thrown⟩
  rw [outcome_bind_of_error thrown]

theorem starts_transition {command : OrderTransitionCommand} {tx : OrderTx AppliedTransition}
    (admitted : effects.store.admitted user role mode orderId.value = some tables) :
    Starts Effects.keys (.lane orderId.text)
      (transition surroundings user role mode orderId command tx) effects := by
  refine Starts.after (outcome_passGuards admitted) ?_
  apply (starts_queue appends_transact).bind
  intro applied
  exact (appends_useKeys _).bind fun _ => appends_answer

theorem starts_assertRoom {incoming : ℕ} {world : World}
    (found : effects.store.orders.find? (·.order.id == orderId.value) = some world) :
    Starts Effects.keys (.scope orderId.text) (assertRoom surroundings orderId incoming)
      effects := by
  have isOrder : world.order.id = orderId.value := by
    simpa using List.find?_some found
  have usage := (@FilesService.run_readStorageUsage_eq_ok surroundings.elsewhere world.tables
    world.tables orderId.value _).mpr ⟨isOrder, rfl, rfl⟩
  refine Starts.after (outcome_query_of_ok found (Transaction.run_bind_of_ok usage)) ?_
  exact starts_useKeys.bind fun _ => appends_liftExcept _

theorem starts_addFiles {declaredBytes : ℕ} {comment : String} {prepared : List PreparedFile}
    (admitted : effects.store.admitted user .company .executor orderId.value = some tables) :
    Starts Effects.keys (.scope orderId.text)
      (addFiles surroundings user orderId declaredBytes comment prepared) effects := by
  refine Starts.after (outcome_passGuards admitted) ?_
  rcases admitted_eq_some_iff.mp admitted with ⟨_, world, found, rfl, _⟩
  refine Starts.bind ((starts_assertRoom found).bind fun _ => ?_) fun _ => ?_
  · split
    · exact appends_pure _
    · exact appends_throw _
  · apply (appends_liftExcept _).bind
    intro allowed
    apply (appends_liftExcept _).bind
    intro prepared
    apply (appends_queue appends_transact).bind
    intro submission
    apply appends_query.bind
    intro fresh
    apply appends_attachFiles.bind
    intro attached
    exact appends_filesUpdated.bind fun _ => appends_answer

theorem starts_verifyArea {area : Decimal}
    (admitted : effects.store.admitted user .company .executor orderId.value = some tables)
    (verifiable : canVerifyArea tables.order.status = true) :
    Starts Effects.keys (.lane orderId.text)
      (verifyArea surroundings user orderId area) effects := by
  refine Starts.after (outcome_passGuards admitted) ?_
  rw [if_pos (show canVerifyArea (OwnershipGuard.contextOf user tables).status = true from
    verifiable)]
  apply (starts_queue appends_transact).bind
  intro verified
  cases verified with
  | none => exact appends_answer
  | some clientId => exact (appends_useKeys _).bind fun _ => appends_answer

theorem starts_remove
    (admitted : effects.store.admitted user .client .owner orderId.value = some tables)
    (deletable : canDeleteOrder tables.order.status = true) :
    Starts Effects.keys (.lane orderId.text) (remove surroundings user orderId) effects := by
  refine Starts.after (outcome_passGuards admitted) ?_
  rw [if_pos (show canDeleteOrder (OwnershipGuard.contextOf user tables).status = true from
    deletable)]
  rcases admitted_eq_some_iff.mp admitted with ⟨_, world, found, rfl, _⟩
  refine Starts.after (outcome_query_of_ok found rfl) ?_
  apply Starts.bind
  · apply starts_queue
    apply appends_transact.bind
    intro drafts
    exact Appends.bind (Appends.of_kept fun _ => rfl) fun _ => appends_pure _
  · intro drafts
    exact (appends_useKeys _).bind fun _ => appends_useKeys _

theorem starts_submitOffer {editedAt : Date} {proposedPrice : Decimal} {proposedDeadline : Date}
    {comment : Option String} (holds : user.role = some .company)
    (accepted : surroundings.bodyCheck.accepts orderId.text = true) :
    Starts Effects.keys (.lane orderId.text)
      (submitOffer surroundings user orderId editedAt proposedPrice proposedDeadline comment)
      effects := by
  have valid : outcome (validateBody surroundings orderId) effects = (.ok (), effects) := by
    simp only [validateBody, if_pos accepted]
    rfl
  refine Starts.after (outcome_requireRole holds) (Starts.after valid ?_)
  exact (starts_queue appends_transact).bind fun _ => appends_useKeys _

theorem starts_subscribeOrder {allowed expired : Bool} (isAllowed : allowed = true)
    (active : expired = false)
    (participant : isOrderParticipant user.id orderId.value effects.store = true) :
    Starts Effects.keys (.room (socketRooms.order orderId.text))
      (subscribeOrder user allowed expired orderId) effects := by
  have goes : (allowed && !expired && isOrderParticipant user.id orderId.value effects.store) =
      true := by
    simp [isAllowed, active, participant]
  simp only [subscribeOrder, Starts, outcome_get_bind, if_pos goes]
  apply starts_useKeys.bind
  intro entered joined
  simp only [outcome_get_bind]
  split
  · exact appends_useKeys _ joined
  · exact List.prefix_refl _

end Serving

/-- The first key that a route uses under the name of its order. -/
def OrderRoute.firstKey (orderId : String) : OrderRoute → SharedKey
  | .addFiles .. => .scope orderId
  | .subscribeOrder .. | .unsubscribeOrder _ => .room (socketRooms.order orderId)
  | _ => .lane orderId

theorem OrderRoute.usesName_congr {route : OrderRoute} {bodyCheck : BodyCheck} {user : AuthUser}
    {store : Store} {orderId otherOrder : UuidText} (same : orderId.SameButCase otherOrder) :
    route.usesName bodyCheck user store otherOrder =
      route.usesName bodyCheck user store orderId := by
  cases route <;> simp only [usesName, same.value_eq, bodyCheck.caseBlind _ _ same]

theorem OrderRoute.firstKey_injective {route : OrderRoute} {first second : String}
    (same : route.firstKey first = route.firstKey second) : first = second := by
  cases route <;> simpa [firstKey, socketRooms.order] using same

namespace Serving

variable {surroundings : Surroundings} {user : AuthUser} {orderId : UuidText} {effects : Effects}
  {route : OrderRoute}

/-- A route that does not get to the name of its order does nothing. -/
theorem serveOrder_unused
    (unused : route.usesName surroundings.bodyCheck user effects.store orderId = false) :
    (outcome (serveOrder surroundings user orderId route) effects).2 = effects := by
  cases route with
  | confirm comment => exact passGuards_refused (by simpa [OrderRoute.usesName] using unused)
  | dispute correctionComment =>
      exact passGuards_refused (by simpa [OrderRoute.usesName] using unused)
  | submitWork => exact passGuards_refused (by simpa [OrderRoute.usesName] using unused)
  | addFiles declaredBytes comment prepared =>
      exact passGuards_refused (by simpa [OrderRoute.usesName] using unused)
  | verifyArea area =>
      cases admitted : effects.store.admitted user .company .executor orderId.value with
      | none => exact passGuards_refused admitted
      | some tables =>
          have closed : canVerifyArea tables.order.status = false := by
            simpa [OrderRoute.usesName, admitted] using unused
          have refused : ¬canVerifyArea (OwnershipGuard.contextOf user tables).status = true :=
            Bool.eq_false_iff.mp closed
          simp only [serveOrder, verifyArea]
          rw [outcome_bind_of_ok (outcome_passGuards admitted), if_neg refused]
          rfl
  | remove =>
      cases admitted : effects.store.admitted user .client .owner orderId.value with
      | none => exact passGuards_refused admitted
      | some tables =>
          have closed : canDeleteOrder tables.order.status = false := by
            simpa [OrderRoute.usesName, admitted] using unused
          have refused : ¬canDeleteOrder (OwnershipGuard.contextOf user tables).status = true :=
            Bool.eq_false_iff.mp closed
          simp only [serveOrder, remove]
          rw [outcome_bind_of_ok (outcome_passGuards admitted), if_neg refused]
          rfl
  | getOne =>
      exact bind_kept (fun _ => outcome_query_state) (fun _ => bind_kept
        (fun _ => outcome_query_state) fun _ _ => rfl) effects
  | listDocuments ownerType => rfl
  | submitOffer editedAt proposedPrice proposedDeadline comment =>
      by_cases holds : user.role = some .company
      · have refused : ¬surroundings.bodyCheck.accepts orderId.text = true := by
          simpa [OrderRoute.usesName, holds] using unused
        simp only [serveOrder, submitOffer]
        rw [outcome_bind_of_ok (outcome_requireRole holds)]
        simp only [validateBody, if_neg refused]
        rfl
      · rcases @outcome_requireRole_error _ _ effects holds with ⟨error, thrown⟩
        simp only [serveOrder, submitOffer]
        rw [outcome_bind_of_error thrown]
  | subscribeOrder allowed expired =>
      have stays : ¬(allowed && !expired &&
          isOrderParticipant user.id orderId.value effects.store) = true := by
        simpa only [OrderRoute.usesName, Bool.not_eq_true] using unused
      simp only [serveOrder, subscribeOrder, outcome_get_bind, if_neg stays]
      rfl
  | unsubscribeOrder allowed =>
      have denied : ¬allowed = true := by simpa [OrderRoute.usesName] using unused
      simp only [serveOrder, unsubscribeOrder, if_neg denied]
      rfl

theorem serveOrder_starts
    (used : route.usesName surroundings.bodyCheck user effects.store orderId = true) :
    Starts Effects.keys (route.firstKey orderId.text) (serveOrder surroundings user orderId route)
      effects := by
  cases route with
  | confirm comment =>
      rcases Option.isSome_iff_exists.mp used with ⟨tables, admitted⟩
      exact starts_transition admitted
  | dispute correctionComment =>
      rcases Option.isSome_iff_exists.mp used with ⟨tables, admitted⟩
      exact starts_transition admitted
  | submitWork =>
      rcases Option.isSome_iff_exists.mp used with ⟨tables, admitted⟩
      exact starts_transition admitted
  | addFiles declaredBytes comment prepared =>
      rcases Option.isSome_iff_exists.mp used with ⟨tables, admitted⟩
      exact starts_addFiles admitted
  | verifyArea area =>
      rcases (Option.any_eq_true_iff_get _ _).mp used with ⟨isSome, verifiable⟩
      exact starts_verifyArea (Option.some_get isSome).symm verifiable
  | remove =>
      rcases (Option.any_eq_true_iff_get _ _).mp used with ⟨isSome, deletable⟩
      exact starts_remove (Option.some_get isSome).symm deletable
  | getOne => cases used
  | listDocuments ownerType => cases used
  | submitOffer editedAt proposedPrice proposedDeadline comment =>
      simp only [OrderRoute.usesName, Bool.and_eq_true, beq_iff_eq] at used
      exact starts_submitOffer used.1 used.2
  | subscribeOrder allowed expired =>
      simp only [OrderRoute.usesName, Bool.and_eq_true, Bool.not_eq_true'] at used
      exact starts_subscribeOrder used.1.1 used.1.2 used.2
  | unsubscribeOrder allowed =>
      simp only [OrderRoute.usesName] at used
      simp only [serveOrder, unsubscribeOrder, if_pos used]
      exact starts_useKeys

end Serving

namespace NamedRequest

open Serving

variable {surroundings : Surroundings} {user : AuthUser} {store : Store}
  {orderId otherOrder offerId otherOffer : UuidText} {dto : AcceptOfferDto} {route : OrderRoute}

theorem effects_acceptOffer_unused
    (unused : store.admitted user .client .owner orderId.value = none) :
    (acceptOffer orderId offerId dto).effects surroundings user store = { store, keys := [] } :=
  @passGuards_refused _ user orderId .client .owner { store, keys := [] } _ unused

theorem effects_acceptOffer_head {tables : OrderTables}
    (admitted : store.admitted user .client .owner orderId.value = some tables) :
    ((acceptOffer orderId offerId dto).effects surroundings user store).keys.head? =
      some (.lane orderId.text) :=
  Starts.head? (@starts_transition surroundings user orderId .client .owner tables
    { store, keys := [] } _ _ admitted) rfl

theorem effects_toOrder_head
    (used : route.usesName surroundings.bodyCheck user store orderId = true) :
    ((toOrder orderId route).effects surroundings user store).keys.head? =
      some (route.firstKey orderId.text) :=
  Starts.head? (@serveOrder_starts surroundings user orderId { store, keys := [] } route used) rfl

theorem acceptOffer_congr (order : orderId = otherOrder)
    (offer : offerId.value = otherOffer.value) :
    (acceptOffer orderId offerId dto).effects surroundings user store =
      (acceptOffer otherOrder otherOffer dto).effects surroundings user store := by
  simp only [effects, serve, Serving.acceptOffer, order, offer]

theorem leaveSelection_congr {role : Role} {actor : OffersService.OfferActor}
    {event : Uuid → Uuid → OrderTransitionCommand} (offer : offerId.value = otherOffer.value) :
    leaveSelection surroundings user role offerId actor event =
      leaveSelection surroundings user role otherOffer actor event := by
  simp only [leaveSelection, offer]

/-- The spelling of the identifiers does not show in what a request does, exactly when the request
does not get to anything under the name of its order, or the name has no letters. -/
theorem effects_sameButCase_iff (surroundings : Surroundings) (user : AuthUser) (store : Store)
    (request : NamedRequest) :
    (∀ other, request.SameButCase other →
        other.effects surroundings user store = request.effects surroundings user store) ↔
      (request.usesName surroundings.bodyCheck user store = true → request.hasLetters = false) := by
  constructor
  · intro blind used
    by_contra letters
    rw [Bool.not_eq_false] at letters
    cases request with
    | acceptOffer orderId offerId dto =>
        rcases Option.isSome_iff_exists.mp used with ⟨tables, admitted⟩
        have same := orderId.sameButCase_swapped
        have alike := blind _ (.acceptOffer same (UuidText.SameButCase.refl offerId))
        have heads := congrArg (fun effects => effects.keys.head?) alike
        simp only [effects_acceptOffer_head admitted,
          effects_acceptOffer_head (same.value_eq.symm ▸ admitted), Option.some.injEq,
          SharedKey.lane.injEq] at heads
        exact orderId.swapped_ne letters heads
    | toOrder orderId route =>
        have same := orderId.sameButCase_swapped
        have alike := blind _ (.toOrder same)
        have heads := congrArg (fun effects => effects.keys.head?) alike
        have otherUsed := (OrderRoute.usesName_congr same).trans used
        simp only [effects_toOrder_head used, effects_toOrder_head otherUsed,
          Option.some.injEq] at heads
        exact orderId.swapped_ne letters (OrderRoute.firstKey_injective heads)
    | withdrawOffer offerId => cases letters
    | rejectOffer offerId => cases letters
  · intro unlettered other same
    cases same with
    | @acceptOffer orderId otherOrder offerId otherOffer dto order offer =>
        cases admitted : store.admitted user .client .owner orderId.value with
        | none =>
            rw [effects_acceptOffer_unused admitted,
              effects_acceptOffer_unused (order.value_eq.symm ▸ admitted)]
        | some tables =>
            have none := unlettered (Option.isSome_iff_exists.mpr ⟨tables, admitted⟩)
            exact acceptOffer_congr (order.eq_of_no_letters none) offer.value_eq
    | @toOrder orderId otherOrder route order =>
        cases used : route.usesName surroundings.bodyCheck user store orderId with
        | false =>
            have otherUnused := (OrderRoute.usesName_congr order).trans used
            exact (@serveOrder_unused surroundings user otherOrder { store, keys := [] } route
              otherUnused).trans (@serveOrder_unused surroundings user orderId
                { store, keys := [] } route used).symm
        | true => rw [order.eq_of_no_letters (unlettered used)]
    | withdrawOffer offer =>
        simp only [effects, serve, Serving.withdrawOffer, leaveSelection_congr offer.value_eq]
    | rejectOffer offer =>
        simp only [effects, serve, Serving.rejectOffer, leaveSelection_congr offer.value_eq]

def exampleSurroundings : Surroundings :=
  { environment := exampleEnvironment ⟨10⟩
    bodyCheck :=
      { accepts := isUuid
        caseBlind := fun id other _ => other.isUuid.trans id.isUuid.symm }
    elsewhere := { client := 0, others := 0 }
    pending := fun _ _ => { order := 0, client := 0, total := 0 }
    queueRejects := fun _ => false
    slotFree := true
    uploadFails := fun _ => false }

/-- A new order, and its client who subscribes to it. -/
def exampleSubscribed (orderId : Uuid) : Store × AuthUser × NamedRequest :=
  ((Store.initial exampleDemoUsers).step (.createOrder orderId 1 Date.epoch ⟨2⟩ exampleOrder false),
    { id := ⟨2⟩, role := some .client },
    .toOrder (UuidText.ofUuid orderId) (.subscribeOrder true false))

/-- In capitals the client joins `order:6F1C7A0E-0000-4000-8000-00000000ABC0`, where no message
goes. -/
theorem effects_differ_upperCase :
    ¬∀ (surroundings : Surroundings) (user : AuthUser) (store : Store)
      (request other : NamedRequest), request.SameButCase other →
        other.effects surroundings user store = request.effects surroundings user store := by
  intro blind
  let subscribed := exampleSubscribed ⟨0x6f1c7a0e00004000800000000000abc0⟩
  have alike := blind exampleSurroundings subscribed.2.1 subscribed.1 subscribed.2.2 _
    (.toOrder (UuidText.sameButCase_swapped _))
  have rooms := congrArg Effects.keys alike
  revert rooms
  decide +kernel

end NamedRequest

end MyBuild
