import MyBuild.Orders.Tables

/-!
# Who may call a route

Two guards stand before the routes of an order.  The first compares the role in the
token, the second looks up how the user is related to the order and hands what it has
found to the route.  An order of someone else is answered as not found.
-/

namespace MyBuild

/-- The user of a token; the role is missing when the token carries none. -/
structure AuthUser where
  id : Uuid
  role : Option Role
  deriving DecidableEq

namespace RolesGuard

def roleMissing : String :=
  "В токене нет роли. Включите Custom Access Token Hook в проекте Supabase"

def canActivate (required : Role) (user : AuthUser) : OrderTx Unit :=
  match user.role with
  | none => throw (.forbidden roleMissing)
  | some role =>
      if role = required then return ()
      else throw (.forbidden "Недостаточно прав для этого действия")

end RolesGuard

inductive OrderAccessMode where
  | owner
  | viewer
  | executor
  deriving DecidableEq

structure OrderAccessContext where
  orderId : Uuid
  clientId : Uuid
  status : OrderStatus
  isOwner : Bool
  ownOffer : Option (Uuid × OfferStatus)

namespace OwnershipGuard

/-- The relation of the user to the order is enough for the mode. -/
def allows (mode : OrderAccessMode) (user : AuthUser) (tables : OrderTables) : Bool :=
  let isOwner := tables.order.clientId == user.id
  let ownOffer := tables.offers.find? (·.companyId == user.id)
  match mode with
  | .executor => ownOffer.any (isExecutorOffer ·.status)
  | .owner => isOwner
  | .viewer => isOwner || user.role == some .company

def contextOf (user : AuthUser) (tables : OrderTables) : OrderAccessContext :=
  { orderId := tables.order.id
    clientId := tables.order.clientId
    status := tables.order.status
    isOwner := tables.order.clientId == user.id
    ownOffer := (tables.offers.find? (·.companyId == user.id)).map fun offer =>
      (offer.id, offer.status) }

def canActivate (mode : OrderAccessMode) (user : AuthUser) (orderId : Uuid) :
    OrderTx OrderAccessContext := do
  let tables ← get
  if tables.order.id = orderId then
    if allows mode user tables then return contextOf user tables
    else throw (.notFound "Заказ не найден")
  else throw (.notFound "Заказ не найден")

end OwnershipGuard

/-- The request is answered with one of the refusals. -/
def refuses {α : Type} (tx : OrderTx α) (tables : OrderTables) : Bool :=
  match tx.run tables with
  | .ok _ => false
  | .error error => error.isRefusal

section

variable {α β : Type} {tables next : OrderTables} {user : AuthUser} {orderId : Uuid}

theorem refuses_of_ok {tx : OrderTx α} {value : α} (returned : tx.run tables = .ok (value, next)) :
    refuses tx tables = false := by
  simp [refuses, returned]

theorem refuses_of_error {tx : OrderTx α} {error : ApiException}
    (thrown : tx.run tables = .error error) : refuses tx tables = error.isRefusal := by
  simp [refuses, thrown]

theorem refuses_bind_of_ok {tx : OrderTx α} {rest : α → OrderTx β} {value : α}
    (returned : tx.run tables = .ok (value, next)) :
    refuses (tx >>= rest) tables = refuses (rest value) next := by
  simp only [refuses, Transaction.run_bind_of_ok returned]

theorem refuses_bind_of_error {tx : OrderTx α} {rest : α → OrderTx β} {error : ApiException}
    (thrown : tx.run tables = .error error) :
    refuses (tx >>= rest) tables = error.isRefusal := by
  simp only [refuses, Transaction.run_bind_of_error thrown]

theorem run_rolesGuard {role : Role} (holds : user.role = some role) :
    (RolesGuard.canActivate role user).run tables = .ok ((), tables) := by
  simp only [RolesGuard.canActivate, holds]
  rfl

theorem run_rolesGuard_error {role : Role} (lacks : user.role ≠ some role) :
    ∃ error, (RolesGuard.canActivate role user).run tables = .error error ∧
      error.isRefusal = true := by
  simp only [RolesGuard.canActivate]
  cases isRole : user.role with
  | none => exact ⟨_, rfl, rfl⟩
  | some held =>
      have other : held ≠ role := by
        rintro rfl
        exact lacks isRole
      simp only [if_neg other]
      exact ⟨_, rfl, rfl⟩

theorem run_ownershipGuard {mode : OrderAccessMode} (found : tables.order.id = orderId)
    (allowed : OwnershipGuard.allows mode user tables = true) :
    (OwnershipGuard.canActivate mode user orderId).run tables =
      .ok (OwnershipGuard.contextOf user tables, tables) := by
  simp only [OwnershipGuard.canActivate, Transaction.run_get_bind, if_pos found, if_pos allowed]
  rfl

theorem run_ownershipGuard_error {mode : OrderAccessMode}
    (denied : OwnershipGuard.allows mode user tables = false) :
    (OwnershipGuard.canActivate mode user orderId).run tables =
      .error (.notFound "Заказ не найден") := by
  simp only [OwnershipGuard.canActivate, Transaction.run_get_bind, denied]
  split <;> rfl

/-- A route for a role: without the role it is refused, with it the rest decides. -/
theorem refuses_behind_role {role : Role} {rest : OrderTx α} :
    refuses (do
      RolesGuard.canActivate role user
      rest) tables = (user.role != some role || refuses rest tables) := by
  by_cases holds : user.role = some role
  · rw [refuses_bind_of_ok (run_rolesGuard holds)]
    simp [holds]
  · rcases run_rolesGuard_error holds with ⟨error, thrown, isRefusal⟩
    rw [refuses_bind_of_error thrown, isRefusal]
    simp [holds]

theorem refuses_behind_ownership {mode : OrderAccessMode}
    {rest : OrderAccessContext → OrderTx α} (found : tables.order.id = orderId) :
    refuses (do
      let access ← OwnershipGuard.canActivate mode user orderId
      rest access) tables =
        (!OwnershipGuard.allows mode user tables ||
          refuses (rest (OwnershipGuard.contextOf user tables)) tables) := by
  cases allowed : OwnershipGuard.allows mode user tables with
  | true =>
      rw [refuses_bind_of_ok (run_ownershipGuard found allowed)]
      simp
  | false =>
      rw [refuses_bind_of_error (run_ownershipGuard_error allowed)]
      rfl

end

end MyBuild
