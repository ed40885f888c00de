import MyBuild.Orders.Tables

/-!
# Notifications of an order

How an order is named in a notification, and the rule that an unread notification
gives way to a newer one about the same thing.  The transitions, the files of a
submission and the corrected area all write their notifications through here.
-/

namespace MyBuild

/-- `ORD-7829 «Ремонт квартиры»`. -/
def orderRef (orderNumber : ℕ) (title : String) : String :=
  formatOrderNumber orderNumber ++ " «" ++ title ++ "»"

namespace notificationKeys

def offer (offerId : Uuid) : String := "offer:" ++ offerId.toText

def orderFiles (orderId : String) : String := "files:" ++ orderId

def orderArea (orderId : String) : String := "area:" ++ orderId

end notificationKeys

structure NotificationDraft where
  userId : Uuid
  type : NotificationType
  orderId : Option Uuid
  title : String
  body : String
  collapseKey : Option String
  deriving DecidableEq

/-- The new notification replaces this one: unread, for the same user, under the same key. -/
def NotificationDraft.supersedes (draft : NotificationDraft) (notification : Notification) :
    Bool :=
  match draft.collapseKey with
  | some key =>
      key != "" && !notification.isRead && notification.userId == draft.userId &&
        notification.collapseKey == some key
  | none => false

def dropSupersededNotifications (drafts : List NotificationDraft) : OrderTx Unit :=
  modify fun tables =>
    { tables with
      notifications := tables.notifications.filter fun notification =>
        !drafts.any (·.supersedes notification) }

def NotificationDraft.toRow (environment : Environment) (index : ℕ) (draft : NotificationDraft) :
    Notification :=
  { id := environment.notificationId index
    userId := draft.userId
    type := draft.type
    orderId := draft.orderId
    title := draft.title
    body := some draft.body
    isRead := false
    collapseKey := draft.collapseKey
    createdAt := environment.now }

def createNotifications (environment : Environment) (drafts : List NotificationDraft) :
    OrderTx Unit :=
  modify fun tables =>
    { tables with
      notifications := tables.notifications ++
        drafts.mapIdx (NotificationDraft.toRow environment) }

/-- The rows of the order without its notifications. -/
def OrderTables.SameOrderRows (before after : OrderTables) : Prop :=
  after.order = before.order ∧ after.offers = before.offers ∧
    after.submissions = before.submissions ∧ after.files = before.files

theorem OrderTables.SameOrderRows.refl (tables : OrderTables) : tables.SameOrderRows tables :=
  ⟨rfl, rfl, rfl, rfl⟩

/-- Replacing the superseded notifications by new ones touches no other row. -/
theorem sameOrderRows_of_notify {environment : Environment} {drafts : List NotificationDraft}
    {tables next : OrderTables} {value : Unit}
    (returned : (do
      dropSupersededNotifications drafts
      createNotifications environment drafts : OrderTx Unit).run tables = .ok (value, next)) :
    tables.SameOrderRows next := by
  rcases Transaction.run_bind_eq_ok.mp returned with ⟨_, middle, dropped, created⟩
  simp only [dropSupersededNotifications, Transaction.run_modify, Except.ok.injEq,
    Prod.mk.injEq] at dropped
  simp only [createNotifications, Transaction.run_modify, Except.ok.injEq,
    Prod.mk.injEq] at created
  rw [← created.2, ← dropped.2]
  exact ⟨rfl, rfl, rfl, rfl⟩

end MyBuild
