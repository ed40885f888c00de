import MyBuild.Orders.Notices

/-!
# Reading notifications

The notifications of all users are one table, written by the requests to every order and
marked as read by their recipients.  `NoticeBoard` is the table with the orders around it; a
run mixes requests to any of the orders with reads.  The unread notification about a subject
is always the last one that was committed about it.
-/

namespace MyBuild

def Notification.read (notification : Notification) : Notification :=
  { notification with isRead := true }

namespace NotificationsService

abbrev NotificationTx (α : Type) := Transaction.Tx (List Notification) ApiException α

def notFound : String := "Уведомление не найдено"

/-- Mark one notification as read; that of another user is not found. -/
def markRead (userId notificationId : Uuid) : NotificationTx Notification := do
  let notifications ← get
  let mine (notification : Notification) : Bool :=
    notification.id == notificationId && notification.userId == userId
  match notifications.find? mine with
  | some notification =>
      set (Rows.updateWhere (fun notification => mine notification = true) Notification.read
        notifications)
      return Notification.read notification
  | none => throw (.notFound notFound)

/-- Mark every unread notification of the user as read, and count them. -/
def markAllRead (userId : Uuid) : NotificationTx ℕ := do
  let notifications ← get
  let mine (notification : Notification) : Bool :=
    notification.userId == userId && !notification.isRead
  set (Rows.updateWhere (fun notification => mine notification = true) Notification.read
    notifications)
  return (notifications.filter mine).length

end NotificationsService

/-- What a new order is created from. -/
structure NewOrder where
  orderNumber : ℕ
  createdAt : Date
  clientId : Uuid
  dto : CreateOrderDto

/-- The orders of the service and the table of notifications they share. -/
structure NoticeBoard where
  orders : Uuid → World
  notifications : List Notification

inductive NoticeRequest where
  | order (orderId : Uuid) (request : Request)
  | markRead (userId notificationId : Uuid)
  | markAllRead (userId : Uuid)

namespace NoticeBoard

def opened (orders : Uuid → NewOrder) : NoticeBoard :=
  { orders := fun id => World.ofTables (OrdersService.createOrder id (orders id).orderNumber
      (orders id).createdAt (orders id).clientId (orders id).dto)
    notifications := [] }

def step (board : NoticeBoard) : NoticeRequest → NoticeBoard
  | .order orderId request =>
      let next := ((board.orders orderId).withNotifications board.notifications).step request
      { orders := Function.update board.orders orderId next
        notifications := next.tables.notifications }
  | .markRead userId notificationId =>
      { board with
        notifications := Transaction.commit (NotificationsService.markRead userId notificationId)
          board.notifications }
  | .markAllRead userId =>
      { board with
        notifications := Transaction.commit (NotificationsService.markAllRead userId)
          board.notifications }

/-- The notifications a step commits: those it leaves in an empty table. -/
def commits (board : NoticeBoard) (request : NoticeRequest) : List Notification :=
  ({ board with notifications := [] }.step request).notifications

/-- All notifications committed in a run, in the order of their commits. -/
def history : NoticeBoard → List NoticeRequest → List Notification
  | _, [] => []
  | board, request :: requests => board.commits request ++ (board.step request).history requests

end NoticeBoard

/-- Both notifications tell the same user about the same subject. -/
def Notification.SameSubject (first second : Notification) : Prop :=
  first.userId = second.userId ∧ first.collapseKey = second.collapseKey ∧
    first.collapseKey ≠ none

/-- Behind an unread notification comes no other about its subject, neither in the table nor
among those committed since. -/
structure Settled (notifications history : List Notification) : Prop where
  sole : notifications.Pairwise fun earlier later =>
    earlier.SameSubject later → earlier.isRead = true
  latest : ∀ notification ∈ notifications, notification.isRead = false →
    ∃ before after, history = before ++ notification :: after ∧
      ∀ later ∈ after, ¬notification.SameSubject later

section

variable {environment : Environment} {drafts : List NotificationDraft}
  {notifications history : List Notification}

/-- An unread notification gives way to a draft about its subject. -/
theorem supersedes_of_sameSubject {index : ℕ} {draft : NotificationDraft}
    {notification : Notification} (key : draft.collapseKey ≠ some "")
    (unread : notification.isRead = false)
    (same : notification.SameSubject (draft.toRow environment index)) :
    draft.supersedes notification = true := by
  rcases same with ⟨sameUser, sameKey, keyed⟩
  simp only [NotificationDraft.toRow] at sameUser sameKey
  simp only [NotificationDraft.supersedes]
  rw [sameKey] at keyed
  cases isKey : draft.collapseKey with
  | none => exact absurd isKey keyed
  | some text =>
      rw [isKey] at key sameKey
      have nonempty : text ≠ "" := fun empty => key (congrArg some empty)
      simp [nonempty, unread, sameUser, sameKey]

theorem not_supersedes_of_read {notification : Notification}
    (isRead : notification.isRead = true) :
    drafts.any (·.supersedes notification) = false := by
  rw [List.any_eq_false]
  intro draft _
  simp only [NotificationDraft.supersedes]
  split <;> simp [isRead]

theorem mem_notices_of_read {notification : Notification} (mem : notification ∈ notifications)
    (isRead : notification.isRead = true) :
    notification ∈ notices environment drafts notifications := by
  refine List.mem_append_left _ (List.mem_filter.mpr ⟨mem, ?_⟩)
  simp only [not_supersedes_of_read isRead, Bool.not_false]

/-- The rows of drafts that are apart are about different subjects. -/
theorem rows_pairwise (apart : Apart drafts) :
    (drafts.mapIdx (NotificationDraft.toRow environment)).Pairwise
      fun earlier later => ¬earlier.SameSubject later := by
  rw [List.pairwise_iff_getElem]
  intro first second firstBound secondBound before same
  simp only [List.length_mapIdx] at firstBound secondBound
  simp only [List.getElem_mapIdx, Notification.SameSubject, NotificationDraft.toRow] at same
  rcases List.pairwise_iff_getElem.mp apart.subjects first second firstBound secondBound before
    with noKey | otherUser | otherKey
  · exact same.2.2 noKey
  · exact otherUser same.1
  · exact otherKey same.2.1

/-- Where only the last may be unread, no two are unread about one subject. -/
theorem length_le_one_of_sole {unread : List Notification} {userId : Uuid} {key : String}
    (sole : unread.Pairwise fun earlier later =>
      earlier.SameSubject later → earlier.isRead = true)
    (about : ∀ notification ∈ unread, notification.isRead = false ∧
      notification.userId = userId ∧ notification.collapseKey = some key) :
    unread.length ≤ 1 := by
  rcases unread with _ | ⟨first, _ | ⟨second, rest⟩⟩
  · simp
  · simp
  · rcases about first List.mem_cons_self with ⟨isUnread, firstUser, firstKey⟩
    rcases about second (List.mem_cons_of_mem _ List.mem_cons_self) with ⟨_, user, secondKey⟩
    have same : first.SameSubject second :=
      ⟨firstUser.trans user.symm, firstKey.trans secondKey.symm, by simp [firstKey]⟩
    have isRead := (List.pairwise_cons.mp sole).1 second List.mem_cons_self same
    rw [isUnread] at isRead
    cases isRead

namespace Settled

theorem empty : Settled [] [] :=
  ⟨List.Pairwise.nil, by simp⟩

theorem notices (settled : Settled notifications history) (apart : Apart drafts) :
    Settled (notices environment drafts notifications)
      (history ++ drafts.mapIdx (NotificationDraft.toRow environment)) := by
  have rows := @rows_pairwise environment drafts apart
  have outdated : ∀ old ∈ notifications.filter
      (fun notification => !drafts.any (·.supersedes notification)), old.isRead = false →
        ∀ new ∈ drafts.mapIdx (NotificationDraft.toRow environment),
          ¬old.SameSubject new := by
    intro old oldMem unread new newMem same
    rcases List.mem_mapIdx.mp newMem with ⟨index, bound, rfl⟩
    have superseded := supersedes_of_sameSubject
      (apart.keys _ (List.getElem_mem bound)) unread same
    have kept := (List.mem_filter.mp oldMem).2
    simp only [Bool.not_eq_true', List.any_eq_false] at kept
    exact kept _ (List.getElem_mem bound) superseded
  constructor
  · refine List.pairwise_append.mpr ⟨settled.sole.filter _, ?_, ?_⟩
    · exact rows.imp fun apart same => absurd same apart
    · intro old oldMem new newMem same
      by_contra unread
      exact outdated old oldMem (by simpa using unread) new newMem same
  · intro notification mem unread
    rcases List.mem_append.mp mem with old | new
    · rcases settled.latest notification (List.mem_of_mem_filter old) unread with
        ⟨before, after, split, last⟩
      refine ⟨before, after ++ drafts.mapIdx (NotificationDraft.toRow environment), ?_, ?_⟩
      · rw [split, List.append_assoc, List.cons_append]
      · intro later laterMem
        rcases List.mem_append.mp laterMem with laterOld | laterNew
        · exact last later laterOld
        · exact outdated notification old unread later laterNew
    · rcases List.append_of_mem new with ⟨before, after, split⟩
      refine ⟨history ++ before, after, ?_, ?_⟩
      · rw [split, List.append_assoc]
      · rw [split, List.pairwise_append, List.pairwise_cons] at rows
        exact rows.2.1.1

/-- Reading keeps what it does not reach, and reads the rest. -/
theorem read (settled : Settled notifications history) (chosen : Notification → Prop)
    [DecidablePred chosen] :
    Settled (Rows.updateWhere chosen Notification.read notifications)
      history := by
  constructor
  · refine List.pairwise_map.mpr (settled.sole.imp fun {earlier later} isRead same => ?_)
    have sameBefore : earlier.SameSubject later := by
      revert same
      split <;> split <;> exact fun same => same
    split
    · rfl
    · exact isRead sameBefore
  · intro notification mem unread
    rcases Rows.mem_updateWhere.mp mem with ⟨old, oldMem, rfl⟩
    split at unread
    · cases unread
    · rename_i untouched
      rw [if_neg untouched]
      exact settled.latest old oldMem unread

theorem drop (settled : Settled notifications history) (kept : Notification → Bool) :
    Settled (notifications.filter kept) history :=
  ⟨settled.sole.filter kept, fun notification mem =>
    settled.latest notification (List.mem_of_mem_filter mem)⟩

theorem length_unread_le_one (settled : Settled notifications history) (userId : Uuid)
    (key : String) :
    (notifications.filter fun notification => !notification.isRead &&
      notification.userId == userId && notification.collapseKey == some key).length ≤ 1 := by
  apply length_le_one_of_sole (settled.sole.filter _)
  intro notification mem
  simpa [and_assoc] using (List.mem_filter.mp mem).2

end Settled

end

namespace NotificationsService

variable {notifications history : List Notification}

theorem commit_markRead (userId notificationId : Uuid) :
    ∃ chosen : Notification → Bool, ∀ notifications,
      Transaction.commit (markRead userId notificationId) notifications =
        Rows.updateWhere (fun notification => chosen notification = true) Notification.read
          notifications := by
  refine ⟨fun notification => notification.id == notificationId && notification.userId == userId,
    fun notifications => ?_⟩
  simp only [Transaction.commit, markRead, Transaction.run_get_bind]
  cases found : notifications.find? fun notification =>
      notification.id == notificationId && notification.userId == userId with
  | some notification => rfl
  | none =>
      refine (Rows.updateWhere_eq_self fun row mem chosen => ?_).symm
      exact absurd chosen (List.find?_eq_none.mp found row mem)

end NotificationsService

namespace NoticeBoard

variable {board : NoticeBoard}

/-- What a request other than the demo reset does to the table, whatever the table holds. -/
inductive Effect : (List Notification → List Notification) → Prop
  | notifies {change : List Notification → List Notification} (notifies : Notifies change) :
      Effect change
  | reads (chosen : Notification → Prop) [DecidablePred chosen] :
      Effect (Rows.updateWhere chosen Notification.read)

structure WellFormed (board : NoticeBoard) : Prop where
  orders : ∀ orderId, (board.orders orderId).WellFormed

theorem wellFormed_opened (orders : Uuid → NewOrder) : (opened orders).WellFormed :=
  ⟨fun id => World.wellFormed_ofTables (OrdersService.createOrder_fresh id (orders id).orderNumber
    (orders id).createdAt (orders id).clientId (orders id).dto)⟩

theorem wellFormed_withNotifications {world : World} (wellFormed : world.WellFormed)
    (notifications : List Notification) : (world.withNotifications notifications).WellFormed :=
  ⟨⟨wellFormed.keyed.offerIds, wellFormed.keyed.companies, wellFormed.keyed.orderIds,
    wellFormed.keyed.submissionIds⟩, wellFormed.submissionsKnown⟩

theorem WellFormed.step (wellFormed : board.WellFormed) (request : NoticeRequest) :
    (board.step request).WellFormed := by
  cases request with
  | order orderId request =>
      constructor
      intro other
      simp only [NoticeBoard.step, Function.update_apply]
      split
      · exact (wellFormed_withNotifications (wellFormed.orders orderId) _).step request
      · exact wellFormed.orders other
  | markRead userId notificationId => exact ⟨wellFormed.orders⟩
  | markAllRead userId => exact ⟨wellFormed.orders⟩

/-- The table after a step is a function of the table before, fixed by the rows of the orders. -/
theorem step_effect (wellFormed : board.WellFormed) {request : NoticeRequest}
    (notReset : ∀ orderId demoIds, request ≠ .order orderId (.resetDemo demoIds)) :
    ∃ change, Effect change ∧ ∀ notifications,
      ({ board with notifications }.step request).notifications = change notifications := by
  cases request with
  | order orderId request =>
      by_cases isRead : ∃ ids, request = .readNotifications ids
      · rcases isRead with ⟨ids, rfl⟩
        exact ⟨_, .reads fun notification => notification.id ∈ ids, fun _ => rfl⟩
      · rcases World.step_notifies (wellFormed.orders orderId).keyed.companies request
          (fun ids same => isRead ⟨ids, same⟩)
          (fun demoIds same => notReset orderId demoIds (congrArg _ same))
          with ⟨change, notifies, changes⟩
        exact ⟨change, .notifies notifies, changes⟩
  | markRead userId notificationId =>
      rcases NotificationsService.commit_markRead userId notificationId with ⟨chosen, reads⟩
      exact ⟨_, .reads fun notification => chosen notification = true, reads⟩
  | markAllRead userId =>
      exact ⟨_, .reads fun notification =>
        (notification.userId == userId && !notification.isRead) = true, fun _ => rfl⟩

theorem settled_step (wellFormed : board.WellFormed) (request : NoticeRequest)
    {history : List Notification} (settled : Settled board.notifications history) :
    Settled (board.step request).notifications (history ++ board.commits request) := by
  by_cases isReset : ∃ orderId demoIds, request = .order orderId (.resetDemo demoIds)
  · rcases isReset with ⟨orderId, demoIds, rfl⟩
    have drops : ∀ notifications,
        ({ board with notifications }.step (.order orderId (.resetDemo demoIds))).notifications =
          notifications.filter fun notification => !demoIds.contains notification.userId :=
      fun _ => rfl
    rw [commits, drops, drops, List.filter_nil, List.append_nil]
    exact settled.drop _
  · rcases step_effect wellFormed fun orderId demoIds same => isReset ⟨orderId, demoIds, same⟩
      with ⟨change, effect, changes⟩
    have after : (board.step request).notifications = change board.notifications :=
      changes board.notifications
    have committed : board.commits request = change [] := changes []
    rw [after, committed]
    cases effect with
    | notifies notifies =>
        rcases notifies with ⟨environment, drafts, apart, rfl⟩
        simpa [notices] using @Settled.notices environment drafts _ _ settled apart
    | reads chosen => simpa [Rows.updateWhere] using settled.read chosen

theorem settled_run (wellFormed : board.WellFormed) (requests : List NoticeRequest)
    {past : List Notification} (settled : Settled board.notifications past) :
    Settled (Runs.run step board requests).notifications (past ++ board.history requests) := by
  induction requests generalizing board past with
  | nil => simpa [history] using settled
  | cons request requests ih =>
      rw [Runs.run_cons, history, ← List.append_assoc]
      exact ih (wellFormed.step request) (settled_step wellFormed request settled)

/-- Only the demo reset deletes a notification that was read. -/
theorem read_stays (wellFormed : board.WellFormed) {request : NoticeRequest}
    (notReset : ∀ orderId demoIds, request ≠ .order orderId (.resetDemo demoIds))
    {notification : Notification} (mem : notification ∈ board.notifications)
    (isRead : notification.isRead = true) :
    notification ∈ (board.step request).notifications := by
  rcases step_effect wellFormed notReset with ⟨change, effect, changes⟩
  have after : (board.step request).notifications = change board.notifications :=
    changes board.notifications
  rw [after]
  cases effect with
  | notifies notifies =>
      rcases notifies with ⟨environment, drafts, apart, rfl⟩
      exact mem_notices_of_read mem isRead
  | reads chosen =>
      refine Rows.mem_updateWhere.mpr ⟨notification, mem, ?_⟩
      split
      · simp [Notification.read, ← isRead]
      · rfl

end NoticeBoard

theorem one_unread_notice_per_subject (orders : Uuid → NewOrder)
    (requests : List NoticeRequest) :
    let board := Runs.run NoticeBoard.step (NoticeBoard.opened orders) requests
    let committed := (NoticeBoard.opened orders).history requests
    (∀ userId key, (board.notifications.filter fun notification =>
      !notification.isRead && notification.userId == userId &&
        notification.collapseKey == some key).length ≤ 1) ∧
    (∀ notification ∈ board.notifications, notification.isRead = false →
      ∀ key, notification.collapseKey = some key →
        ∃ before after, committed = before ++ notification :: after ∧
          ∀ later ∈ after,
            ¬(later.userId = notification.userId ∧ later.collapseKey = some key)) ∧
    ∀ request : NoticeRequest,
      (∀ orderId demoIds, request ≠ .order orderId (.resetDemo demoIds)) →
        ∀ notification ∈ board.notifications, notification.isRead = true →
          notification ∈ (board.step request).notifications := by
  intro board committed
  have opened := NoticeBoard.wellFormed_opened orders
  have wellFormed : board.WellFormed :=
    Runs.run_invariant (fun _ request holds => holds.step request) opened requests
  have settled : Settled board.notifications committed :=
    NoticeBoard.settled_run opened requests Settled.empty
  refine ⟨settled.length_unread_le_one, ?_, ?_⟩
  · intro notification mem unread key isKey
    rcases settled.latest notification mem unread with ⟨before, after, split, last⟩
    refine ⟨before, after, split, fun later laterMem same => last later laterMem ?_⟩
    exact ⟨same.1.symm, isKey.trans same.2.symm, by simp [isKey]⟩
  · exact fun request notReset notification mem isRead =>
      NoticeBoard.read_stays wellFormed notReset mem isRead

end MyBuild
