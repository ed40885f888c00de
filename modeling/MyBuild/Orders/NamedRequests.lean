import MyBuild.Common.Uuid
import MyBuild.Files.Access
import MyBuild.Library.Journal
import MyBuild.Orders.Routes
import MyBuild.Realtime.Broadcast

/-!
# Requests by the name they give an order

The database compares identifiers as values, but the process also keeps things under their
texts: the lanes of the queue, the reservations of storage, the keys of the bucket, the
collapse keys of notifications and the rooms of sockets.  Here a request names its order or
offer by a text, and what it does is the rows it leaves together with the keys it has used.

A transition names the order it has locked, as the database writes it.  Everything else goes
by the text of the request, so two spellings of one order are two lanes, two scopes, two
rooms.
-/

namespace MyBuild

namespace socketRooms

def user (userId : String) : String := "user:" ++ userId

def order (orderId : String) : String := "order:" ++ orderId

def companyFeed : String := "company-feed"

end socketRooms

def Room.toText : Room → String
  | .user userId => socketRooms.user userId.toText
  | .order orderId => socketRooms.order orderId.toText

def SocketRoom.toText : SocketRoom → String
  | .room named => named.toText
  | .companyFeed => socketRooms.companyFeed

/-- A text under which the process or the bucket keeps something. -/
inductive SharedKey where
  | lane (orderId : String)
  | scope (orderId : String)
  | storageKey (key : String)
  | room (room : String)
  deriving DecidableEq

/-- What a request does: the rows, with the collapse keys of their notifications, and the keys it
has used, in order. -/
structure Effects where
  store : Store
  keys : List SharedKey

inductive ServingError where
  | refused (error : ApiException)
  | serviceUnavailable (message : String)

abbrev Serving (α : Type) := Journal.Act Effects ServingError α

/-- The check of an identifier in a body, `IsUUID('all')`: its patterns take letters in either
case. -/
structure BodyCheck where
  accepts : String → Bool
  caseBlind : ∀ id other : UuidText, id.SameButCase other → accepts other.text = accepts id.text

/-- What a request meets besides the rows: the check of its body, the room promised to uploads under
the name of an order, lanes that turn tasks away, the slots for uploads, and the bucket. -/
structure Surroundings where
  environment : Environment
  bodyCheck : BodyCheck
  elsewhere : FilesService.Elsewhere
  pending : String → Uuid → StorageUsage
  queueRejects : String → Bool
  slotFree : Bool
  uploadFails : String → Bool

namespace Serving

def orderBusy : String := "Заказ сейчас меняется, повторите через пару секунд"

def uploadsBusy : String :=
  "Сервер сейчас принимает много файлов. Повторите загрузку через минуту"

def refuse {α : Type} (error : ApiException) : Serving α := throw (.refused error)

def liftExcept {α : Type} : Except ApiException α → Serving α
  | .ok value => return value
  | .error error => refuse error

def useKeys (keys : List SharedKey) : Serving Unit :=
  modify fun effects => { effects with keys := effects.keys ++ keys }

/-- A computation on the rows of the order with this value, and what it makes of them. -/
def onRows {α : Type} (orderId : Uuid) (tx : OrderTx α) : Serving (α × OrderTables) := do
  let effects ← get
  match effects.store.orders.find? (·.order.id == orderId) with
  | none => refuse (.notFound "Заказ не найден")
  | some world => liftExcept (tx.run world.tables)

/-- Queries, which write nothing. -/
def query {α : Type} (orderId : Uuid) (tx : OrderTx α) : Serving α := do
  let found ← onRows orderId tx
  return found.1

def transact {α : Type} (orderId : Uuid) (tx : OrderTx α) : Serving α := do
  let done ← onRows orderId tx
  modify fun effects =>
    { effects with
      store := effects.store.updateOrder orderId fun world => { world with tables := done.2 } }
  return done.1

def broadcast (message : RealtimeBroadcast) : Serving Unit :=
  useKeys ((message.evictions.flatMap fun eviction =>
      [.room eviction.members.toText, .room eviction.room.toText]) ++
    message.messages.flatMap fun sent => sent.rooms.map fun room => .room room.toText)

/-- The rooms of `orderUpdateBroadcast`, which is given the name of the order. -/
def orderUpdated (orderId : String) (clientId : Uuid) (notified : List Uuid) : Serving Unit :=
  useKeys ([.room (socketRooms.order orderId), .room (socketRooms.user clientId.toText)] ++
    notified.map fun userId => .room (socketRooms.user userId.toText))

/-- The rooms of `orderDeletedBroadcast`: everybody leaves the room of the order. -/
def orderDeleted (orderId : String) (notified : List Uuid) : Serving Unit :=
  useKeys ([.room (socketRooms.order orderId), .room (socketRooms.order orderId),
    .room socketRooms.companyFeed] ++
      notified.map fun userId => .room (socketRooms.user userId.toText))

variable (surroundings : Surroundings) (user : AuthUser)

def runInOrderQueue {α : Type} (orderId : String) (task : Serving α) : Serving α := do
  useKeys [.lane orderId]
  if surroundings.queueRejects orderId then throw (.serviceUnavailable orderBusy) else task

def requireRole (role : Role) : Serving Unit :=
  match user.role with
  | none => refuse (.forbidden RolesGuard.roleMissing)
  | some held =>
      if held = role then return ()
      else refuse (.forbidden "Недостаточно прав для этого действия")

/-- The guards of a route; the context they leave to it has the name from the request. -/
def passGuards (role : Role) (mode : OrderAccessMode) (orderId : UuidText) :
    Serving OrderAccessContext := do
  requireRole user role
  query orderId.value (OwnershipGuard.canActivate mode user orderId.value)

def answerWithOrder (orderId : UuidText) : Serving Unit := do
  let _ ← query orderId.value
    (OrdersService.getDetail surroundings.environment.users orderId.value user.id)

/-- A transition with the order and the notifications it hands on to the broadcast. -/
def reported (environment : Environment) (command : OrderTransitionCommand)
    (tx : OrderTx AppliedTransition) : OrderTx CommittedTransition := do
  let before ← get
  let applied ← tx
  let after ← get
  return OrderTransitionService.committed environment command before after applied

/-- A route whose request is one transition. -/
def transition (role : Role) (mode : OrderAccessMode) (orderId : UuidText)
    (command : OrderTransitionCommand) (tx : OrderTx AppliedTransition) : Serving Unit := do
  let _ ← passGuards user role mode orderId
  let applied ← runInOrderQueue surroundings orderId.text
    (transact orderId.value (reported surroundings.environment command tx))
  broadcast (transitionBroadcast applied none)
  answerWithOrder surroundings user orderId

def acceptOffer (orderId offerId : UuidText) (dto : AcceptOfferDto) : Serving Unit :=
  transition surroundings user .client .owner orderId
    (.offerAccepted orderId.value offerId.value dto.offerEditedAt)
    (OrderWorkflowService.acceptOffer surroundings.environment orderId.value offerId.value
      dto.offerEditedAt)

def confirm (orderId : UuidText) (comment : Option String) : Serving Unit :=
  transition surroundings user .client .owner orderId (.workConfirmed orderId.value comment)
    (OrderWorkflowService.confirm surroundings.environment orderId.value comment)

def dispute (orderId : UuidText) (correctionComment : String) : Serving Unit :=
  transition surroundings user .client .owner orderId
    (.workDisputed orderId.value correctionComment)
    (OrderWorkflowService.dispute surroundings.environment orderId.value correctionComment)

def submitWork (orderId : UuidText) : Serving Unit :=
  transition surroundings user .company .executor orderId (.workSubmitted orderId.value)
    (OrderWorkflowService.submitWork surroundings.environment orderId.value)

/-- The quota with the room promised under the name of the order. -/
def assertRoom (orderId : UuidText) (incoming : ℕ) : Serving Unit := do
  let (usage, clientId) ← query orderId.value do
    let usage ← FilesService.readStorageUsage surroundings.elsewhere orderId.value
    let tables ← get
    return (usage, tables.order.clientId)
  useKeys [.scope orderId.text]
  liftExcept (refuseOverQuota (checkStorageQuota
    (addUsage usage (surroundings.pending orderId.text clientId)) incoming .company))

/-- The row of a file: its key is the one it was uploaded under. -/
def toRow (environment : Environment) (orderId : UuidText) (ownerType : FileOwnerType)
    (submissionRound : ℕ) (index : ℕ) (file : PreparedFile) : OrderFile :=
  { FilesService.toRow environment orderId.value ownerType submissionRound index file with
    storageKey := buildStorageKey orderId.text ownerType submissionRound file }

def notifyFilesUpdated (environment : Environment) (orderId : UuidText)
    (submission : OrderWorkflowService.OpenSubmission) : OrderTx Unit := do
  let draft : NotificationDraft :=
    { userId := submission.clientId
      type := .filesUpdated
      orderId := some orderId.value
      title := notificationTypeLabels .filesUpdated
      body := orderRef submission.orderNumber submission.title ++
        ": исполнитель добавил файлы (сдача №" ++ toString submission.round ++ ")"
      collapseKey := some (notificationKeys.orderFiles orderId.text) }
  dropSupersededNotifications [draft]
  createNotifications environment [draft]

/-- The insert transaction of `addFiles`: the new rows, and whether the comment has changed. -/
def insertFiles (environment : Environment) (elsewhere : FilesService.Elsewhere)
    (orderId : UuidText) (submission : OrderWorkflowService.OpenSubmission) (comment : String)
    (fresh : List PreparedFile) : OrderTx (List OrderFile × Bool) := do
  let commentChanged ← OrderWorkflowService.saveComment orderId.value submission.id comment
  FilesService.assertStorageQuota elsewhere orderId.value .company fresh
  let created ← FilesService.createFiles
    (fresh.mapIdx (toRow environment orderId .company submission.round))
  if created.length > 0 then notifyFilesUpdated environment orderId submission
  return (created, commentChanged)

/-- The objects go to the bucket one by one, up to the first that fails. -/
def upload : List String → Serving Unit
  | [] => return ()
  | key :: keys => do
      useKeys [.storageKey key]
      if surroundings.uploadFails key then
        refuse (.internal "Не удалось сохранить файл в хранилище")
      else upload keys

def removeOrphanObjects (orderId : UuidText) (submissionRound : ℕ) (fresh : List PreparedFile)
    (keys : List String) : Serving Unit := do
  let live ← query orderId.value do
    let tables ← get
    return (tables.files.filter fun row => row.submissionRound == submissionRound &&
      fresh.any (·.fileHash == row.fileHash)).map OrderFile.storageKey
  useKeys ((keys.filter (!live.contains ·)).map .storageKey)

/-- Upload and insert; on an error what has no row is removed again, whether that works or not. -/
def uploadAndInsert (orderId : UuidText) (submission : OrderWorkflowService.OpenSubmission)
    (comment : String) (fresh : List PreparedFile) : Serving (List OrderFile × Bool) := do
  let keys := fresh.map (buildStorageKey orderId.text .company submission.round)
  let cleanUp := removeOrphanObjects orderId submission.round fresh keys
  let attached ← tryCatch
    (do
      upload surroundings keys
      runInOrderQueue surroundings orderId.text (transact orderId.value
        (insertFiles surroundings.environment surroundings.elsewhere orderId submission comment
          fresh)))
    fun error => do
      tryCatch cleanUp fun _ => return ()
      throw error
  if attached.1.length < fresh.length then cleanUp
  return attached

/-- What is new goes to the bucket; all files being there already, only the comment is saved. -/
def attachFiles (orderId : UuidText) (submission : OrderWorkflowService.OpenSubmission)
    (comment : String) (fresh : List PreparedFile) : Serving (List OrderFile × Bool) := do
  if fresh.isEmpty then
    let commentChanged ← runInOrderQueue surroundings orderId.text (transact orderId.value
      (OrderWorkflowService.saveComment orderId.value submission.id comment))
    return ([], commentChanged)
  else
    assertRoom surroundings orderId (sumSizes fresh)
    uploadAndInsert surroundings orderId submission comment fresh

/-- The guard before the body of an upload: the room by its declared length, and a slot. -/
def admitUpload (orderId : UuidText) (declaredBytes : ℕ) : Serving Unit := do
  assertRoom surroundings orderId (declaredBytes - uploadRequestOverheadBytes)
  if surroundings.slotFree then return () else throw (.serviceUnavailable uploadsBusy)

def prepareUploads (uploads : List PreparedFile) : Except ApiException (List PreparedFile) :=
  if uploads.isEmpty then .error (.badRequest "Не приложен ни один файл") else .ok uploads

def filesUpdated (orderId : UuidText) (clientId : Uuid) (added : List OrderFile)
    (commentChanged : Bool) : Serving Unit :=
  if !added.isEmpty || commentChanged then
    orderUpdated orderId.text clientId (if added.isEmpty then [] else [clientId])
  else return ()

def addFiles (orderId : UuidText) (declaredBytes : ℕ) (comment : String)
    (uploads : List PreparedFile) : Serving Unit := do
  let access ← passGuards user .company .executor orderId
  admitUpload surroundings orderId declaredBytes
  liftExcept (OrderWorkflowService.assertUploadAllowed access.status)
  let prepared ← liftExcept (prepareUploads uploads)
  let submission ← runInOrderQueue surroundings orderId.text (transact orderId.value
    (OrderWorkflowService.openSubmission surroundings.environment orderId.value comment))
  let fresh ← query orderId.value do
    let tables ← get
    return FilesService.dropDuplicates tables.files submission.round prepared
  let (added, commentChanged) ← attachFiles surroundings orderId submission comment fresh
  filesUpdated orderId submission.clientId added commentChanged
  answerWithOrder surroundings user orderId

/-- The transaction of `verifyArea`: whom to tell, if the number has changed. -/
def correctArea (environment : Environment) (orderId : UuidText)
    (verifiedSquareMeters : Decimal) : OrderTx (Option Uuid) := do
  let order ← lockOrder orderId.value
  if canVerifyArea order.status then
    if order.verifiedSquareMeters = some verifiedSquareMeters then return none
    else
      modify fun tables =>
        { tables with
          order :=
            { tables.order with
              verifiedSquareMeters := some verifiedSquareMeters
              updatedAt := environment.now } }
      let draft : NotificationDraft :=
        { userId := order.clientId
          type := .areaVerified
          orderId := some orderId.value
          title := notificationTypeLabels .areaVerified
          body := orderRef order.orderNumber order.title ++
            ": исполнитель уточнил площадь — " ++ verifiedSquareMeters.toText ++ " м²"
          collapseKey := some (notificationKeys.orderArea orderId.text) }
      dropSupersededNotifications [draft]
      createNotifications environment [draft]
      return some order.clientId
  else throw (.conflict OrderWorkflowService.areaForbidden)

def verifyArea (orderId : UuidText) (verifiedSquareMeters : Decimal) : Serving Unit := do
  let access ← passGuards user .company .executor orderId
  if canVerifyArea access.status then
    let verified ← runInOrderQueue surroundings orderId.text (transact orderId.value
      (correctArea surroundings.environment orderId verifiedSquareMeters))
    match verified with
    | none => pure ()
    | some clientId => orderUpdated orderId.text clientId [clientId]
    answerWithOrder surroundings user orderId
  else refuse (.conflict OrderWorkflowService.areaForbidden)

def getOne (orderId : UuidText) : Serving Unit := do
  let _ ← query orderId.value (OwnershipGuard.canActivate .viewer user orderId.value)
  answerWithOrder surroundings user orderId

def remove (orderId : UuidText) : Serving Unit := do
  let access ← passGuards user .client .owner orderId
  if canDeleteOrder access.status then
    let storageKeys ← query orderId.value do
      let tables ← get
      return tables.files.map OrderFile.storageKey
    let drafts ← runInOrderQueue surroundings orderId.text do
      let drafts ← transact orderId.value (OrdersService.deleteWithNotices orderId.value)
      modify fun effects =>
        let remaining := effects.store.deleteOrders (·.id == orderId.value)
        { effects with
          store := { remaining with
            notices := remaining.notices ++
              drafts.mapIdx (NotificationDraft.toRow surroundings.environment) } }
      return drafts
    orderDeleted orderId.text (drafts.map NotificationDraft.userId)
    useKeys (storageKeys.map .storageKey)
  else refuse (.conflict OrdersService.orderNotDeletable)

def validateBody (orderId : UuidText) : Serving Unit :=
  if surroundings.bodyCheck.accepts orderId.text then return ()
  else refuse (.badRequest "Некорректный заказ")

def submitOffer (orderId : UuidText) (editedAt : Date) (proposedPrice : Decimal)
    (proposedDeadline : Date) (comment : Option String) : Serving Unit := do
  requireRole user .company
  validateBody surroundings orderId
  let dto : CreateOfferDto := { orderId := orderId.value, proposedPrice, proposedDeadline, comment }
  let (applied, offerExisted) ← runInOrderQueue surroundings orderId.text
    (transact orderId.value do
      let order ← lockOrder dto.orderId
      let tables ← get
      let existing := tables.offers.find? (·.companyId == user.id)
      let created ← OffersService.upsertOffer surroundings.environment editedAt order.id user.id dto
      let command := OrderTransitionCommand.offerSubmitted order.id created.id
        (existing.map Offer.status)
      let applied ← reported surroundings.environment command
        (OrderTransitionService.run surroundings.environment command)
      return (applied, existing.isSome))
  broadcast (transitionBroadcast applied (offerEventOf (some offerExisted)))

/-- A withdrawal or a rejection: the offer is looked up, and its row names the order. -/
def leaveSelection (role : Role) (offerId : UuidText) (actor : OffersService.OfferActor)
    (event : Uuid → Uuid → OrderTransitionCommand) : Serving Unit := do
  requireRole user role
  let effects ← get
  match effects.store.orders.find? fun world => world.tables.offers.any fun offer =>
      offer.id == offerId.value && actor.related world.tables offer with
  | none => refuse (.notFound OffersService.offerNotFound)
  | some world =>
      let offer ← query world.order.id (OffersService.findOffer offerId.value actor)
      let command := event offer.orderId offerId.value
      let applied ← runInOrderQueue surroundings offer.orderId.toText
        (transact offer.orderId (reported surroundings.environment command
          (OrderTransitionService.run surroundings.environment command)))
      broadcast (transitionBroadcast applied none)

def withdrawOffer (offerId : UuidText) : Serving Unit :=
  leaveSelection surroundings user .company offerId (.company user.id) .offerWithdrawn

def rejectOffer (offerId : UuidText) : Serving Unit :=
  leaveSelection surroundings user .client offerId (.client user.id) .offerRejected

/-- The files of the list of documents, cut down to one order. -/
def listDocuments (ownerType : Option FileOwnerType) (orderId : UuidText) :
    Serving (List OrderFile) := do
  let effects ← get
  return effects.store.orders.flatMap fun world => world.tables.files.filter
    (buildDocumentsWhere { userId := user.id, ownerType, orderId := some orderId.value }
      world.tables)

def isOrderParticipant (userId orderId : Uuid) (store : Store) : Bool :=
  (store.orders.find? (·.order.id == orderId)).any fun world =>
    world.tables.isOrderParticipant userId

/-- A subscription of a socket: what is checked is the order, what is joined is its name. -/
def subscribeOrder (allowed expired : Bool) (orderId : UuidText) : Serving Unit := do
  let effects ← get
  if allowed && !expired && isOrderParticipant user.id orderId.value effects.store then
    useKeys [.room (socketRooms.order orderId.text)]
    let joined ← get
    if !isOrderParticipant user.id orderId.value joined.store then
      useKeys [.room (socketRooms.order orderId.text)]

def unsubscribeOrder (allowed : Bool) (orderId : UuidText) : Serving Unit := do
  if allowed then useKeys [.room (socketRooms.order orderId.text)]

section

open Journal

variable {α : Type} {surroundings : Surroundings} {user : AuthUser} {orderId : UuidText}

theorem appends_useKeys (keys : List SharedKey) : Appends Effects.keys (useKeys keys) := by
  intro effects
  exact List.prefix_append _ _

theorem appends_liftExcept (outcome : Except ApiException α) :
    Appends Effects.keys (liftExcept outcome) := by
  cases outcome with
  | ok value => exact appends_pure value
  | error error => exact appends_throw _

theorem outcome_onRows {id : Uuid} {tx : OrderTx α} (effects : Effects) :
    (outcome (onRows id tx) effects).2 = effects := by
  simp only [onRows, outcome_get_bind]
  split
  · rfl
  case h_2 world _ => cases tx.run world.tables <;> rfl

theorem appends_onRows {id : Uuid} {tx : OrderTx α} :
    Appends Effects.keys (onRows id tx) :=
  Appends.of_kept fun effects => by rw [outcome_onRows]

theorem appends_query {id : Uuid} {tx : OrderTx α} : Appends Effects.keys (query id tx) :=
  appends_onRows.bind fun _ => appends_pure _

theorem appends_transact {id : Uuid} {tx : OrderTx α} : Appends Effects.keys (transact id tx) :=
  appends_onRows.bind fun _ => Appends.bind (Appends.of_kept fun _ => rfl) fun _ => appends_pure _

theorem appends_queue {name : String} {task : Serving α} (appends : Appends Effects.keys task) :
    Appends Effects.keys (runInOrderQueue surroundings name task) := by
  apply (appends_useKeys _).bind
  intro used
  split
  · exact appends_throw _
  · exact appends

theorem appends_answer : Appends Effects.keys (answerWithOrder surroundings user orderId) :=
  appends_query.bind fun _ => appends_pure _

theorem appends_assertRoom {incoming : ℕ} :
    Appends Effects.keys (assertRoom surroundings orderId incoming) :=
  appends_query.bind fun _ => (appends_useKeys _).bind fun _ => appends_liftExcept _

theorem appends_upload (keys : List String) : Appends Effects.keys (upload surroundings keys) := by
  induction keys with
  | nil => exact appends_pure _
  | cons key keys ih =>
      apply (appends_useKeys _).bind
      intro used
      split
      · exact appends_throw _
      · exact ih

theorem appends_removeOrphanObjects {submissionRound : ℕ} {fresh : List PreparedFile}
    {keys : List String} :
    Appends Effects.keys (removeOrphanObjects orderId submissionRound fresh keys) :=
  appends_query.bind fun _ => appends_useKeys _

theorem appends_uploadAndInsert {submission : OrderWorkflowService.OpenSubmission}
    {comment : String} {fresh : List PreparedFile} :
    Appends Effects.keys (uploadAndInsert surroundings orderId submission comment fresh) := by
  have cleanUp := @appends_removeOrphanObjects orderId submission.round fresh
    (fresh.map (buildStorageKey orderId.text .company submission.round))
  refine Appends.bind (Appends.tryCatch ?_ ?_) ?_
  · exact (appends_upload _).bind fun _ => appends_queue appends_transact
  · exact fun _ => (cleanUp.tryCatch fun _ => appends_pure _).bind fun _ => appends_throw _
  · intro attached
    split
    · exact cleanUp.bind fun _ => appends_pure _
    · exact appends_pure _

theorem appends_attachFiles {submission : OrderWorkflowService.OpenSubmission}
    {comment : String} {fresh : List PreparedFile} :
    Appends Effects.keys (attachFiles surroundings orderId submission comment fresh) := by
  simp only [attachFiles]
  split
  · exact (appends_queue appends_transact).bind fun _ => appends_pure _
  · exact appends_assertRoom.bind fun _ => appends_uploadAndInsert

theorem appends_filesUpdated {clientId : Uuid} {added : List OrderFile} {commentChanged : Bool} :
    Appends Effects.keys (filesUpdated orderId clientId added commentChanged) := by
  simp only [filesUpdated]
  split
  · exact appends_useKeys _
  · exact appends_pure _

end

section

variable {environment : Environment} {id : Uuid}

theorem correctArea_ofUuid {status : OrderStatus} {area : Decimal}
    (verifiable : canVerifyArea status = true) :
    (fun _ => ()) <$> correctArea environment (UuidText.ofUuid id) area =
      OrderWorkflowService.verifyArea environment id status area := by
  simp only [correctArea, OrderWorkflowService.verifyArea, UuidText.value_ofUuid, verifiable,
    map_bind]
  refine bind_congr fun order => ?_
  split
  · split
    · simp
    · simp [map_bind, UuidText.ofUuid]
  · rfl

theorem toRow_ofUuid {ownerType : FileOwnerType} {submissionRound index : ℕ}
    {file : PreparedFile} :
    toRow environment (UuidText.ofUuid id) ownerType submissionRound index file =
      FilesService.toRow environment id ownerType submissionRound index file := by
  simp only [toRow, UuidText.value_ofUuid]
  rfl

theorem notifyFilesUpdated_ofUuid {submission : OrderWorkflowService.OpenSubmission} :
    notifyFilesUpdated environment (UuidText.ofUuid id) submission =
      OrderWorkflowService.notifyFilesUpdated environment id submission := by
  simp only [notifyFilesUpdated, UuidText.value_ofUuid]
  rfl

theorem insertFiles_ofUuid {elsewhere : FilesService.Elsewhere}
    {submission : OrderWorkflowService.OpenSubmission} {comment : String}
    {fresh : List PreparedFile} :
    Prod.fst <$> insertFiles environment elsewhere (UuidText.ofUuid id) submission comment fresh =
      FilesService.insertFiles environment elsewhere
        (OrderWorkflowService.attachParams environment id submission comment) fresh := by
  have rows : toRow environment (UuidText.ofUuid id) .company submission.round =
      FilesService.toRow environment id .company submission.round := by
    funext index file
    exact toRow_ofUuid
  simp only [insertFiles, FilesService.insertFiles, OrderWorkflowService.attachParams,
    UuidText.value_ofUuid, map_bind, bind_assoc, pure_bind, rows, notifyFilesUpdated_ofUuid]
  refine bind_congr fun _ => bind_congr fun _ => bind_congr fun created => ?_
  split
  · simp
  · simp

end

end Serving

end MyBuild
