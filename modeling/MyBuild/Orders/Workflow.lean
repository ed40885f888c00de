import MyBuild.Files.Service
import MyBuild.Offers.Service

/-!
# The deal and the acceptance of the work

What happens to an order after the client chose the executor: the submissions with their
numbering and comments, the corrected area, and the transitions of the client.

Adding files to a submission is two transactions with an upload in between.  The first,
`openSubmission`, finds or opens the round; the second is the insert transaction of
`FilesService`, whose guard `saveComment` checks again that the round is still open.
-/

namespace MyBuild

def OrderSubmission.create (environment : Environment) (round : ℕ) (comment : String) :
    OrderSubmission :=
  { id := environment.submissionId, round, comment, submittedAt := none
    createdAt := environment.now }

namespace OrderWorkflowService

def uploadForbidden : String :=
  "Файлы сдачи добавляются, только пока заказ в работе или на доработке"

def nothingToSubmit : String :=
  "Нечего сдавать: сначала загрузите файлы работы с комментарием"

def submissionAlreadySent : String :=
  "Эта сдача уже отправлена клиенту: файлы добавляются в следующую сдачу"

def areaForbidden : String :=
  "Площадь уточняется только по заказу в работе, на проверке или на доработке"

/-- The client accepts an offer; `seenOfferEditedAt` is the version of it the client saw. -/
def acceptOffer (environment : Environment) (orderId offerId : Uuid)
    (seenOfferEditedAt : Option String) : OrderTx AppliedTransition :=
  OrderTransitionService.run environment (.offerAccepted orderId offerId seenOfferEditedAt)

def confirm (environment : Environment) (orderId : Uuid) (comment : Option String) :
    OrderTx AppliedTransition :=
  OrderTransitionService.run environment (.workConfirmed orderId comment)

def dispute (environment : Environment) (orderId : Uuid) (correctionComment : String) :
    OrderTx AppliedTransition :=
  OrderTransitionService.run environment (.workDisputed orderId correctionComment)

def latestSubmission : List OrderSubmission → Option OrderSubmission
  | [] => none
  | submission :: rest =>
      match latestSubmission rest with
      | none => some submission
      | some latest => if latest.round < submission.round then some submission else some latest

/-- The submission the company has not sent yet. -/
def findOpenSubmission (submissions : List OrderSubmission) : Option OrderSubmission :=
  latestSubmission (submissions.filter (·.submittedAt.isNone))

theorem latestSubmission_mem {submissions : List OrderSubmission} {latest : OrderSubmission}
    (found : latestSubmission submissions = some latest) : latest ∈ submissions := by
  induction submissions with
  | nil => cases found
  | cons submission rest ih =>
      simp only [latestSubmission] at found
      split at found
      · cases found
        exact List.mem_cons_self
      · split at found
        · cases found
          exact List.mem_cons_self
        · cases found
          exact List.mem_cons_of_mem _ (ih ‹_›)

theorem findOpenSubmission_mem {submissions : List OrderSubmission} {submission : OrderSubmission}
    (found : findOpenSubmission submissions = some submission) : submission ∈ submissions :=
  List.mem_of_mem_filter (latestSubmission_mem found)

def companyFiles (round : ℕ) (files : List OrderFile) : ℕ :=
  (files.filter fun file => file.ownerType == .company && file.submissionRound == round).length

def closeSubmission (now : Date) (submissionId : Uuid) (submissions : List OrderSubmission) :
    List OrderSubmission :=
  Rows.updateWhere (·.id = submissionId) (fun submission =>
    { submission with submittedAt := some now }) submissions

/-- The company hands in the work: the transition and the closing of the round are one commit. -/
def submitWork (environment : Environment) (orderId : Uuid) : OrderTx AppliedTransition := do
  let _ ← lockOrder orderId
  let before ← get
  let transition ← OrderTransitionService.run environment (.workSubmitted orderId)
  match findOpenSubmission before.submissions with
  | none => throw (.conflict nothingToSubmit)
  | some submission =>
      let tables ← get
      if companyFiles submission.round tables.files = 0 then throw (.conflict nothingToSubmit)
      else
        set { tables with
          submissions := closeSubmission environment.now submission.id tables.submissions }
        return transition

structure OpenSubmission where
  id : Uuid
  round : ℕ
  orderNumber : ℕ
  title : String
  clientId : Uuid

/-- The open submission, or a new one with the next number. -/
def openSubmission (environment : Environment) (orderId : Uuid) (comment : String) :
    OrderTx OpenSubmission := do
  let order ← lockOrder orderId
  if canUploadWork order.status then
    let tables ← get
    let opened (id : Uuid) (round : ℕ) : OpenSubmission :=
      { id, round, orderNumber := order.orderNumber, title := order.title
        clientId := order.clientId }
    match findOpenSubmission tables.submissions with
    | some submission => return opened submission.id submission.round
    | none =>
        let round := ((latestSubmission tables.submissions).elim 0 OrderSubmission.round) + 1
        if tables.submissions.any (·.id == environment.submissionId) then
          throw (.internal "Unique constraint failed on the fields: (`id`)")
        else
          set { tables with
            submissions :=
              tables.submissions ++ [OrderSubmission.create environment round comment] }
          return opened environment.submissionId round
  else throw (.conflict uploadForbidden)

/-- The submission is still open and the order still takes files. -/
def assertSubmissionOpen (orderId submissionId : Uuid) : OrderTx OrderSubmission := do
  let order ← lockOrder orderId
  if canUploadWork order.status then
    let tables ← get
    match tables.submissions.find? fun submission =>
        submission.id == submissionId && submission.submittedAt.isNone with
    | some submission => return submission
    | none => throw (.conflict submissionAlreadySent)
  else throw (.conflict uploadForbidden)

def commentSubmission (submissionId : Uuid) (comment : String)
    (submissions : List OrderSubmission) : List OrderSubmission :=
  Rows.updateWhere (·.id = submissionId) (fun submission => { submission with comment })
    submissions

/-- Write the comment of a submission that is still open; whether it changed. -/
def saveComment (orderId submissionId : Uuid) (comment : String) : OrderTx Bool := do
  let submission ← assertSubmissionOpen orderId submissionId
  if submission.comment = comment then return false
  else
    modify fun tables =>
      { tables with submissions := commentSubmission submissionId comment tables.submissions }
    return true

def notifyFilesUpdated (environment : Environment) (orderId : Uuid) (submission : OpenSubmission) :
    OrderTx Unit := do
  let draft : NotificationDraft :=
    { userId := submission.clientId
      type := .filesUpdated
      orderId := some orderId
      title := notificationTypeLabels .filesUpdated
      body := orderRef submission.orderNumber submission.title ++
        ": исполнитель добавил файлы (сдача №" ++ toString submission.round ++ ")"
      collapseKey := some (notificationKeys.orderFiles orderId.toText) }
  dropSupersededNotifications [draft]
  createNotifications environment [draft]

/-- What `addFiles` brings to the insert transaction of its files. -/
def attachParams (environment : Environment) (orderId : Uuid) (submission : OpenSubmission)
    (comment : String) : FilesService.AttachFilesParams :=
  { orderId
    ownerType := .company
    submissionRound := submission.round
    guard := do
      let _ ← saveComment orderId submission.id comment
    onAttached := fun _ => notifyFilesUpdated environment orderId submission }

/-- The refusal of `addFiles` before anything is read, by the guard's snapshot of the status. -/
def assertUploadAllowed (status : OrderStatus) : Except ApiException Unit :=
  if canUploadWork status then .ok () else .error (.conflict uploadForbidden)

/-- The company corrects the area; writing the same number again is no correction. -/
def verifyArea (environment : Environment) (orderId : Uuid) (status : OrderStatus)
    (verifiedSquareMeters : Decimal) : OrderTx Unit := do
  if canVerifyArea status then
    let order ← lockOrder orderId
    if canVerifyArea order.status then
      if order.verifiedSquareMeters = some verifiedSquareMeters then return ()
      else
        modify fun tables =>
          { tables with
            order :=
              { tables.order with
                verifiedSquareMeters := some verifiedSquareMeters
                updatedAt := environment.now } }
        let draft : NotificationDraft :=
          { userId := order.clientId
            type := .areaVerified
            orderId := some orderId
            title := notificationTypeLabels .areaVerified
            body := orderRef order.orderNumber order.title ++
              ": исполнитель уточнил площадь — " ++ verifiedSquareMeters.toText ++ " м²"
            collapseKey := some (notificationKeys.orderArea orderId.toText) }
        dropSupersededNotifications [draft]
        createNotifications environment [draft]
    else throw (.conflict areaForbidden)
  else throw (.conflict areaForbidden)

end OrderWorkflowService

end MyBuild
