import Mathlib.Data.List.Sort
import MyBuild.Library.Rows
import MyBuild.Orders.View

/-!
# Reading an order

The query behind the card of an order: the rows with their relations, in the order the
query asks for.
-/

namespace MyBuild

def Offer.toRow (users : Uuid → User) (offer : Offer) : OfferRow :=
  { toOffer := offer, companyName := (users offer.companyId).companyName }

def OrderSubmission.toRow (submission : OrderSubmission) : SubmissionRow :=
  { round := submission.round
    comment := submission.comment
    submittedAt := submission.submittedAt
    createdAt := submission.createdAt }

def toOrderFileDto (file : OrderFile) : OrderFileDto :=
  { id := file.id
    orderId := file.orderId
    ownerType := file.ownerType
    submissionRound := file.submissionRound
    originalName := file.originalName
    mimeType := file.mimeType
    sizeBytes := file.sizeBytes
    createdAt := file.createdAt.toISOString }

def User.toClient (id : Uuid) (user : User) : OrderClient :=
  { id
    firstName := user.firstName
    lastName := user.lastName
    city := user.city
    country := user.country
    email := user.email
    phone := user.phone }

/-- The files by round, then by age, then by identifier. -/
def OrderFile.precedes (first second : OrderFile) : Bool :=
  first.submissionRound < second.submissionRound ||
    first.submissionRound == second.submissionRound &&
      (first.createdAt.time < second.createdAt.time ||
        first.createdAt.time == second.createdAt.time &&
          first.id.value.toNat ≤ second.id.value.toNat)

def FilesService.listOrderFiles (tables : OrderTables) : List OrderFileDto :=
  (tables.files.insertionSort fun first second => first.precedes second = true).map toOrderFileDto

namespace OrdersService

def detailRow (users : Uuid → User) (tables : OrderTables) : OrderDetailRow :=
  { id := tables.order.id
    orderNumber := tables.order.orderNumber
    clientId := tables.order.clientId
    title := tables.order.title
    status := tables.order.status
    category := tables.order.category
    objectType := tables.order.objectType
    clientBudget := tables.order.clientBudget
    price := tables.order.price
    deadline := tables.order.deadline
    createdAt := tables.order.createdAt
    offers := (tables.offers.insertionSort fun first second =>
      first.createdAt.time ≤ second.createdAt.time).map (Offer.toRow users)
    description := tables.order.description
    address := tables.order.address
    squareMeters := tables.order.squareMeters
    verifiedSquareMeters := tables.order.verifiedSquareMeters
    desiredStartDate := tables.order.desiredStartDate
    clientCompletionComment := tables.order.clientCompletionComment
    correctionComment := tables.order.correctionComment
    updatedAt := tables.order.updatedAt
    client := (users tables.order.clientId).toClient tables.order.clientId
    files := FilesService.listOrderFiles tables
    submissions := (tables.submissions.insertionSort fun first second =>
      first.round ≤ second.round).map OrderSubmission.toRow }

def getDetail (users : Uuid → User) (orderId viewer : Uuid) : OrderTx OrderDetail := do
  let tables ← get
  if tables.order.id = orderId then return toOrderDetail (detailRow users tables) viewer
  else throw (.notFound "Заказ не найден")

def card (users : Uuid → User) (tables : OrderTables) (viewer : Uuid) : OrderDetail :=
  toOrderDetail (detailRow users tables) viewer

variable {users : Uuid → User} {tables next : OrderTables} {orderId viewer : Uuid}

theorem run_getDetail_eq_ok {detail : OrderDetail} :
    (getDetail users orderId viewer).run tables = .ok (detail, next) ↔
      tables.order.id = orderId ∧ detail = toOrderDetail (detailRow users tables) viewer ∧
        next = tables := by
  simp only [getDetail]
  rw [Transaction.run_get_bind]
  by_cases found : tables.order.id = orderId
  · rw [if_pos found, Transaction.run_pure_eq_ok, Prod.mk.injEq]
    simp [found]
  · rw [if_neg found, Transaction.run_throw]
    simp [found]

theorem mem_detailRow_offers {row : OfferRow} :
    row ∈ (detailRow users tables).offers ↔
      ∃ offer ∈ tables.offers, offer.toRow users = row := by
  simp [detailRow]

theorem offer_of_mem_card {response : OfferDto}
    (mem : response ∈ (toOrderDetail (detailRow users tables) viewer).offers) :
    ∃ offer ∈ tables.offers, response = toOfferDto (offer.toRow users) := by
  have fromRow : ∃ row ∈ (detailRow users tables).offers, response = toOfferDto row := by
    simp only [toOrderDetail, visibleOffers] at mem
    split at mem
    · rcases List.mem_map.mp mem with ⟨row, rowMem, rfl⟩
      exact ⟨row, List.mem_of_mem_filter rowMem, rfl⟩
    · simp only [Option.mem_toList, Option.map_eq_some_iff] at mem
      rcases mem with ⟨row, found, rfl⟩
      exact ⟨row, List.mem_of_find?_eq_some found, rfl⟩
  rcases fromRow with ⟨row, rowMem, rfl⟩
  rcases mem_detailRow_offers.mp rowMem with ⟨offer, offerMem, rfl⟩
  exact ⟨offer, offerMem, rfl⟩

theorem detailRow_ownOffer (companies : (tables.offers.map Offer.companyId).Nodup) :
    (detailRow users tables).offers.find? (·.companyId == viewer) =
      (tables.offers.find? (·.companyId == viewer)).map (Offer.toRow users) := by
  simp only [detailRow, List.find?_map]
  congr 1
  apply Rows.find?_perm (List.perm_insertionSort _ _)
  intro first firstMem second secondMem firstOwn secondOwn
  simp only [Function.comp_apply, Offer.toRow, beq_iff_eq] at firstOwn secondOwn
  rw [List.mem_insertionSort] at firstMem secondMem
  exact Rows.eq_of_key companies firstMem secondMem (firstOwn.trans secondOwn.symm)

/-- What the viewer may see, read off the rows. -/
theorem visibility_eq (companies : (tables.offers.map Offer.companyId).Nodup) :
    let view := resolveVisibility (detailRow users tables).toOrderRow viewer
    let own := tables.offers.find? (·.companyId == viewer)
    view.isOwner = (tables.order.clientId == viewer) ∧
      view.ownOffer = own.map (Offer.toRow users) ∧
      view.seesProgress =
        (tables.order.clientId == viewer || own.any (isActiveOffer ·.status)) ∧
      view.isParty =
        (tables.order.clientId == viewer || own.any (isExecutorOffer ·.status)) := by
  intro view own
  have found := @detailRow_ownOffer users tables viewer companies
  refine ⟨rfl, found, ?_, ?_⟩
  · simp only [view, resolveVisibility, found, Option.any_map]
    rfl
  · simp only [view, resolveVisibility, found, Option.any_map]
    rfl

end OrdersService

end MyBuild
