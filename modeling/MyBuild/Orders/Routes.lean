import MyBuild.Common.Guards
import MyBuild.Frontend.Actions
import MyBuild.Orders.Deletion
import MyBuild.Orders.Detail

/-!
# The routes of an order

Each route is its guards, one request to the services, and the card of the order as the
answer.  What a route is run on is one state: nothing else happens between its parts.
-/

namespace MyBuild

namespace FilesService

/-- The quota by the declared length, before the body is read; `reserved` is the room promised to
uploads on their way. -/
def assertRoomForUpload (elsewhere : Elsewhere) (reserved : StorageUsage) (orderId : Uuid)
    (uploader : FileOwnerType) (declaredBytes : ℕ) : OrderTx Unit := do
  let usage ← readStorageUsage elsewhere orderId
  liftM (refuseOverQuota (checkStorageQuota (addUsage usage reserved)
    (declaredBytes - uploadRequestOverheadBytes) uploader))

def reserveStorage (elsewhere : Elsewhere) (reserved : StorageUsage) (orderId : Uuid)
    (uploader : FileOwnerType) (adding : List PreparedFile) : OrderTx Unit := do
  let usage ← readStorageUsage elsewhere orderId
  liftM (refuseOverQuota (checkStorageQuota (addUsage usage reserved) (sumSizes adding) uploader))

end FilesService

/-- The company adds files to its submission; all files being there already, only the comment is
saved. -/
def OrderWorkflowService.addFiles (environment : Environment) (elsewhere : FilesService.Elsewhere)
    (reserved : StorageUsage) (orderId : Uuid) (status : OrderStatus) (comment : String)
    (prepared : List PreparedFile) : OrderTx Unit := do
  let submission ← startAddFiles environment orderId status comment prepared
  let tables ← get
  match FilesService.dropDuplicates tables.files submission.round prepared with
  | [] =>
      let _ ← saveComment orderId submission.id comment
  | file :: files =>
      FilesService.reserveStorage elsewhere reserved orderId .company (file :: files)
      let _ ← FilesService.insertFiles environment elsewhere
        (attachParams environment orderId submission comment) (file :: files)

variable (environment : Environment) (user : AuthUser)

namespace OrderWorkflowController

def acceptOffer (orderId offerId : Uuid) (dto : AcceptOfferDto) : OrderTx OrderDetail := do
  RolesGuard.canActivate .client user
  let access ← OwnershipGuard.canActivate .owner user orderId
  let _ ← OrderWorkflowService.acceptOffer environment access.orderId offerId dto.offerEditedAt
  OrdersService.getDetail environment.users access.orderId user.id

def confirm (orderId : Uuid) (comment : Option String) : OrderTx OrderDetail := do
  RolesGuard.canActivate .client user
  let access ← OwnershipGuard.canActivate .owner user orderId
  let _ ← OrderWorkflowService.confirm environment access.orderId comment
  OrdersService.getDetail environment.users access.orderId user.id

def dispute (orderId : Uuid) (correctionComment : String) : OrderTx OrderDetail := do
  RolesGuard.canActivate .client user
  let access ← OwnershipGuard.canActivate .owner user orderId
  let _ ← OrderWorkflowService.dispute environment access.orderId correctionComment
  OrdersService.getDetail environment.users access.orderId user.id

def submitWork (orderId : Uuid) : OrderTx OrderDetail := do
  RolesGuard.canActivate .company user
  let access ← OwnershipGuard.canActivate .executor user orderId
  let _ ← OrderWorkflowService.submitWork environment access.orderId
  OrdersService.getDetail environment.users access.orderId user.id

def addFiles (elsewhere : FilesService.Elsewhere) (reserved : StorageUsage) (orderId : Uuid)
    (declaredBytes : ℕ) (comment : String) (prepared : List PreparedFile) :
    OrderTx OrderDetail := do
  RolesGuard.canActivate .company user
  let access ← OwnershipGuard.canActivate .executor user orderId
  FilesService.assertRoomForUpload elsewhere reserved access.orderId .company declaredBytes
  OrderWorkflowService.addFiles environment elsewhere reserved access.orderId access.status comment
    prepared
  OrdersService.getDetail environment.users access.orderId user.id

def verifyArea (orderId : Uuid) (verifiedSquareMeters : Decimal) : OrderTx OrderDetail := do
  RolesGuard.canActivate .company user
  let access ← OwnershipGuard.canActivate .executor user orderId
  OrderWorkflowService.verifyArea environment access.orderId access.status verifiedSquareMeters
  OrdersService.getDetail environment.users access.orderId user.id

end OrderWorkflowController

namespace OrdersController

def getOne (users : Uuid → User) (orderId : Uuid) : OrderTx OrderDetail := do
  let access ← OwnershipGuard.canActivate .viewer user orderId
  OrdersService.getDetail users access.orderId user.id

def remove (orderId : Uuid) : OrderTx (List NotificationDraft) := do
  RolesGuard.canActivate .client user
  let access ← OwnershipGuard.canActivate .owner user orderId
  OrdersService.remove access.orderId access.status

end OrdersController

namespace OffersController

/-- The routes of offers find the order themselves and answer with the offer. -/
def submit (editedAt : Date) (dto : CreateOfferDto) : OrderTx Offer := do
  RolesGuard.canActivate .company user
  OffersService.submit environment editedAt user.id dto

def withdraw (offerId : Uuid) : OrderTx Offer := do
  RolesGuard.canActivate .company user
  OffersService.withdraw environment user.id offerId

def reject (offerId : Uuid) : OrderTx Offer := do
  RolesGuard.canActivate .client user
  OffersService.reject environment user.id offerId

end OffersController

end MyBuild
