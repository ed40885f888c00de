import MyBuild.Accounts.Locks
import MyBuild.Accounts.Mirror
import MyBuild.Accounts.Passwords
import MyBuild.Accounts.Tokens
import MyBuild.Common.QueueRuns
import MyBuild.Common.RateWindow
import MyBuild.Common.Semaphore
import MyBuild.Files.Access
import MyBuild.Files.Bucket
import MyBuild.Files.Duplicates
import MyBuild.Files.InFlight
import MyBuild.Files.OrderVolume
import MyBuild.Files.Reservations
import MyBuild.Files.SafeKeys
import MyBuild.Files.StorageKeys
import MyBuild.Frontend.Access
import MyBuild.Frontend.Buttons
import MyBuild.Frontend.DeepLinks
import MyBuild.Frontend.FormAgreement
import MyBuild.Frontend.ListAddresses
import MyBuild.Frontend.LivePages
import MyBuild.Frontend.Menu
import MyBuild.Frontend.NameAgreement
import MyBuild.Frontend.OrderLive
import MyBuild.Frontend.ProfileForm
import MyBuild.Frontend.RealtimeBindings
import MyBuild.Frontend.Redirects
import MyBuild.Frontend.RegisterForm
import MyBuild.Frontend.RoomBinding
import MyBuild.Frontend.Routing
import MyBuild.Frontend.Submissions
import MyBuild.Notifications.Service
import MyBuild.Offers.DeadlineBoundary
import MyBuild.Offers.Rejections
import MyBuild.Orders.Deletion
import MyBuild.Orders.FailedUpload
import MyBuild.Orders.OfferToken
import MyBuild.Orders.OrderSearch
import MyBuild.Orders.Outsider
import MyBuild.Orders.Rivals
import MyBuild.Orders.Spelling
import MyBuild.Orders.Submissions
import MyBuild.Orders.UploadAdmission
import MyBuild.Realtime.Broadcast
import MyBuild.Realtime.Connections
import MyBuild.Realtime.LastRequest
import MyBuild.Realtime.Membership
import MyBuild.Realtime.Quiescence
import MyBuild.Users.Contractors
import MyBuild.Users.Phone
import MyBuild.Users.Profile
