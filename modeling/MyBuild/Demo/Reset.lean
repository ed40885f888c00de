import MyBuild.Orders.Tables

/-!
# The demo reset on the orders of other clients

The demo accounts leave no traces with real users: their offers on the orders of other
clients are deleted, except those still in play, and so are the notifications addressed
to them.
-/

namespace MyBuild

def Offer.isDemoTrace (demoIds : List Uuid) (offer : Offer) : Bool :=
  demoIds.contains offer.companyId && !isActiveOffer offer.status

def OrderTables.dropDemoTraces (demoIds : List Uuid) (tables : OrderTables) : OrderTables :=
  { tables with
    offers := tables.offers.filter (!·.isDemoTrace demoIds)
    notifications := tables.notifications.filter (!demoIds.contains ·.userId) }

end MyBuild
