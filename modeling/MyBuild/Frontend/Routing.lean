import MyBuild.Accounts.Tokens
import MyBuild.Frontend.Redirects
import MyBuild.Library.FormUrlEncoded

/-!
# Which page a visitor sees

Before a page is shown the proxy reads the claims of the session and may send the visitor
elsewhere; the page itself may do so too.  Where the redirects end, the visitor is on a page whose
requests the server answers, and a link that has been opened before the sign-in is not lost.
-/

namespace MyBuild

/-- What the proxy and the pages read of an address. -/
structure NextUrl where
  pathname : List Char
  search : List Char
  deriving DecidableEq

/-- An address as a request has it: blanks, control characters and the marks of the next part are
written with percent signs. -/
structure NextUrl.IsParsed (url : NextUrl) : Prop where
  visible : ∀ char ∈ url.pathname ++ url.search, edgeCharMaxCode < char.toNat
  unquestioned : '?' ∉ url.pathname
  question : url.search = [] ∨ url.search.head? = some '?'

def NextUrl.page (pathname : String) : NextUrl := { pathname := pathname.toList, search := [] }

def NextUrl.href (url : NextUrl) : String := String.ofList (url.pathname ++ url.search)

def readRoleClaim : Option Claim → Option Role
  | some (.string text) =>
      if text = "CLIENT" then some .client
      else if text = "COMPANY" then some .company
      else none
  | _ => none

def readEmailVerifiedClaim : Option Claim → Bool
  | some (.bool false) => false
  | _ => true

namespace SessionIssuePages

def unverifiedEmail : String := "/verify-email"

def missingRole : String := "/no-role"

end SessionIssuePages

def getHomeHref : Option Role → String
  | some .company => "/available"
  | some .client => "/orders"
  | none => SessionIssuePages.missingRole

structure ProxySession where
  userId : Option String
  role : Option Role
  emailVerified : Bool
  deriving DecidableEq

/-- `!userId`: an empty subject is no user. -/
def ProxySession.isGuest (session : ProxySession) : Bool := session.userId.all (·.isEmpty)

/-- Without a session there are no claims, and each is read as missing. -/
def updateSession (session : Option JWTPayload) : ProxySession :=
  let claim (name : String) := session.bind (· name)
  { userId := SupabaseJwtService.readText (claim "sub")
    role := readRoleClaim (claim "user_role")
    emailVerified := readEmailVerifiedClaim (claim "email_verified") }

/-- The page itself, or what lies below it. -/
def isUnder (page : String) (pathname : List Char) : Bool :=
  pathname == page.toList || (page.toList ++ ['/']).isPrefixOf pathname

namespace Proxy

def appSections : List String :=
  ["/orders", "/contractors", "/available", "/offers", "/documents", "/notifications", "/settings"]

def guestOnlyPages : List String := ["/login", "/register", "/forgot-password"]

def sessionIssuePaths : List String :=
  [SessionIssuePages.unverifiedEmail, SessionIssuePages.missingRole]

def authFlowPages : List String := ["/callback", "/reset-password"]

def isAuthFlowPage (pathname : List Char) : Bool := authFlowPages.any (isUnder · pathname)

def isAppSection (pathname : List Char) : Bool := appSections.any (isUnder · pathname)

def isOneOf (pages : List String) (pathname : List Char) : Bool := pages.any (·.toList == pathname)

def isAllowedForRole (pathname : List Char) (role : Role) : Bool :=
  if pathname = "/orders".toList ∨ pathname = "/orders/new".toList then role == .client
  else if "/orders/".toList.isPrefixOf pathname then true
  else if pathname = "/contractors".toList ∨ "/contractors/".toList.isPrefixOf pathname then
    role == .client
  else if pathname = "/available".toList ∨ pathname = "/offers".toList then role == .company
  else true

/-- The matcher lets files with these endings pass by. -/
def fileEndings : List String := ["svg", "png", "jpg", "jpeg", "gif", "webp", "ico"]

def isFaviconPath (rest : List Char) : Bool :=
  rest.take 7 == "favicon".toList && (rest.drop 8).take 3 == "ico".toList

/-- The negative lookahead of the matcher. -/
def isStaticPath (rest : List Char) : Bool :=
  "_next/static".toList.isPrefixOf rest || "_next/image".toList.isPrefixOf rest ||
    isFaviconPath rest || fileEndings.any fun ending => ('.' :: ending.toList).isSuffixOf rest

def isMatched : List Char → Bool
  | '/' :: rest => !isStaticPath rest
  | _ => false

/-- `login.searchParams.set("next", …)` -/
def loginWithNext (url : NextUrl) : NextUrl :=
  { pathname := "/login".toList
    search := '?' :: FormUrlEncoded.serialize [("next", url.href)] }

def stayOrGo (pathname : List Char) (target : String) : Option NextUrl :=
  if pathname = target.toList then none else some (.page target)

/-- Nobody is signed in. -/
def redirectGuest (url : NextUrl) : Option NextUrl :=
  if isAppSection url.pathname then some (loginWithNext url)
  else if isOneOf sessionIssuePaths url.pathname then some (.page "/login")
  else none

def redirectMember (pathname : List Char) (role : Role) : Option NextUrl :=
  if isOneOf guestOnlyPages pathname || isOneOf sessionIssuePaths pathname then
    some (.page (getHomeHref (some role)))
  else if !isAllowedForRole pathname role then some (.page (getHomeHref (some role)))
  else none

/-- Where the request is sent, if it is sent anywhere. -/
def proxy (session : ProxySession) (url : NextUrl) : Option NextUrl :=
  if session.isGuest then redirectGuest url
  else if isAuthFlowPage url.pathname then none
  else if !session.emailVerified then stayOrGo url.pathname SessionIssuePages.unverifiedEmail
  else
    match session.role with
    | none => stayOrGo url.pathname SessionIssuePages.missingRole
    | some role => redirectMember url.pathname role

end Proxy

inductive Page where
  | landing
  | login
  | register
  | forgotPassword
  | resetPassword
  | callback
  | callbackComplete
  | noRole
  | verifyEmail
  | orders
  | newOrder
  | order
  | offers
  | available
  | contractors
  | contractor
  | documents
  | notifications
  | settings
  | notFound
  deriving DecidableEq

/-- The files `page.tsx` and `route.ts` of the application by their folders. -/
def appRouter : List (String × Page) :=
  [("/", .landing), ("/login", .login), ("/register", .register),
    ("/forgot-password", .forgotPassword), ("/reset-password", .resetPassword),
    ("/callback", .callback), ("/callback/complete", .callbackComplete), ("/no-role", .noRole),
    ("/verify-email", .verifyEmail), ("/orders", .orders), ("/orders/new", .newOrder),
    ("/offers", .offers), ("/available", .available), ("/contractors", .contractors),
    ("/documents", .documents), ("/notifications", .notifications), ("/settings", .settings)]

/-- `[id]`: one more segment, of any text. -/
def isSegmentUnder (folder : String) (pathname : List Char) : Bool :=
  folder.toList.isPrefixOf pathname &&
    let segment := pathname.drop folder.toList.length
    !segment.isEmpty && !segment.contains '/'

/-- A folder with a name of its own comes before a folder for any segment.  Paths are compared as
they are written: one with a slash at its end, which the framework redirects first, and a segment
spelled with percent signs are found under no name here. -/
def pageOf (pathname : List Char) : Page :=
  match appRouter.find? (·.1.toList == pathname) with
  | some (_, page) => page
  | none =>
      if isSegmentUnder "/orders/" pathname then .order
      else if isSegmentUnder "/contractors/" pathname then .contractor
      else .notFound

/-- The pages in the frame of the cabinet. -/
def Page.isApp : Page → Bool
  | .orders | .newOrder | .order | .offers | .available | .contractors | .contractor | .documents
  | .notifications | .settings => true
  | _ => false

/-- A route handler answers in its own way. -/
inductive Answer where
  | redirect (target : NextUrl)
  | page (page : Page)
  | handler
  deriving DecidableEq

/-- To the pages any subject that is a text is a session. -/
def Page.answer (session : ProxySession) : Page → Answer
  | .callback => .handler
  | .landing =>
      if session.userId.isSome then .redirect (.page (getHomeHref session.role))
      else .page .landing
  | .noRole =>
      if session.userId.isSome then .page .noRole else .redirect (.page "/login")
  | .verifyEmail =>
      if session.userId.isSome then .page .verifyEmail else .redirect (.page "/login")
  | page =>
      if page.isApp && session.userId.isNone then .redirect (.page "/login") else .page page

def visit (session : ProxySession) (url : NextUrl) : Answer :=
  match if Proxy.isMatched url.pathname then Proxy.proxy session url else none with
  | some target => .redirect target
  | none => (pageOf url.pathname).answer session

/-- At most so many redirects are followed. -/
def follow (session : ProxySession) : ℕ → NextUrl → NextUrl
  | 0, url => url
  | more + 1, url =>
      match visit session url with
      | .redirect target => follow session more target
      | _ => url

inductive ApiRoute where
  | profile
  | unreadCount
  | orders
  | order
  | availableOrders
  | companyOffers
  | contractors
  | contractor
  | documents
  | notifications
  deriving DecidableEq

/-- The roles the controllers ask for. -/
def ApiRoute.role : ApiRoute → Option Role
  | .orders | .contractors | .contractor => some .client
  | .availableOrders | .companyOffers => some .company
  | .profile | .unreadCount | .order | .documents | .notifications => none

/-- What the page asks the server for; the frame asks for the user and the count of unread
notifications, and the filter of the documents has a source for each role. -/
def Page.requests (role : Role) (page : Page) : List ApiRoute :=
  (if page.isApp then [.profile, .unreadCount] else []) ++
    match page with
    | .orders => [.orders]
    | .order => [.order]
    | .available => [.availableOrders]
    | .offers => [.companyOffers]
    | .contractors => [.contractors]
    | .contractor => [.contractor]
    | .documents => [.documents, if role = .client then .orders else .companyOffers]
    | .notifications => [.notifications]
    | _ => []

def QueryParameter.read (name : String) (pairs : List (String × String)) : QueryParameter :=
  match (pairs.filter (·.1 == name)).map (·.2) with
  | [] => .absent
  | [value] => .single value
  | values => .several values

/-- The address the form of the login page is given. -/
def LoginPage.next (search : List Char) : Option String := do
  let pairs ← FormUrlEncoded.parse (search.drop 1)
  some (safeNextPath (.read "next" pairs) "/")

def resolveAfterAuthHref (next : String) (session : Option JWTPayload) : String :=
  if next ≠ "/" then next else getHomeHref (updateSession session).role

namespace ProxySession

/-- Signed in, verified and with a role. -/
structure IsMember (session : ProxySession) (role : Role) : Prop where
  notGuest : session.isGuest = false
  emailVerified : session.emailVerified = true
  role : session.role = some role

theorem isGuest_of_isNone {session : ProxySession} (none : session.userId = none) :
    session.isGuest = true := by
  simp [isGuest, none]

end ProxySession

/-- Where a redirect may lead, and for whom. -/
inductive Destination (session : ProxySession) (target : NextUrl) : Prop where
  | login (guest : session.isGuest = true) (isLogin : target.pathname = "/login".toList)
  | guestHome (guest : session.isGuest = true) (isHome : target = .page (getHomeHref session.role))
  | unverified (notGuest : session.isGuest = false) (notVerified : session.emailVerified = false)
      (isPage : target = .page SessionIssuePages.unverifiedEmail)
  | missingRole (notGuest : session.isGuest = false) (verified : session.emailVerified = true)
      (missing : session.role = none) (isPage : target = .page SessionIssuePages.missingRole)
  | home {role : Role} (member : session.IsMember role)
      (isHome : target = .page (getHomeHref (some role)))

variable {session : ProxySession} {url target : NextUrl} {role : Role} {pathname : List Char}

/-- A path is one of those listed, or one segment below a folder. -/
theorem pageOf_cases (pathname : List Char) :
    (∃ entry ∈ appRouter, entry.1.toList = pathname ∧ pageOf pathname = entry.2) ∨
      ((∀ entry ∈ appRouter, entry.1.toList ≠ pathname) ∧
        ((isSegmentUnder "/orders/" pathname = true ∧ pageOf pathname = .order) ∨
          (isSegmentUnder "/contractors/" pathname = true ∧ pageOf pathname = .contractor) ∨
          pageOf pathname = .notFound)) := by
  cases found : appRouter.find? (·.1.toList == pathname) with
  | some entry =>
      left
      refine ⟨entry, List.mem_of_find?_eq_some found, ?_, by simp only [pageOf, found]⟩
      simpa using List.find?_some found
  | none =>
      right
      constructor
      · intro entry mem isPath
        simpa [isPath] using List.find?_eq_none.mp found entry mem
      · simp only [pageOf, found]
        split
        case isTrue isOrder => exact Or.inl ⟨isOrder, rfl⟩
        case isFalse =>
          split
          case isTrue isContractor => exact Or.inr (Or.inl ⟨isContractor, rfl⟩)
          case isFalse => exact Or.inr (Or.inr rfl)

/-- A page that is listed under one path only is found nowhere else. -/
theorem pathname_of_page {page : Page} {path : String} (isPage : pageOf pathname = page)
    (listed : ∀ entry ∈ appRouter, entry.2 = page → entry.1 = path)
    (noSegment : page ≠ .order ∧ page ≠ .contractor ∧ page ≠ .notFound) :
    pathname = path.toList := by
  rcases pageOf_cases pathname with ⟨entry, mem, rfl, isEntry⟩ |
    ⟨-, ⟨-, isOrder⟩ | ⟨-, isContractor⟩ | isNotFound⟩
  · rw [listed entry mem (isEntry.symm.trans isPage)]
  · exact absurd (isPage.symm.trans isOrder) noSegment.1
  · exact absurd (isPage.symm.trans isContractor) noSegment.2.1
  · exact absurd (isPage.symm.trans isNotFound) noSegment.2.2

namespace Proxy

theorem destination_of_proxy (sent : proxy session url = some target) :
    Destination session target := by
  simp only [proxy] at sent
  split at sent
  case isTrue guest =>
    apply Destination.login guest
    simp only [redirectGuest] at sent
    split at sent
    · cases sent
      rfl
    · split at sent
      · cases sent
        rfl
      · cases sent
  case isFalse user =>
    have notGuest := Bool.eq_false_of_not_eq_true user
    split at sent
    case isTrue => cases sent
    case isFalse =>
      split at sent
      case isTrue notVerified =>
        simp only [stayOrGo] at sent
        split at sent
        · cases sent
        · apply Destination.unverified notGuest (by simpa using notVerified)
          exact (Option.some.inj sent).symm
      case isFalse verified =>
        split at sent
        case h_1 missing =>
          simp only [stayOrGo] at sent
          split at sent
          · cases sent
          · apply Destination.missingRole notGuest (by simpa using verified) missing
            exact (Option.some.inj sent).symm
        case h_2 role isRole =>
          apply Destination.home ⟨notGuest, by simpa using verified, isRole⟩
          simp only [redirectMember] at sent
          split at sent
          · exact (Option.some.inj sent).symm
          · split at sent
            · exact (Option.some.inj sent).symm
            · cases sent

/-- A user who is let onto the landing page is a member. -/
theorem isMember_of_landing (notGuest : session.isGuest = false)
    (stays : proxy session { url with pathname := "/".toList } = none) :
    ∃ role, session.IsMember role := by
  have notFlow : isAuthFlowPage "/".toList = false := by decide
  simp only [proxy, notGuest, notFlow, Bool.false_eq_true, if_false] at stays
  split at stays
  case isTrue => cases stays
  case isFalse verified =>
    split at stays
    case h_1 => cases stays
    case h_2 role isRole => exact ⟨role, notGuest, by simpa using verified, isRole⟩

end Proxy

theorem Page.destination_of_answer {page : Page}
    (landing : page = .landing → session.isGuest = true ∨ ∃ role, session.IsMember role)
    (sent : page.answer session = .redirect target) : Destination session target := by
  cases signed : session.userId with
  | none =>
      have guest := ProxySession.isGuest_of_isNone signed
      have isLogin : target = .page "/login" := by
        cases page <;> simp_all [Page.answer, Page.isApp]
      exact .login guest (by rw [isLogin]; rfl)
  | some id =>
      have isLanding : page = .landing := by
        cases page <;> simp_all [Page.answer, Page.isApp]
      have isHome : target = .page (getHomeHref session.role) := by
        rw [isLanding] at sent
        simp only [Page.answer, signed, Option.isSome_some, if_true] at sent
        exact (Answer.redirect.inj sent).symm
      rcases landing isLanding with guest | ⟨role, member⟩
      · exact .guestHome guest isHome
      · rw [member.role] at isHome
        exact .home member isHome

theorem destination_of_visit (sent : visit session url = .redirect target) :
    Destination session target := by
  simp only [visit] at sent
  split at sent
  case h_1 other found =>
    cases sent
    split at found
    · exact Proxy.destination_of_proxy found
    · cases found
  case h_2 stays =>
    apply Page.destination_of_answer ?_ sent
    intro isLanding
    have isRoot : url.pathname = "/".toList :=
      pathname_of_page isLanding (by decide) (by decide)
    have isMatched : Proxy.isMatched "/".toList = true := by decide
    rw [isRoot, if_pos isMatched] at stays
    cases guest : session.isGuest with
    | true => exact Or.inl rfl
    | false =>
      right
      apply @Proxy.isMember_of_landing _ url guest
      rw [← isRoot]
      exact stays

/-- The visitor sees the page of the address. -/
def Shown (session : ProxySession) (url : NextUrl) : Prop :=
  visit session url = .page (pageOf url.pathname)

theorem shown_of_proxy {page : Page} (stays : Proxy.proxy session url = none)
    (isPage : pageOf url.pathname = page) (answered : page.answer session = .page page) :
    Shown session url := by
  simp only [Shown, visit, stays, ite_self, isPage, answered]

theorem shown_login (guest : session.isGuest = true) (isLogin : url.pathname = "/login".toList) :
    Shown session url := by
  have notApp : Proxy.isAppSection "/login".toList = false := by decide
  have notIssue : Proxy.isOneOf Proxy.sessionIssuePaths "/login".toList = false := by
    decide
  apply @shown_of_proxy _ _ .login
  · simp only [Proxy.proxy, guest, if_true, Proxy.redirectGuest, isLogin, notApp, notIssue,
      Bool.false_eq_true, if_false]
  · rw [isLogin]
    decide
  · rfl

/-- Home and the pages about the session are no place for a guest. -/
theorem visit_home_of_guest (guest : session.isGuest = true) (role : Option Role) :
    ∃ login, visit session (.page (getHomeHref role)) = .redirect login ∧
      login.pathname = "/login".toList := by
  have sent : ∃ login,
      Proxy.redirectGuest (.page (getHomeHref role)) = some login ∧
        login.pathname = "/login".toList := by
    rcases role with _ | _ | _
    · exact ⟨.page "/login", by decide, rfl⟩
    · exact ⟨Proxy.loginWithNext (.page "/orders"), by decide, rfl⟩
    · exact ⟨Proxy.loginWithNext (.page "/available"), by decide, rfl⟩
  have isMatched : Proxy.isMatched (getHomeHref role).toList = true := by
    rcases role with _ | _ | _ <;> decide
  rcases sent with ⟨login, isSent, isLogin⟩
  refine ⟨login, ?_, isLogin⟩
  have proxied : Proxy.proxy session (.page (getHomeHref role)) = some login := by
    simp only [Proxy.proxy, guest, if_true, isSent]
  simp only [visit, NextUrl.page, isMatched, if_true]
  rw [NextUrl.page] at proxied
  rw [proxied]

theorem isSome_of_user (notGuest : session.isGuest = false) : session.userId.isSome = true := by
  cases signed : session.userId with
  | none => simp [ProxySession.isGuest, signed] at notGuest
  | some id => rfl

theorem shown_unverifiedEmail (notGuest : session.isGuest = false)
    (notVerified : session.emailVerified = false) :
    Shown session (.page SessionIssuePages.unverifiedEmail) := by
  have notFlow : Proxy.isAuthFlowPage SessionIssuePages.unverifiedEmail.toList = false := by
    decide
  apply @shown_of_proxy _ _ .verifyEmail
  · simp only [Proxy.proxy, notGuest, NextUrl.page, notFlow, notVerified, Proxy.stayOrGo,
      Bool.false_eq_true, if_false, Bool.not_false, if_true]
  · decide
  · simp only [Page.answer, isSome_of_user notGuest, if_true]

theorem shown_missingRole (notGuest : session.isGuest = false)
    (verified : session.emailVerified = true) (missing : session.role = none) :
    Shown session (.page SessionIssuePages.missingRole) := by
  have notFlow : Proxy.isAuthFlowPage SessionIssuePages.missingRole.toList = false := by
    decide
  apply @shown_of_proxy _ _ .noRole
  · simp only [Proxy.proxy, notGuest, NextUrl.page, notFlow, verified, missing, Proxy.stayOrGo,
      Bool.false_eq_true, if_false, Bool.not_true, if_true]
  · decide
  · simp only [Page.answer, isSome_of_user notGuest, if_true]

theorem proxy_of_member (member : session.IsMember role)
    (notFlow : Proxy.isAuthFlowPage url.pathname = false) :
    Proxy.proxy session url = Proxy.redirectMember url.pathname role := by
  simp only [Proxy.proxy, member.notGuest, notFlow, member.emailVerified, member.role,
    Bool.false_eq_true, if_false, Bool.not_true]

/-- A user is shown every page but the one for visitors, and the link of a letter. -/
theorem Page.answer_of_user {page : Page} (signed : session.userId.isSome = true)
    (notLanding : page ≠ .landing) (notCallback : page ≠ .callback) :
    page.answer session = .page page := by
  rcases Option.isSome_iff_exists.mp signed with ⟨id, isUser⟩
  cases page <;> simp_all [Page.answer, Page.isApp]

theorem shown_home (member : session.IsMember role) :
    Shown session (.page (getHomeHref (some role))) := by
  apply shown_of_proxy ?_ rfl
  · apply Page.answer_of_user (isSome_of_user member.notGuest)
    · cases role <;> decide
    · cases role <;> decide
  · rw [proxy_of_member member]
    · cases role <;> decide
    · cases role <;> decide

/-- A redirect leads to a page that is shown; but a guest whose subject is empty is sent on to the
login page. -/
theorem Destination.shown (destination : Destination session target) :
    Shown session target ∨
      ∃ login, visit session target = .redirect login ∧ Shown session login := by
  cases destination with
  | login guest isLogin => exact Or.inl (shown_login guest isLogin)
  | guestHome guest isHome =>
      rcases visit_home_of_guest guest session.role with ⟨login, isSent, isLogin⟩
      right
      rw [isHome]
      exact ⟨login, isSent, shown_login guest isLogin⟩
  | unverified notGuest notVerified isPage =>
      rw [isPage]
      exact Or.inl (shown_unverifiedEmail notGuest notVerified)
  | missingRole notGuest verified missing isPage =>
      rw [isPage]
      exact Or.inl (shown_missingRole notGuest verified missing)
  | home member isHome =>
      rw [isHome]
      exact Or.inl (shown_home member)

theorem Shown.follow_eq (shown : Shown session url) (fuel : ℕ) : follow session fuel url = url := by
  cases fuel with
  | zero => rfl
  | succ more => simp only [follow, show visit session url = _ from shown]

theorem Page.eq_of_answer {page shown : Page} (answered : page.answer session = .page shown) :
    shown = page := by
  cases signed : session.userId <;> cases page <;> simp_all [Page.answer, Page.isApp]

theorem Page.eq_callback_of_answer {page : Page} (answered : page.answer session = .handler) :
    page = .callback := by
  cases signed : session.userId <;> cases page <;> simp_all [Page.answer, Page.isApp]

/-- Whoever is not redirected sees the page of the address, unless it is the link of a letter. -/
theorem shown_or_redirected (notCallback : url.pathname ≠ "/callback".toList) :
    Shown session url ∨ ∃ target, visit session url = .redirect target := by
  simp only [Shown, visit]
  split
  case h_1 target _ => exact Or.inr ⟨target, rfl⟩
  case h_2 =>
    cases answered : (pageOf url.pathname).answer session with
    | redirect target => exact Or.inr ⟨target, rfl⟩
    | page shown => exact Or.inl (by rw [Page.eq_of_answer answered])
    | handler =>
        exact absurd (pathname_of_page (Page.eq_callback_of_answer answered) (by decide)
          (by decide)) notCallback

/-- Two redirects at most. -/
theorem shown_follow (notCallback : url.pathname ≠ "/callback".toList) :
    Shown session (follow session 2 url) := by
  rcases shown_or_redirected notCallback with shown | ⟨target, sent⟩
  · rw [shown.follow_eq]
    exact shown
  · have first : follow session 2 url = follow session 1 target := by simp only [follow, sent]
    rw [first]
    rcases (destination_of_visit sent).shown with shown | ⟨login, again, shown⟩
    · rw [shown.follow_eq]
      exact shown
    · simp only [follow, again]
      exact shown

theorem exists_segment {folder : String} (under : isSegmentUnder folder pathname = true) :
    ∃ segment, pathname = folder.toList ++ segment ∧ segment ≠ [] ∧ '/' ∉ segment := by
  simp only [isSegmentUnder, Bool.and_eq_true] at under
  rcases under with ⟨starts, some, one⟩
  rcases List.isPrefixOf_iff_prefix.mp starts with ⟨segment, rfl⟩
  rw [List.drop_left] at some one
  exact ⟨segment, rfl, by simpa using some, by simpa using one⟩

/-- The pages of the cabinet are those the proxy guards, and none of them belongs to the
sign-in. -/
theorem isAppSection_of_isApp (isApp : (pageOf pathname).isApp = true) :
    Proxy.isAppSection pathname = true ∧ Proxy.isAuthFlowPage pathname = false ∧
      Proxy.isOneOf Proxy.sessionIssuePaths pathname = false := by
  rcases pageOf_cases pathname with ⟨entry, mem, rfl, isPage⟩ |
    ⟨-, ⟨isOrder, -⟩ | ⟨isContractor, -⟩ | isPage⟩
  · have listed : ∀ entry ∈ appRouter, entry.2.isApp = true →
        Proxy.isAppSection entry.1.toList = true ∧
          Proxy.isAuthFlowPage entry.1.toList = false ∧
          Proxy.isOneOf Proxy.sessionIssuePaths entry.1.toList = false := by
      decide
    exact listed entry mem (isPage ▸ isApp)
  · rcases exists_segment isOrder with ⟨segment, rfl, -, -⟩
    exact ⟨rfl, rfl, rfl⟩
  · rcases exists_segment isContractor with ⟨segment, rfl, -, -⟩
    exact ⟨rfl, rfl, rfl⟩
  · rw [isPage] at isApp
    cases isApp

/-- Who sees a page of the cabinet has passed the proxy as a member. -/
theorem isMember_of_isApp (isApp : (pageOf url.pathname).isApp = true)
    (stays : Proxy.proxy session url = none) :
    ∃ role, session.IsMember role ∧ Proxy.isAllowedForRole url.pathname role = true := by
  rcases isAppSection_of_isApp isApp with ⟨isSection, notFlow, notIssue⟩
  have stayed : ∀ target ∈ Proxy.sessionIssuePaths,
      Proxy.stayOrGo url.pathname target ≠ none := by
    intro target mem
    have other : url.pathname ≠ target.toList := by
      intro same
      simp only [Proxy.isOneOf, List.any_eq_false] at notIssue
      simpa [same] using notIssue target mem
    simp [Proxy.stayOrGo, other]
  cases guest : session.isGuest with
  | true =>
      simp [Proxy.proxy, guest, Proxy.redirectGuest, isSection] at stays
  | false =>
      simp only [Proxy.proxy, guest, notFlow, Bool.false_eq_true, if_false] at stays
      split at stays
      case isTrue => exact absurd stays (stayed _ (by decide))
      case isFalse verified =>
        split at stays
        case h_1 => exact absurd stays (stayed _ (by decide))
        case h_2 role isRole =>
          refine ⟨role, ⟨guest, by simpa using verified, isRole⟩, ?_⟩
          simp only [Proxy.redirectMember] at stays
          split at stays
          · cases stays
          · simpa using stays

/-- A page the role is let onto asks for nothing the role may not have. -/
theorem role_of_requests (allowed : Proxy.isAllowedForRole pathname role = true) :
    ∀ route ∈ (pageOf pathname).requests role, ∀ required ∈ route.role, required = role := by
  rcases pageOf_cases pathname with ⟨entry, mem, rfl, isPage⟩ |
    ⟨-, ⟨-, isPage⟩ | ⟨isContractor, isPage⟩ | isPage⟩
  · have listed : ∀ entry ∈ appRouter, Proxy.isAllowedForRole entry.1.toList role = true →
        ∀ route ∈ entry.2.requests role, ∀ required ∈ route.role, required = role := by
      cases role <;> decide
    rw [isPage]
    exact listed entry mem allowed
  · rw [isPage]
    cases role <;> decide
  · rcases exists_segment isContractor with ⟨segment, rfl, -, -⟩
    have isClient : role = .client := by
      simpa [Proxy.isAllowedForRole] using allowed
    rw [isPage, isClient]
    decide
  · rw [isPage]
    simp [Page.requests, Page.isApp]

theorem readRoleClaim_eq {payload : JWTPayload} :
    readRoleClaim (payload "user_role") = SupabaseJwtService.readRole payload := rfl

theorem readEmailVerifiedClaim_eq {payload : JWTPayload} :
    readEmailVerifiedClaim (payload "email_verified") =
      SupabaseJwtService.readEmailVerified payload := rfl

/-- The server reads of a token what the proxy has read of it. -/
theorem verifyToken_of_member {known : Option JWTPayload}
    (member : (updateSession known).IsMember role) :
    ∃ payload, known = some payload ∧
      ∀ jwt tokens now token, JWTVerify.verify jwt tokens now token = some payload →
        ∃ verified, SupabaseJwtService.verifyToken jwt tokens now token = .ok verified ∧
          verified.user.emailVerified = true ∧ verified.user.role = some role := by
  have notGuest := member.notGuest
  cases known with
  | none => cases notGuest
  | some payload =>
      refine ⟨payload, rfl, ?_⟩
      intro jwt tokens now token isPayload
      have emailVerified := member.emailVerified
      have isRole := member.role
      simp only [updateSession, Option.bind_some, readRoleClaim_eq,
        readEmailVerifiedClaim_eq] at emailVerified isRole
      simp only [ProxySession.isGuest, updateSession, Option.bind_some] at notGuest
      cases isSub : SupabaseJwtService.readText (payload "sub") with
      | none => simp [isSub] at notGuest
      | some id =>
          rw [isSub] at notGuest
          have isText : payload "sub" = some (.string id) := by
            revert isSub
            simp only [SupabaseJwtService.readText]
            split
            case h_1 text isClaim =>
              intro same
              rw [isClaim, Option.some.inj same]
            case h_2 => rintro ⟨⟩
          have nonempty : id ≠ "" := by
            rintro rfl
            cases notGuest
          exact ⟨_, SupabaseJwtService.verifyToken_eq_ok.mpr
            ⟨payload, id, isPayload, isText, nonempty, rfl⟩, emailVerified, isRole⟩

/-- Wherever a visitor goes, two redirects at most lead to a page that is shown; and on a page of
the cabinet whose requests carry the token of the visitor, no guard of the server refuses one. -/
theorem redirects_end_where_served (known : Option JWTPayload) (url : NextUrl)
    (notCallback : url.pathname ≠ "/callback".toList) :
    let place := follow (updateSession known) 2 url
    let page := pageOf place.pathname
    visit (updateSession known) place = .page page ∧
      (page.isApp = true → Proxy.isMatched place.pathname = true →
        ∃ payload, known = some payload ∧
          ∀ jwt tokens now token, JWTVerify.verify jwt tokens now token = some payload →
            ∃ verified role, SupabaseJwtService.verifyToken jwt tokens now token = .ok verified ∧
              verified.user.emailVerified = true ∧ verified.user.role = some role ∧
              ∀ route ∈ page.requests role, ∀ required ∈ route.role,
                verified.user.role = some required) := by
  intro place page
  have shown : Shown (updateSession known) place := shown_follow notCallback
  refine ⟨shown, ?_⟩
  intro isApp isMatched
  have stays : Proxy.proxy (updateSession known) place = none := by
    simp only [Shown, visit, isMatched, if_true] at shown
    split at shown
    case h_1 => cases shown
    case h_2 stays => exact stays
  rcases isMember_of_isApp isApp stays with ⟨role, member, allowed⟩
  rcases verifyToken_of_member member with ⟨payload, isKnown, served⟩
  refine ⟨payload, isKnown, ?_⟩
  intro jwt tokens now token isPayload
  rcases served jwt tokens now token isPayload with ⟨verified, returned, isVerified, isRole⟩
  refine ⟨verified, role, returned, isVerified, isRole, ?_⟩
  intro route mem required isRequired
  rw [isRole, role_of_requests allowed route mem required isRequired]

theorem redirects_end_where_served_company :
    let payload : JWTPayload := fun name =>
      if name = "sub" then some (.string (Uuid.toText ⟨3⟩))
      else if name = "user_role" then some (.string "COMPANY")
      else none
    let place := follow (updateSession (some payload)) 2 (.page "/contractors")
    let page := pageOf place.pathname
    visit (updateSession (some payload)) place = .page page ∧
      (page.isApp = true → Proxy.isMatched place.pathname = true →
        ∃ known, some payload = some known ∧
          ∀ jwt tokens now token, JWTVerify.verify jwt tokens now token = some known →
            ∃ verified role, SupabaseJwtService.verifyToken jwt tokens now token = .ok verified ∧
              verified.user.emailVerified = true ∧ verified.user.role = some role ∧
              ∀ route ∈ page.requests role, ∀ required ∈ route.role,
                verified.user.role = some required) :=
  redirects_end_where_served _ (.page "/contractors") (by decide)

end MyBuild
