import MyBuild.Frontend.DeepLinks

/-!
# The menu of the cabinet

Each role has its own menu.  Every item of it leads to a page of the cabinet the role is let onto,
and on every page of the cabinet one item is marked.
-/

namespace MyBuild

structure NavItem where
  href : String
  label : String
  deriving DecidableEq

structure NavSection where
  title : Option String
  items : List NavItem
  deriving DecidableEq

def clientNavigation : List NavSection :=
  [{ title := none
     items :=
       [{ href := "/orders", label := "Все заказы" },
        { href := "/orders/new", label := "Создать заказ" }] },
   { title := some "Меню"
     items :=
       [{ href := "/contractors", label := "Подрядчики" },
        { href := "/documents", label := "Документы" },
        { href := "/notifications", label := "Уведомления" },
        { href := "/settings", label := "Настройки" }] }]

def companyNavigation : List NavSection :=
  [{ title := none
     items :=
       [{ href := "/available", label := "Доступные заказы" },
        { href := "/offers", label := "Мои предложения" }] },
   { title := some "Меню"
     items :=
       [{ href := "/documents", label := "Документы" },
        { href := "/notifications", label := "Уведомления" },
        { href := "/settings", label := "Настройки" }] }]

def getNavigation : Role → List NavSection
  | .company => companyNavigation
  | .client => clientNavigation

/-- `/orders/<id>`, but not `/orders/new` -/
def isOrderDetail (pathname : List Char) : Bool :=
  isSegmentUnder "/orders/" pathname && pathname != "/orders/new".toList

def isNavItemActive (href : String) (pathname : List Char) (role : Role) : Bool :=
  if href = "/orders" then pathname == "/orders".toList || isOrderDetail pathname
  else if href = "/offers" ∧ role = .company ∧ isOrderDetail pathname then true
  else isUnder href pathname

/-- The items in the order of the page. -/
def navItems (role : Role) : List NavItem := (getNavigation role).flatMap (·.items)

def activeItems (role : Role) (pathname : List Char) : List NavItem :=
  (navItems role).filter (isNavItemActive ·.href pathname role)

variable {session : ProxySession} {url : NextUrl} {role : Role} {pathname : List Char}

theorem isOrderDetail_of_order (isOrder : pageOf pathname = .order) :
    isOrderDetail pathname = true := by
  rcases pageOf_cases pathname with ⟨entry, mem, -, isPage⟩ |
    ⟨notListed, ⟨under, -⟩ | ⟨-, isPage⟩ | isPage⟩
  · have listed : ∀ entry ∈ appRouter, entry.2 ≠ .order := by decide
    exact absurd (isPage.symm.trans isOrder) (listed entry mem)
  · have notNew : pathname ≠ "/orders/new".toList := by
      rintro rfl
      exact notListed ("/orders/new", .newOrder) (by decide) rfl
    simp only [isOrderDetail, under, Bool.true_and, bne_iff_ne, ne_eq, notNew, not_false_iff]
  all_goals
    rw [isPage] at isOrder
    cases isOrder

/-- The page for a new order is another page than that of an order. -/
theorem not_isUnder_newOrder (isDetail : isOrderDetail pathname = true) :
    isUnder "/orders/new" pathname = false := by
  rcases Bool.and_eq_true_iff.mp isDetail with ⟨under, notNew⟩
  rcases exists_segment under with ⟨segment, rfl, -, one⟩
  have other : ("/orders/".toList ++ segment == "/orders/new".toList) = false := by
    simpa using notNew
  have notBelow : ("/orders/new".toList ++ ['/']).isPrefixOf ("/orders/".toList ++ segment) =
      false := by
    apply Bool.eq_false_of_not_eq_true
    intro below
    rcases List.isPrefixOf_iff_prefix.mp below with ⟨rest, same⟩
    have isSegment : "new/".toList ++ rest = segment :=
      @List.append_cancel_left _ "/orders/".toList _ _ same
    apply one
    rw [← isSegment]
    simp
  simp only [isUnder, other, notBelow, Bool.or_self]

theorem length_activeItems_order (isDetail : isOrderDetail pathname = true) :
    (activeItems role pathname).length = 1 := by
  rcases Bool.and_eq_true_iff.mp isDetail with ⟨under, -⟩
  rcases exists_segment under with ⟨segment, isPath, -, -⟩
  cases role with
  | client =>
      have orders : isNavItemActive "/orders" pathname .client = true := by
        simp only [isNavItemActive, if_true, isDetail, Bool.or_true]
      have newOrder : isNavItemActive "/orders/new" pathname .client =
          false := not_isUnder_newOrder isDetail
      have others : ∀ href ∈ ["/contractors", "/documents", "/notifications", "/settings"],
          isNavItemActive href pathname .client = false := by
        simp only [List.forall_mem_cons, isPath]
        exact ⟨rfl, rfl, rfl, rfl, by simp⟩
      simp only [List.forall_mem_cons] at others
      simp [activeItems, navItems, getNavigation, clientNavigation, orders, newOrder, others]
  | company =>
      have offers : isNavItemActive "/offers" pathname .company = true := by
        simp only [isNavItemActive, isDetail]
        rfl
      have others : ∀ href ∈ ["/available", "/documents", "/notifications", "/settings"],
          isNavItemActive href pathname .company = false := by
        simp only [List.forall_mem_cons, isPath]
        exact ⟨rfl, rfl, rfl, rfl, by simp⟩
      simp only [List.forall_mem_cons] at others
      simp [activeItems, navItems, getNavigation, companyNavigation, offers, others]

/-- On a page of the cabinet that the role is let onto, one item is marked. -/
theorem length_activeItems (isApp : (pageOf pathname).isApp = true)
    (allowed : Proxy.isAllowedForRole pathname role = true) :
    (activeItems role pathname).length = 1 := by
  rcases pageOf_cases pathname with ⟨entry, mem, rfl, isPage⟩ |
    ⟨-, ⟨-, isPage⟩ | ⟨isContractor, -⟩ | isPage⟩
  · have listed : ∀ entry ∈ appRouter, entry.2.isApp = true →
        Proxy.isAllowedForRole entry.1.toList role = true →
          (activeItems role entry.1.toList).length = 1 := by
      cases role <;> decide
    exact listed entry mem (isPage ▸ isApp) allowed
  · exact length_activeItems_order (isOrderDetail_of_order isPage)
  · rcases exists_segment isContractor with ⟨segment, rfl, -, -⟩
    have isClient : role = .client := by
      simpa [Proxy.isAllowedForRole] using allowed
    subst isClient
    rfl
  · rw [isPage] at isApp
    cases isApp

/-- A member who sees a page of the cabinet through the proxy has been let onto it. -/
theorem isAllowed_of_visit (member : session.IsMember role)
    (isMatched : Proxy.isMatched url.pathname = true) {page : Page}
    (seen : visit session url = .page page) (isApp : page.isApp = true) :
    (pageOf url.pathname).isApp = true ∧ Proxy.isAllowedForRole url.pathname role = true := by
  simp only [visit, isMatched, if_true] at seen
  split at seen
  case h_1 => cases seen
  case h_2 stays =>
    have isPage := Page.eq_of_answer seen
    rw [isPage] at isApp
    rcases isMember_of_isApp isApp stays with ⟨other, otherMember, allowed⟩
    have same : other = role := Option.some.inj (otherMember.role.symm.trans member.role)
    rw [same] at allowed
    exact ⟨isApp, allowed⟩

/-- No item of the menu is redirected, each marks itself and no other, and on every page of the
cabinet exactly one is marked. -/
theorem menu_marks_one (member : session.IsMember role) :
    (∀ item ∈ navItems role,
        visit session (.page item.href) = .page (pageOf item.href.toList) ∧
          (pageOf item.href.toList).isApp = true ∧
          activeItems role item.href.toList = [item]) ∧
      ∀ url page, Proxy.isMatched url.pathname = true → visit session url = .page page →
        page.isApp = true → ∃ item, activeItems role url.pathname = [item] := by
  constructor
  · intro item mem
    have known : ∀ item ∈ navItems role, Proxy.isAppSection item.href.toList = true ∧
        Proxy.isMatched item.href.toList = true ∧
        Proxy.isAllowedForRole item.href.toList role = true ∧
        (pageOf item.href.toList).isApp = true ∧ activeItems role item.href.toList = [item] := by
      cases role <;> decide
    rcases known item mem with ⟨isSection, isMatched, allowed, isApp, marked⟩
    exact ⟨shown_section member isSection allowed, isApp, marked⟩
  · intro url page isMatched seen isApp
    rcases isAllowed_of_visit member isMatched seen isApp with ⟨isPage, allowed⟩
    exact List.length_eq_one_iff.mp (length_activeItems isPage allowed)

theorem menu_marks_one_company :
    let session : ProxySession :=
      { userId := some "a", role := some .company, emailVerified := true }
    (∀ item ∈ navItems .company,
        visit session (.page item.href) = .page (pageOf item.href.toList) ∧
          (pageOf item.href.toList).isApp = true ∧
          activeItems .company item.href.toList = [item]) ∧
      ∀ url page, Proxy.isMatched url.pathname = true → visit session url = .page page →
        page.isApp = true → ∃ item, activeItems .company url.pathname = [item] :=
  menu_marks_one ⟨by decide, rfl, rfl⟩

end MyBuild
