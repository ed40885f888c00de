import MyBuild.Frontend.ListParams

/-!
# The six lists of the cabinet

A page reads its filter from the address, asks the server for it, and links to the same list with
another filter.  Whatever the address, the request is one the server accepts; and a link leads to
the filter it was made of.
-/

namespace MyBuild

structure OrdersFilter where
  status : Option OrderStatus
  q : String
  page : ℕ
  deriving DecidableEq

structure CompanyOffersFilter where
  status : Option OfferStatus
  page : ℕ
  deriving DecidableEq

/-- The feed of orders and the catalogue of contractors have a search and pages, and nothing
else. -/
structure SearchFilter where
  q : String
  page : ℕ
  deriving DecidableEq

structure NotificationsFilter where
  unread : Bool
  page : ℕ
  deriving DecidableEq

structure DocumentsFilter where
  ownerType : Option FileOwnerType
  orderId : Option String
  page : ℕ
  deriving DecidableEq

variable (platform : Platform)

namespace OrdersFilter

def parse (params : SearchParams) : OrdersFilter :=
  { status := readEnumParam OrderStatus.values OrderStatus.value (params "status")
    q := readQueryParam (params "q")
    page := readPageParam platform.number (params "page") }

def href (filter : OrdersFilter) : NextUrl :=
  listHref "/orders"
    [("status", filter.status.map OrderStatus.value), ("q", some filter.q),
      ("page", pageInHref filter.page)]

def query (filter : OrdersFilter) : List (String × Option String) :=
  [("status", filter.status.map OrderStatus.value), ("q", some filter.q)] ++
    pageInQuery filter.page

end OrdersFilter

namespace CompanyOffersFilter

def parse (params : SearchParams) : CompanyOffersFilter :=
  { status := readEnumParam OfferStatus.values OfferStatus.value (params "status")
    page := readPageParam platform.number (params "page") }

def href (filter : CompanyOffersFilter) : NextUrl :=
  listHref "/offers"
    [("status", filter.status.map OfferStatus.value), ("page", pageInHref filter.page)]

def query (filter : CompanyOffersFilter) : List (String × Option String) :=
  ("status", filter.status.map OfferStatus.value) :: pageInQuery filter.page

end CompanyOffersFilter

namespace SearchFilter

def parse (params : SearchParams) : SearchFilter :=
  { q := readQueryParam (params "q"), page := readPageParam platform.number (params "page") }

def href (base : String) (filter : SearchFilter) : NextUrl :=
  listHref base [("q", some filter.q), ("page", pageInHref filter.page)]

def query (filter : SearchFilter) : List (String × Option String) :=
  ("q", some filter.q) :: pageInQuery filter.page

end SearchFilter

def parseAvailableFilter (params : SearchParams) : SearchFilter := .parse platform params

def availableHref (filter : SearchFilter) : NextUrl := filter.href "/available"

def parseContractorsFilter (params : SearchParams) : SearchFilter := .parse platform params

def contractorsHref (filter : SearchFilter) : NextUrl := filter.href "/contractors"

namespace NotificationsFilter

def parse (params : SearchParams) : NotificationsFilter :=
  { unread := firstParam (params "unread") == some "true"
    page := readPageParam platform.number (params "page") }

def unreadParam (filter : NotificationsFilter) : Option String :=
  if filter.unread then some "true" else none

def href (filter : NotificationsFilter) : NextUrl :=
  listHref "/notifications"
    [("unread", filter.unreadParam), ("page", pageInHref filter.page)]

def query (filter : NotificationsFilter) : List (String × Option String) :=
  ("unread", filter.unreadParam) :: pageInQuery filter.page

end NotificationsFilter

namespace DocumentsFilter

def parse (params : SearchParams) : DocumentsFilter :=
  { ownerType := readEnumParam FileOwnerType.values FileOwnerType.value (params "ownerType")
    orderId := readUuidParam (params "orderId")
    page := readPageParam platform.number (params "page") }

def href (filter : DocumentsFilter) : NextUrl :=
  listHref "/documents"
    [("ownerType", filter.ownerType.map FileOwnerType.value), ("orderId", filter.orderId),
      ("page", pageInHref filter.page)]

def query (filter : DocumentsFilter) : List (String × Option String) :=
  [("ownerType", filter.ownerType.map FileOwnerType.value), ("orderId", filter.orderId)] ++
    pageInQuery filter.page

end DocumentsFilter

/-- A list of the cabinet: its page, the links and the requests of the page, and the route that
answers them. -/
structure ListSection (Filter Dto : Type) where
  base : String
  parse : SearchParams → Filter
  href : Filter → NextUrl
  query : Filter → List (String × Option String)
  receive : ListQuery → Except QueryErrors Dto
  asked : Filter → Dto

/-- Every address is read as a filter the page may have; for each such filter the route receives
what the page has asked for, or answers with the refusals; and a link to it asks for the same. -/
structure ListSection.Understood {Filter Dto : Type} (list : ListSection Filter Dto)
    (IsValid : Filter → Prop) (refusals : Filter → QueryErrors) : Prop where
  valid : ∀ params, IsValid (list.parse params)
  received : ∀ filter, IsValid filter →
    list.receive (listQuery (list.query filter)) =
      MyBuild.receive (refusals filter) (list.asked filter)
  linked : ∀ filter, IsValid filter →
    (list.href filter).pathname = list.base.toList ∧
      ∃ pairs, FormUrlEncoded.parse ((list.href filter).search.drop 1) = some pairs ∧
        list.asked (list.parse (.ofPairs pairs)) = list.asked filter

def IsPage (page : ℕ) : Prop := 1 ≤ page ∧ page ≤ MAX_PAGE

def asksFor (page : ℕ) : PaginationQueryDto := ⟨some page, some DEFAULT_PAGE_SIZE⟩

def ordersList : ListSection OrdersFilter ListOrdersQueryDto :=
  { base := "/orders"
    parse := OrdersFilter.parse platform
    href := OrdersFilter.href
    query := OrdersFilter.query
    receive := ListOrdersQueryDto.receive platform
    asked := fun filter =>
      { asksFor filter.page with q := optionalText (some filter.q), status := filter.status } }

def searchList (base : String) : ListSection SearchFilter SearchQueryDto :=
  { base
    parse := SearchFilter.parse platform
    href := SearchFilter.href base
    query := SearchFilter.query
    receive := SearchQueryDto.receive platform
    asked := fun filter => { asksFor filter.page with q := optionalText (some filter.q) } }

def availableList : ListSection SearchFilter SearchQueryDto :=
  { searchList platform "/available" with
    parse := parseAvailableFilter platform
    href := availableHref }

def contractorsList : ListSection SearchFilter SearchQueryDto :=
  { searchList platform "/contractors" with
    parse := parseContractorsFilter platform
    href := contractorsHref }

def companyOffersList : ListSection CompanyOffersFilter ListCompanyOffersQueryDto :=
  { base := "/offers"
    parse := CompanyOffersFilter.parse platform
    href := CompanyOffersFilter.href
    query := CompanyOffersFilter.query
    receive := ListCompanyOffersQueryDto.receive platform
    asked := fun filter => { asksFor filter.page with status := filter.status, executor := none } }

def notificationsList : ListSection NotificationsFilter ListNotificationsQueryDto :=
  { base := "/notifications"
    parse := NotificationsFilter.parse platform
    href := NotificationsFilter.href
    query := NotificationsFilter.query
    receive := ListNotificationsQueryDto.receive platform
    asked := fun filter => { asksFor filter.page with unread := filter.unreadParam } }

def documentsList : ListSection DocumentsFilter ListDocumentsQueryDto :=
  { base := "/documents"
    parse := DocumentsFilter.parse platform
    href := DocumentsFilter.href
    query := DocumentsFilter.query
    receive := ListDocumentsQueryDto.receive platform
    asked := fun filter =>
      { asksFor filter.page with ownerType := filter.ownerType, orderId := filter.orderId } }

variable {platform}

theorem ordersList_understood (documented : platform.Documented) :
    (ordersList platform).Understood
      (fun filter => IsPage filter.page ∧ utf16Length filter.q ≤ MAX_QUERY_LENGTH)
      fun _ => [] where
  valid params := ⟨readPageParam_mem _ _, utf16Length_readQueryParam _⟩
  received := by
    rintro filter ⟨⟨positive, small⟩, short⟩
    have distinct : (filter.query.map Prod.fst).Nodup := by
      simp [OrdersFilter.query, pageInQuery]
    rcases pagination_params distinct documented positive small
      (List.subset_append_right _ _) with ⟨noErrors, isRead⟩
    have isStatus : listQuery filter.query "status" = filter.status.map OrderStatus.value :=
      listQuery_enum distinct isEnumeration_orderStatus (by simp [OrdersFilter.query])
    have isText : listQuery filter.query "q" = (some filter.q).filter (· ≠ "") :=
      listQuery_eq distinct (by simp [OrdersFilter.query])
    have statusErrors := @IsEnumeration.optionalErrors_eq "status" _ _ _ filter.status
      isEnumeration_orderStatus (some "Неизвестный статус заказа")
    have searchErrors := @optionalErrors_q platform (some filter.q) (by simpa using short)
    simp only [ordersList, ListOrdersQueryDto.receive, SearchQueryDto.errors, SearchQueryDto.read,
      noErrors, isRead, isStatus, isText, optionalText_filter, statusErrors, searchErrors,
      isEnumeration_orderStatus.bind_find?, List.append_nil, asksFor]
  linked := by
    rintro filter ⟨⟨positive, small⟩, short⟩
    have distinct : ([("status", filter.status.map OrderStatus.value), ("q", some filter.q),
        ("page", pageInHref filter.page)].map Prod.fst).Nodup := by
      simp
    rcases parse_listHref "/orders" [("status", filter.status.map OrderStatus.value),
      ("q", some filter.q), ("page", pageInHref filter.page)] with ⟨isBase, parsed⟩
    refine ⟨isBase, _, parsed, ?_⟩
    have isPage := readPageParam_params distinct documented positive small (by simp)
    have isStatus := readEnumParam_params distinct isEnumeration_orderStatus
      (List.mem_cons_self)
    have isText := optionalText_params distinct short (List.mem_cons_of_mem _ List.mem_cons_self)
    simp only [ordersList, OrdersFilter.parse, isPage, isStatus, isText]

theorem searchList_understood (documented : platform.Documented) (base : String) :
    (searchList platform base).Understood
      (fun filter => IsPage filter.page ∧ utf16Length filter.q ≤ MAX_QUERY_LENGTH)
      fun _ => [] where
  valid params := ⟨readPageParam_mem _ _, utf16Length_readQueryParam _⟩
  received := by
    rintro filter ⟨⟨positive, small⟩, short⟩
    have distinct : (filter.query.map Prod.fst).Nodup := by
      simp [SearchFilter.query, pageInQuery]
    rcases pagination_params distinct documented positive small
      (List.subset_cons_self _ _) with ⟨noErrors, isRead⟩
    have isText : listQuery filter.query "q" = (some filter.q).filter (· ≠ "") :=
      listQuery_eq distinct (by simp [SearchFilter.query])
    have searchErrors := @optionalErrors_q platform (some filter.q) (by simpa using short)
    simp only [searchList, SearchQueryDto.receive, SearchQueryDto.errors, SearchQueryDto.read,
      noErrors, isRead, isText, optionalText_filter, searchErrors, List.append_nil, asksFor]
  linked := by
    rintro filter ⟨⟨positive, small⟩, short⟩
    have distinct : ([("q", some filter.q), ("page", pageInHref filter.page)].map
        Prod.fst).Nodup := by
      simp
    rcases parse_listHref base [("q", some filter.q), ("page", pageInHref filter.page)] with
      ⟨isBase, parsed⟩
    refine ⟨isBase, _, parsed, ?_⟩
    have isPage := readPageParam_params distinct documented positive small (by simp)
    have isText := optionalText_params distinct short List.mem_cons_self
    simp only [searchList, SearchFilter.parse, isPage, isText]

theorem companyOffersList_understood (documented : platform.Documented) :
    (companyOffersList platform).Understood (fun filter => IsPage filter.page) fun _ => [] where
  valid params := readPageParam_mem _ _
  received := by
    rintro filter ⟨positive, small⟩
    have distinct : (filter.query.map Prod.fst).Nodup := by
      simp [CompanyOffersFilter.query, pageInQuery]
    rcases pagination_params distinct documented positive small
      (List.subset_cons_self _ _) with ⟨noErrors, isRead⟩
    have isStatus : listQuery filter.query "status" = filter.status.map OfferStatus.value :=
      listQuery_enum distinct isEnumeration_offerStatus (by simp [CompanyOffersFilter.query])
    have noExecutor : listQuery filter.query "executor" = none :=
      listQuery_of_not_mem (by simp [CompanyOffersFilter.query, pageInQuery])
    have statusErrors := @IsEnumeration.optionalErrors_eq "status" _ _ _ filter.status
      isEnumeration_offerStatus (some "Неизвестный статус предложения")
    simp only [companyOffersList, ListCompanyOffersQueryDto.receive, noErrors, isRead, isStatus,
      noExecutor, statusErrors, optionalErrors_none, isEnumeration_offerStatus.bind_find?,
      List.append_nil, asksFor]
  linked := by
    rintro filter ⟨positive, small⟩
    have distinct : ([("status", filter.status.map OfferStatus.value),
        ("page", pageInHref filter.page)].map Prod.fst).Nodup := by
      simp
    rcases parse_listHref "/offers" [("status", filter.status.map OfferStatus.value),
      ("page", pageInHref filter.page)] with ⟨isBase, parsed⟩
    refine ⟨isBase, _, parsed, ?_⟩
    have isPage := readPageParam_params distinct documented positive small (by simp)
    have isStatus := readEnumParam_params distinct isEnumeration_offerStatus List.mem_cons_self
    simp only [companyOffersList, CompanyOffersFilter.parse, isPage, isStatus]

theorem filter_unreadParam (filter : NotificationsFilter) :
    filter.unreadParam.filter (· ≠ "") = filter.unreadParam := by
  rw [NotificationsFilter.unreadParam]
  cases filter.unread <;> decide

theorem notificationsList_understood (documented : platform.Documented) :
    (notificationsList platform).Understood (fun filter => IsPage filter.page) fun _ => [] where
  valid params := readPageParam_mem _ _
  received := by
    rintro filter ⟨positive, small⟩
    have distinct : (filter.query.map Prod.fst).Nodup := by
      simp [NotificationsFilter.query, pageInQuery]
    rcases pagination_params distinct documented positive small
      (List.subset_cons_self _ _) with ⟨noErrors, isRead⟩
    have isUnread : listQuery filter.query "unread" = filter.unreadParam := by
      rw [listQuery_eq distinct List.mem_cons_self, filter_unreadParam]
    have unreadErrors : optionalErrors "unread"
        [.isIn booleanValues (some "Параметр unread принимает true или false")]
        filter.unreadParam = [] := by
      rw [NotificationsFilter.unreadParam]
      cases filter.unread <;> rfl
    simp only [notificationsList, ListNotificationsQueryDto.receive, noErrors, isRead, isUnread,
      unreadErrors, List.append_nil, asksFor]
  linked := by
    rintro filter ⟨positive, small⟩
    have distinct : ([("unread", filter.unreadParam), ("page", pageInHref filter.page)].map
        Prod.fst).Nodup := by
      simp
    rcases parse_listHref "/notifications" [("unread", filter.unreadParam),
      ("page", pageInHref filter.page)] with ⟨isBase, parsed⟩
    refine ⟨isBase, _, parsed, ?_⟩
    have isPage := readPageParam_params distinct documented positive small (by simp)
    have isUnread := @raw_read_givenParams "unread" _ _ distinct List.mem_cons_self
    rw [filter_unreadParam] at isUnread
    have sameUnread : (firstParam (SearchParams.ofPairs (givenParams
        [("unread", filter.unreadParam), ("page", pageInHref filter.page)]) "unread") ==
          some "true") = filter.unread := by
      rw [firstParam, SearchParams.ofPairs, isUnread, NotificationsFilter.unreadParam]
      cases filter.unread <;> decide
    have same : NotificationsFilter.parse platform (SearchParams.ofPairs (givenParams
        [("unread", filter.unreadParam), ("page", pageInHref filter.page)])) = filter := by
      rw [NotificationsFilter.parse, sameUnread, isPage]
    simp only [notificationsList, same]

/-- What the library takes for an identifier decides whether the server takes the one in the
address. -/
def orderIdErrors (platform : Platform) (filter : DocumentsFilter) : QueryErrors :=
  optionalErrors "orderId" [.isUUID platform (some "Идентификатор заказа указан неверно")]
    filter.orderId

theorem filter_orderId {filter : DocumentsFilter}
    (valid : ∀ id ∈ filter.orderId, isUuid id = true) :
    filter.orderId.filter (· ≠ "") = filter.orderId ∧
      filter.orderId.filter isUuid = filter.orderId := by
  cases given : filter.orderId with
  | none => exact ⟨rfl, rfl⟩
  | some id =>
      have isId := valid id given
      have nonempty : id ≠ "" := by
        rintro rfl
        revert isId
        decide
      rw [Option.filter_some, Option.filter_some, if_pos (decide_eq_true nonempty), if_pos isId]
      exact ⟨rfl, rfl⟩

theorem documentsList_understood (documented : platform.Documented) :
    (documentsList platform).Understood
      (fun filter => IsPage filter.page ∧ ∀ id ∈ filter.orderId, isUuid id = true)
      (orderIdErrors platform) where
  valid params := by
    refine ⟨readPageParam_mem _ _, ?_⟩
    intro id mem
    exact (Option.filter_eq_some_iff.mp mem).2
  received := by
    rintro filter ⟨⟨positive, small⟩, valid⟩
    have distinct : (filter.query.map Prod.fst).Nodup := by
      simp [DocumentsFilter.query, pageInQuery]
    rcases pagination_params distinct documented positive small
      (List.subset_append_right _ _) with ⟨noErrors, isRead⟩
    have isOwner : listQuery filter.query "ownerType" =
        filter.ownerType.map FileOwnerType.value :=
      listQuery_enum distinct isEnumeration_fileOwnerType (by simp [DocumentsFilter.query])
    have isOrder : listQuery filter.query "orderId" = filter.orderId := by
      rw [listQuery_eq distinct (List.mem_cons_of_mem _ List.mem_cons_self),
        (filter_orderId valid).1]
    have ownerErrors := @IsEnumeration.optionalErrors_eq "ownerType" _ _ _ filter.ownerType
      isEnumeration_fileOwnerType (some "Владелец файла — CLIENT или COMPANY")
    simp only [documentsList, ListDocumentsQueryDto.receive, noErrors, isRead, isOwner, isOrder,
      ownerErrors, isEnumeration_fileOwnerType.bind_find?, List.nil_append, orderIdErrors, asksFor]
  linked := by
    rintro filter ⟨⟨positive, small⟩, valid⟩
    have distinct : ([("ownerType", filter.ownerType.map FileOwnerType.value),
        ("orderId", filter.orderId), ("page", pageInHref filter.page)].map Prod.fst).Nodup := by
      simp
    rcases parse_listHref "/documents" [("ownerType", filter.ownerType.map FileOwnerType.value),
      ("orderId", filter.orderId), ("page", pageInHref filter.page)] with ⟨isBase, parsed⟩
    refine ⟨isBase, _, parsed, ?_⟩
    have isPage := readPageParam_params distinct documented positive small (by simp)
    have isOwner := readEnumParam_params distinct isEnumeration_fileOwnerType List.mem_cons_self
    have isOrder := @raw_read_givenParams "orderId" _ _ distinct
      (List.mem_cons_of_mem _ List.mem_cons_self)
    rw [(filter_orderId valid).1] at isOrder
    have sameOrder : readUuidParam (SearchParams.ofPairs (givenParams
        [("ownerType", filter.ownerType.map FileOwnerType.value), ("orderId", filter.orderId),
          ("page", pageInHref filter.page)]) "orderId") = filter.orderId := by
      rw [readUuidParam, firstParam, SearchParams.ofPairs, isOrder, (filter_orderId valid).2]
    simp only [documentsList, DocumentsFilter.parse, isPage, isOwner, sameOrder]

/-- Whatever the addresses of the six lists hold, no request of theirs is refused, but for an
identifier the library does not take; links lead to the filters they were made of; and going back
from any page ends on a page of the list. -/
theorem lists_are_understood (platform : Platform) (documented : platform.Documented) :
    (ordersList platform).Understood
        (fun filter => IsPage filter.page ∧ utf16Length filter.q ≤ MAX_QUERY_LENGTH)
        (fun _ => []) ∧
      (availableList platform).Understood
        (fun filter => IsPage filter.page ∧ utf16Length filter.q ≤ MAX_QUERY_LENGTH)
        (fun _ => []) ∧
      (contractorsList platform).Understood
        (fun filter => IsPage filter.page ∧ utf16Length filter.q ≤ MAX_QUERY_LENGTH)
        (fun _ => []) ∧
      (companyOffersList platform).Understood (fun filter => IsPage filter.page) (fun _ => []) ∧
      (notificationsList platform).Understood (fun filter => IsPage filter.page) (fun _ => []) ∧
      (documentsList platform).Understood
        (fun filter => IsPage filter.page ∧ ∀ id ∈ filter.orderId, isUuid id = true)
        (orderIdErrors platform) ∧
      ∀ page totalPages, 1 < page → previousPage page totalPages < page ∧
        1 ≤ previousPage page totalPages ∧ previousPage page totalPages ≤ max totalPages 1 := by
  refine ⟨ordersList_understood documented, searchList_understood documented "/available",
    searchList_understood documented "/contractors", companyOffersList_understood documented,
    notificationsList_understood documented, documentsList_understood documented, ?_⟩
  intro page totalPages later
  rw [previousPage]
  split <;> omega

theorem lists_are_understood_plain :
    (ordersList plainPlatform).Understood
        (fun filter => IsPage filter.page ∧ utf16Length filter.q ≤ MAX_QUERY_LENGTH)
        (fun _ => []) ∧
      (availableList plainPlatform).Understood
        (fun filter => IsPage filter.page ∧ utf16Length filter.q ≤ MAX_QUERY_LENGTH)
        (fun _ => []) ∧
      (contractorsList plainPlatform).Understood
        (fun filter => IsPage filter.page ∧ utf16Length filter.q ≤ MAX_QUERY_LENGTH)
        (fun _ => []) ∧
      (companyOffersList plainPlatform).Understood (fun filter => IsPage filter.page)
        (fun _ => []) ∧
      (notificationsList plainPlatform).Understood (fun filter => IsPage filter.page)
        (fun _ => []) ∧
      (documentsList plainPlatform).Understood
        (fun filter => IsPage filter.page ∧ ∀ id ∈ filter.orderId, isUuid id = true)
        (orderIdErrors plainPlatform) ∧
      ∀ page totalPages, 1 < page → previousPage page totalPages < page ∧
        1 ≤ previousPage page totalPages ∧ previousPage page totalPages ≤ max totalPages 1 :=
  lists_are_understood plainPlatform documented_plainPlatform

end MyBuild
