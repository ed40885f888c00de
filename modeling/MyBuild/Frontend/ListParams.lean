import MyBuild.Common.ListQueries
import MyBuild.Frontend.FormAgreement
import MyBuild.Frontend.Routing

/-!
# The parameters of a list in its address

What a list shows is kept in the address of its page, which anybody may edit: what makes no sense
there is read as not given.  The same parameters, written into a link or into a request to the
server, are read again as they were given.
-/

namespace MyBuild

abbrev SearchParams := String → QueryParameter

def SearchParams.ofPairs (pairs : List (String × String)) : SearchParams :=
  fun name => .read name pairs

def MAX_QUERY_LENGTH : ℕ := 200

/-- The first units of a text; half a pair of surrogates is written as a mark of its own. -/
def sliceUnits : ℕ → List Char → List Char
  | 0, _ => []
  | _, [] => []
  | units + 1, char :: rest =>
      if utf16Width char ≤ units + 1 then char :: sliceUnits (units + 1 - utf16Width char) rest
      else ['\uFFFD']

def firstParam (value : QueryParameter) : Option String := value.raw

def readEnumParam {Value : Type} (values : List Value) (text : Value → String)
    (value : QueryParameter) : Option Value :=
  (firstParam value).bind fun parsed => values.find? (text · == parsed)

def readUuidParam (value : QueryParameter) : Option String :=
  (firstParam value).filter isUuid

def readQueryParam (value : QueryParameter) : String :=
  String.ofList (sliceUnits MAX_QUERY_LENGTH (trim ((firstParam value).getD "")).toList)

def readPageParam (number : String → Option ℚ) (value : QueryParameter) : ℕ :=
  match (firstParam value).bind number with
  | none => 1
  | some page => if page.den = 1 ∧ 1 ≤ page ∧ page ≤ MAX_PAGE then page.num.toNat else 1

def previousPage (page totalPages : ℕ) : ℕ :=
  if totalPages < page then max totalPages 1 else page - 1

/-- Empty values are not written. -/
def givenParams (params : List (String × Option String)) : List (String × String) :=
  params.filterMap fun param => (param.2.filter (· ≠ "")).map (param.1, ·)

def listHref (base : String) (params : List (String × Option String)) : NextUrl :=
  match givenParams params with
  | [] => .page base
  | pairs => { pathname := base.toList, search := '?' :: FormUrlEncoded.serialize pairs }

/-- What the server receives of the same parameters. -/
def listQuery (params : List (String × Option String)) : ListQuery :=
  fun name => (QueryParameter.read name (givenParams params)).raw

/-- The first page has no number in the address. -/
def pageInHref (page : ℕ) : Option String :=
  if 1 < page then some (toString page) else none

def pageInQuery (page : ℕ) : List (String × Option String) :=
  [("page", some (toString page)), ("pageSize", some (toString DEFAULT_PAGE_SIZE))]

variable {platform : Platform} {name text : String} {value : Option String}
  {params : List (String × Option String)} {page : ℕ}

theorem raw_read (pairs : List (String × String)) :
    (QueryParameter.read name pairs).raw = (pairs.find? (·.1 == name)).map (·.2) := by
  have isHead : (QueryParameter.read name pairs).raw =
      ((pairs.filter (·.1 == name)).map (·.2)).head? := by
    rw [QueryParameter.read.eq_def]
    split
    case h_1 none => rw [none]; rfl
    case h_2 only one => rw [one]; rfl
    case h_3 => rfl
  rw [isHead, List.head?_map, List.head?_filter]

theorem find?_givenParams_of_not_mem (absent : name ∉ params.map Prod.fst) :
    (givenParams params).find? (·.1 == name) = none := by
  apply List.find?_eq_none.mpr
  intro pair mem
  rcases List.mem_filterMap.mp mem with ⟨param, isParam, isPair⟩
  rcases Option.map_eq_some_iff.mp isPair with ⟨given, -, rfl⟩
  simp only [beq_iff_eq]
  rintro rfl
  exact absent (List.mem_map_of_mem isParam)

/-- A parameter is read as it has been given. -/
theorem raw_read_givenParams (distinct : (params.map Prod.fst).Nodup)
    (mem : (name, value) ∈ params) :
    (QueryParameter.read name (givenParams params)).raw = value.filter (· ≠ "") := by
  rw [raw_read]
  induction params with
  | nil => cases mem
  | cons param params ih =>
      rcases List.nodup_cons.mp distinct with ⟨notAgain, distinctRest⟩
      have rest : givenParams (param :: params) =
          ((param.2.filter (· ≠ "")).map (param.1, ·)).toList ++ givenParams params := by
        rw [givenParams, List.filterMap_cons]
        cases (param.2.filter (· ≠ "")).map (param.1, ·) <;> rfl
      rw [rest, List.find?_append]
      rcases List.mem_cons.mp mem with rfl | later
      · rw [find?_givenParams_of_not_mem notAgain]
        cases value.filter (· ≠ "") <;> simp
      · have other : param.1 ≠ name := by
          intro same
          apply notAgain
          rw [same]
          exact List.mem_map.mpr ⟨_, later, rfl⟩
        have found := ih distinctRest later
        cases param.2.filter (· ≠ "") with
        | none => simpa using found
        | some text => simpa [other] using found

theorem sum_sliceUnits (units : ℕ) (chars : List Char) :
    ((sliceUnits units chars).map utf16Width).sum ≤ units := by
  fun_induction sliceUnits units chars with
  | case1 => simp
  | case2 => simp
  | case3 units char rest fits ih =>
      simp only [List.map_cons, List.sum_cons]
      omega
  | case4 units char rest tooWide =>
      have narrow : utf16Width '\uFFFD' = 1 := by decide
      simp [narrow]

theorem sliceUnits_of_le {units : ℕ} {chars : List Char}
    (short : (chars.map utf16Width).sum ≤ units) : sliceUnits units chars = chars := by
  induction chars generalizing units with
  | nil => cases units <;> rfl
  | cons char rest ih =>
      have wide : 1 ≤ utf16Width char := by
        rw [utf16Width]
        split <;> omega
      simp only [List.map_cons, List.sum_cons] at short
      cases units with
      | zero => omega
      | succ units =>
          rw [sliceUnits, if_pos (by omega), ih (by omega)]

theorem utf16Length_trim_le (text : String) : utf16Length (trim text) ≤ utf16Length text := by
  rcases Pieces.exists_trim isWhitespace text.toList with ⟨before, after, isText, -, -⟩
  rw [utf16Length, utf16Length, toList_trim]
  conv_rhs => rw [isText]
  simp only [List.map_append, List.sum_append]
  omega

theorem number_toString (documented : platform.Documented) (small : page < 10 ^ 15) :
    platform.number (toString page) = some (page : ℚ) := by
  have numeral : IsNumeral (toString page).toList (Nat.toDigits 10 page) [] :=
    { spelled := by simp
      nonempty := Nat.toDigits_ne_nil
      wholeDigits := fun digit mem => Nat.isDigit_of_mem_toDigits (by decide) (by decide) mem
      fractionDigits := fun digit mem => by cases mem }
  have isPage : Numerals.value (Nat.toDigits 10 page ++ []) = page := by
    rw [List.append_nil, Numerals.value, Nat.ofDigitChars_toDigits (by decide) (by decide)]
  rw [documented.number.exact numeral (by omega) (by simp), numeralValue, isPage]
  simp

theorem readPageParam_mem (number : String → Option ℚ) (given : QueryParameter) :
    1 ≤ readPageParam number given ∧ readPageParam number given ≤ MAX_PAGE := by
  rw [readPageParam.eq_def]
  split
  case h_1 => decide
  case h_2 page _ =>
    split
    case isTrue inside =>
      rcases inside with ⟨whole, positive, small⟩
      have isInt : (page.num : ℚ) = page := Rat.den_eq_one_iff page |>.mp whole
      rw [← isInt] at positive small
      have low : (1 : ℤ) ≤ page.num := by exact_mod_cast positive
      have high : page.num ≤ (MAX_PAGE : ℤ) := by exact_mod_cast small
      omega
    case isFalse => decide

theorem filter_toString (page : ℕ) :
    (some (toString page)).filter (· ≠ "") = some (toString page) := by
  have nonempty : toString page ≠ "" := by
    intro blank
    have digits : Nat.toDigits 10 page = [] := by
      rw [← Nat.toList_repr, show page.repr = "" from blank]
      rfl
    exact Nat.toDigits_ne_nil digits
  rw [Option.filter_some, if_pos (decide_eq_true nonempty)]

/-- A page in an address is read again. -/
theorem readPageParam_pageInHref (documented : platform.Documented) {given : QueryParameter}
    (positive : 1 ≤ page) (small : page ≤ MAX_PAGE)
    (isGiven : given.raw = (pageInHref page).filter (· ≠ "")) :
    readPageParam platform.number given = page := by
  have bound : MAX_PAGE < 10 ^ 15 := by decide
  have inside : (page : ℚ).den = 1 ∧ (1 : ℚ) ≤ page ∧ (page : ℚ) ≤ MAX_PAGE :=
    ⟨rfl, by exact_mod_cast positive, by exact_mod_cast small⟩
  by_cases later : 1 < page
  · rw [pageInHref, if_pos later, filter_toString] at isGiven
    have isNumber := number_toString documented (Nat.lt_of_le_of_lt small bound)
    simp only [readPageParam, firstParam, isGiven, Option.bind_some, isNumber, if_pos inside]
    rfl
  · rw [pageInHref, if_neg later] at isGiven
    simp only [readPageParam, firstParam, isGiven, Option.filter_none, Option.bind_none]
    omega

theorem listQuery_eq (distinct : (params.map Prod.fst).Nodup) (mem : (name, value) ∈ params) :
    listQuery params name = value.filter (· ≠ "") :=
  raw_read_givenParams distinct mem

theorem listQuery_of_not_mem (absent : name ∉ params.map Prod.fst) :
    listQuery params name = none := by
  rw [listQuery, raw_read, find?_givenParams_of_not_mem absent]
  rfl

/-- A link is read as the parameters it has been made of. -/
theorem parse_listHref (base : String) (params : List (String × Option String)) :
    (listHref base params).pathname = base.toList ∧
      FormUrlEncoded.parse ((listHref base params).search.drop 1) = some (givenParams params) := by
  rw [listHref.eq_def]
  split
  case h_1 none =>
    rw [none]
    exact ⟨rfl, rfl⟩
  case h_2 => exact ⟨rfl, FormUrlEncoded.parse_serialize _⟩

section Pages

variable {query : ListQuery} (isPage : query "page" = some (toString page))
  (isSize : query "pageSize" = some (toString DEFAULT_PAGE_SIZE))

include isPage isSize

/-- The page a filter asks for passes the checks of the server, and is the one it reads. -/
theorem PaginationQueryDto.of_page (documented : platform.Documented) (positive : 1 ≤ page)
    (small : page ≤ MAX_PAGE) :
    PaginationQueryDto.errors platform query = [] ∧
      PaginationQueryDto.read platform query = ⟨some page, some DEFAULT_PAGE_SIZE⟩ := by
  have bound : MAX_PAGE < 10 ^ 15 := by decide
  have pageNumber : PaginationQueryDto.number platform query "page" 1 = some (page : ℚ) := by
    rw [PaginationQueryDto.number, isPage]
    exact number_toString documented (Nat.lt_of_le_of_lt small bound)
  have sizeNumber : PaginationQueryDto.number platform query "pageSize" DEFAULT_PAGE_SIZE =
      some ((DEFAULT_PAGE_SIZE : ℕ) : ℚ) := by
    rw [PaginationQueryDto.number, isSize]
    exact number_toString documented (by decide)
  have low : (1 : ℚ) ≤ page := by exact_mod_cast positive
  have high : (page : ℚ) ≤ MAX_PAGE := by exact_mod_cast small
  have sizeLow : (1 : ℚ) ≤ (DEFAULT_PAGE_SIZE : ℕ) := by norm_num [DEFAULT_PAGE_SIZE]
  have sizeHigh : ((DEFAULT_PAGE_SIZE : ℕ) : ℚ) ≤ MAX_PAGE_SIZE := by
    norm_num [DEFAULT_PAGE_SIZE, MAX_PAGE_SIZE]
  constructor
  · simp [PaginationQueryDto.errors, pageNumber, sizeNumber, Validator.isInt, Validator.min,
      Validator.max, low, high, sizeLow, sizeHigh]
  · simp [PaginationQueryDto.read, pageNumber, sizeNumber]

end Pages

theorem optionalErrors_q {given : Option String}
    (short : ∀ text ∈ given, utf16Length text ≤ MAX_QUERY_LENGTH) :
    optionalErrors "q" [.maxLength platform.textLength MAX_SEARCH_LENGTH] (optionalText given) =
      [] := by
  cases given with
  | none => rfl
  | some text =>
      have fits : characterCount (trim text) ≤ MAX_SEARCH_LENGTH := by
        have units := characterCount_le_utf16Length (trim text)
        have shorter := utf16Length_trim_le text
        have given := short text rfl
        have limit : MAX_SEARCH_LENGTH = MAX_QUERY_LENGTH := rfl
        omega
      simp only [optionalText, Option.bind_some]
      split
      case isTrue => rfl
      case isFalse =>
        apply propertyErrors_eq_nil.mpr
        intro validator mem
        rw [List.mem_singleton.mp mem]
        simp only [Validator.maxLength, platform.textLength.documented, decide_eq_true_eq]
        exact fits

theorem optionalText_filter (text : String) :
    optionalText ((some text).filter (· ≠ "")) = optionalText (some text) := by
  by_cases blank : text = ""
  · rw [blank]
    decide
  · rw [Option.filter_some, if_pos (decide_eq_true blank)]

theorem utf16Length_readQueryParam (given : QueryParameter) :
    utf16Length (readQueryParam given) ≤ MAX_QUERY_LENGTH := by
  rw [readQueryParam, utf16Length, String.toList_ofList]
  exact sum_sliceUnits _ _

/-- What a link has of a search is what the server makes of it. -/
theorem optionalText_readQueryParam {given : QueryParameter} {text : String}
    (isGiven : given.raw = (some text).filter (· ≠ ""))
    (short : utf16Length text ≤ MAX_QUERY_LENGTH) :
    optionalText (some (readQueryParam given)) = optionalText (some text) := by
  have isText : given.raw.getD "" = text := by
    rw [isGiven]
    by_cases blank : text = ""
    · rw [blank]
      rfl
    · rw [Option.filter_some, if_pos (decide_eq_true blank)]
      rfl
  have kept : readQueryParam given = trim text := by
    have fits := Nat.le_trans (utf16Length_trim_le text) short
    rw [readQueryParam, firstParam, isText, sliceUnits_of_le fits, String.ofList_toList]
  rw [kept]
  simp only [optionalText, Option.bind_some, trim_trim]

/-- A value of an enumeration, as its text stands in an address. -/
structure IsEnumeration {Value : Type} (values : List Value) (text : Value → String) : Prop where
  found : ∀ value, values.find? (text · == text value) = some value
  nonempty : ∀ value, text value ≠ ""

theorem isEnumeration_orderStatus : IsEnumeration OrderStatus.values OrderStatus.value :=
  ⟨by intro value; cases value <;> decide, by intro value; cases value <;> decide⟩

theorem isEnumeration_offerStatus : IsEnumeration OfferStatus.values OfferStatus.value :=
  ⟨by intro value; cases value <;> decide, by intro value; cases value <;> decide⟩

theorem isEnumeration_fileOwnerType : IsEnumeration FileOwnerType.values FileOwnerType.value :=
  ⟨by intro value; cases value <;> decide, by intro value; cases value <;> decide⟩

section Enumerations

variable {Value : Type} {values : List Value} {label : Value → String} {chosen : Option Value}

theorem IsEnumeration.filter_map (enumeration : IsEnumeration values label) :
    (chosen.map label).filter (· ≠ "") = chosen.map label := by
  cases chosen with
  | none => rfl
  | some value =>
      rw [Option.map_some, Option.filter_some, if_pos (decide_eq_true (enumeration.nonempty value))]

theorem IsEnumeration.bind_find? (enumeration : IsEnumeration values label) :
    ((chosen.map label).bind fun text => values.find? (label · == text)) = chosen := by
  cases chosen with
  | none => rfl
  | some value => exact enumeration.found value

theorem IsEnumeration.optionalErrors_eq (enumeration : IsEnumeration values label)
    (message : Option String) :
    optionalErrors name [.isEnum (values.map label) message] (chosen.map label) = [] := by
  cases chosen with
  | none => rfl
  | some value =>
      apply propertyErrors_eq_nil.mpr
      intro validator mem
      rw [List.mem_singleton.mp mem]
      have isValue : value ∈ values := List.mem_of_find?_eq_some (enumeration.found value)
      simpa [Validator.isEnum] using ⟨value, isValue, rfl⟩

end Enumerations

theorem optionalErrors_none (property : String) (validators : List (Validator String)) :
    optionalErrors property validators none = [] := rfl

section Params

variable (distinct : (params.map Prod.fst).Nodup)

include distinct

theorem readPageParam_params (documented : platform.Documented) (positive : 1 ≤ page)
    (small : page ≤ MAX_PAGE) (mem : ("page", pageInHref page) ∈ params) :
    readPageParam platform.number (SearchParams.ofPairs (givenParams params) "page") = page :=
  readPageParam_pageInHref documented positive small (raw_read_givenParams distinct mem)

theorem readEnumParam_params {Value : Type} {values : List Value} {label : Value → String}
    {chosen : Option Value} (enumeration : IsEnumeration values label)
    (mem : (name, chosen.map label) ∈ params) :
    readEnumParam values label (SearchParams.ofPairs (givenParams params) name) = chosen := by
  have isGiven := raw_read_givenParams distinct mem
  rw [enumeration.filter_map] at isGiven
  rw [readEnumParam, firstParam, SearchParams.ofPairs, isGiven, enumeration.bind_find?]

theorem optionalText_params {text : String} (short : utf16Length text ≤ MAX_QUERY_LENGTH)
    (mem : (name, some text) ∈ params) :
    optionalText (some (readQueryParam (SearchParams.ofPairs (givenParams params) name))) =
      optionalText (some text) :=
  optionalText_readQueryParam (raw_read_givenParams distinct mem) short

theorem pagination_params (documented : platform.Documented) (positive : 1 ≤ page)
    (small : page ≤ MAX_PAGE) (inParams : pageInQuery page ⊆ params) :
    PaginationQueryDto.errors platform (listQuery params) = [] ∧
      PaginationQueryDto.read platform (listQuery params) =
        ⟨some page, some DEFAULT_PAGE_SIZE⟩ := by
  apply PaginationQueryDto.of_page ?_ ?_ documented positive small
  · rw [listQuery_eq distinct (inParams List.mem_cons_self), filter_toString]
  · rw [listQuery_eq distinct (inParams (List.mem_cons_of_mem _ List.mem_cons_self)),
      filter_toString]

theorem listQuery_enum {Value : Type} {values : List Value} {label : Value → String}
    {chosen : Option Value} (enumeration : IsEnumeration values label)
    (mem : (name, chosen.map label) ∈ params) :
    listQuery params name = chosen.map label := by
  rw [listQuery_eq distinct mem, enumeration.filter_map]

end Params

end MyBuild
