import MyBuild.Library.Paging

/-!
# Lists in pages

What a list is asked for and what it answers.
-/

namespace MyBuild

def DEFAULT_PAGE_SIZE : ℕ := 20

def MAX_PAGE_SIZE : ℕ := 100

def MAX_PAGE : ℕ := 100000

structure Paginated (Item : Type) where
  items : List Item
  page : ℕ
  pageSize : ℕ
  total : ℕ
  totalPages : ℕ
  deriving DecidableEq

structure PageRequest where
  page : ℕ
  pageSize : ℕ
  skip : ℕ

/-- A number that is missing, or zero, is the default. -/
def pageRequest (page pageSize : Option ℕ) : PageRequest :=
  let given (value : Option ℕ) (default : ℕ) : ℕ :=
    if value.getD 0 = 0 then default else value.getD 0
  let page := given page 1
  let pageSize := given pageSize DEFAULT_PAGE_SIZE
  { page, pageSize, skip := (page - 1) * pageSize }

def toPage {Item : Type} (items : List Item) (request : PageRequest) (total : ℕ) :
    Paginated Item :=
  { items
    page := request.page
    pageSize := request.pageSize
    total
    totalPages := Paging.count request.pageSize total }

end MyBuild
