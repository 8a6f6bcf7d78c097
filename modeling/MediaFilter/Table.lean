import MediaFilter.Backend.Page
import MediaFilter.Backend.SearchRequest
import MediaFilter.QueryContext
import MediaFilter.Request.Slots

/-!
The list itself, which shows one page at a time.  A request is made from the context that is
current when it is made, together with what is searched for; of several pages on their way only
the one requested last is shown.
-/

namespace MediaFilter

structure Table where
  columns : List Column
  order : List ColumnOrder
  length : Nat
  search : String
  draws : Nat
  slots : RequestSlots

/-- A page as it is shown. -/
structure TablePage where
  draw : Nat
  start : Nat
  page : Page
  summary : Option String

structure PageLoad where
  ticket : Ticket
  request : SearchRequest

inductive Loaded where
  | page (page : TablePage)
  | superseded
  | failed (error : Error)

namespace Table

def pageLength : Nat := 100

/-- The key under which an expression holds what is searched for. -/
def searchKey : String := "title_like"

def initial : Table :=
  { columns := [], order := [], length := pageLength, search := "", draws := 0, slots := .empty }

/-- A page has at least one row. -/
def withLength (length : Nat) (table : Table) : Table := { table with length := max length 1 }

def setSearch (search : String) (table : Table) : Table := { table with search }

/-- The next request.  Without an entity type there is none. -/
def request (context : QueryContext) (start : Nat) (table : Table) :
    Except Error (SearchRequest × Table) :=
  match context.entity with
  | none => .error .noEntity
  | some entity =>
    .ok ({ draw := table.draws + 1
           start
           length := table.length
           columns := table.columns
           order := table.order
           filter := context.expression.withSearch searchKey table.search
           userName := context.userName
           entity },
      { table with draws := table.draws + 1 })

/-- Asks for a page; those that are on their way will not be shown. -/
def begin (context : QueryContext) (start : Nat) (table : Table) :
    Except Error (PageLoad × Table) :=
  (table.request context start).map fun (request, table) =>
    (⟨table.slots.nextTicket .tablePage, request⟩,
      { table with slots := table.slots.start .tablePage })

def shown (request : SearchRequest) (page : Page) : TablePage :=
  ⟨request.draw, request.start, page, page.describe? request.entity⟩

def finish (load : PageLoad) (reply : Except Error Page) (table : Table) : Loaded × Table :=
  if table.slots.isCurrent load.ticket then
    (match reply with
      | .ok page => .page (shown load.request page)
      | .error error => .failed error,
      { table with slots := table.slots.finish load.ticket })
  else (.superseded, table)

end Table

end MediaFilter
