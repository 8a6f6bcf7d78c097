import MediaFilter.EntityType
import MediaFilter.Expression.Codec

/-!
Requests for one page of the list.
-/

namespace MediaFilter

structure Column where
  name : String
  visible : Bool
  deriving DecidableEq, Repr

namespace Column

def toJson (column : Column) : Json :=
  .record [("name", .text column.name), ("visible", .truth column.visible)]

def ofJson? (value : Json) : Option Column :=
  match value.fields? ["name", "visible"] .ignored with
  | some [name, visible] => do
    let name ← Json.required Json.text? name
    let visible ← Json.required Json.truth? visible
    some ⟨name, visible⟩
  | _ => none

end Column

inductive SortDirection where
  | ascending
  | descending
  deriving DecidableEq, Repr

namespace SortDirection

def wire : SortDirection → String
  | .ascending => "asc"
  | .descending => "desc"

def ofWire? (text : String) : Option SortDirection :=
  if text = "asc" then some .ascending
  else if text = "desc" then some .descending
  else none

end SortDirection

structure ColumnOrder where
  column : String
  direction : SortDirection
  deriving DecidableEq, Repr

namespace ColumnOrder

def toJson (order : ColumnOrder) : Json :=
  .record [("column", .text order.column), ("dir", .text order.direction.wire)]

def ofJson? (value : Json) : Option ColumnOrder :=
  match value.fields? ["column", "dir"] .ignored with
  | some [column, direction] => do
    let column ← Json.required Json.text? column
    let direction ←
      Json.required (fun value => value.alternative? >>= SortDirection.ofWire?) direction
    some ⟨column, direction⟩
  | _ => none

end ColumnOrder

structure SearchRequest where
  /-- Numbers the requests of one table. -/
  draw : Nat
  start : Nat
  length : Nat
  columns : List Column
  order : List ColumnOrder
  filter : Expression
  userName : String
  entity : EntityType
  deriving DecidableEq

namespace SearchRequest

def toJson (request : SearchRequest) : Json :=
  .record
    [("draw", .integer request.draw),
      ("start", .integer request.start),
      ("length", .integer request.length),
      ("columns", .list (request.columns.map Column.toJson)),
      ("order", .list (request.order.map ColumnOrder.toJson)),
      ("filter", request.filter.toJson),
      ("userName", .text request.userName),
      ("mediaType", request.entity.toJson)]

def print (request : SearchRequest) : String := request.toJson.print

end SearchRequest

end MediaFilter
