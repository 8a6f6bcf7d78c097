import MediaFilter.Bound
import MediaFilter.Decimal.Shortest
import MediaFilter.Text.Blank

/-!
Scalars: the backend may send a number where a text is expected, and a text where a number is.
-/

namespace MediaFilter

inductive Scalar where
  | text (value : String)
  | integer (value : Bound)
  | double (value : Decimal.Double)

namespace Scalar

/-- A whole number that is no bound is taken for a double. -/
def ofJson? : Json → Option Scalar
  | .text value => some (.text value)
  | .integer value =>
    match Bound.ofInt? value with
    | some bound => some (.integer bound)
    | none => some (.double (.ofInt value))
  | .double value => some (.double value)
  | _ => none

def toText : Scalar → String
  | .text value => value
  | .integer value => Text.intText value.val
  | .double value => String.ofList value.shortest

/-- The bound that a scalar stands for: text between blanks must be a numeral, a double is rounded
to the nearest bound. -/
def bound? : Scalar → Option Bound
  | .text value => Text.readInt64? (Text.trim value.toList) >>= Bound.ofInt?
  | .integer value => some value
  | .double value => value.round?.map Bound.saturate

def text? (value : Json) : Option String := (ofJson? value).map toText

/-- Null counts as no texts, and inside a list it is passed over. -/
def texts? : Json → Option (List String)
  | .null => some []
  | value => (Json.listOf (Json.nullable text?) value).map fun found => found.filterMap id

/-- Null counts as no bounds; a text that is no numeral is passed over. -/
def bounds? : Json → Option (List Bound)
  | .null => some []
  | value => (Json.listOf ofJson? value).map fun found => found.filterMap bound?

end Scalar

end MediaFilter
