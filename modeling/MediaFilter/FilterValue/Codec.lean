import MediaFilter.FilterValue
import MediaFilter.Json.Printer

/-!
Filter values as JSON: a record whose field `kind` says which other fields there are.  The kind may
stand anywhere in the record; in a list of fields it comes first.  The whole record is kept before
the kind is known, so even a field that nobody reads must be sound.
-/

namespace MediaFilter

def TextValue.ofJson? (value : Json) : Option TextValue :=
  match value.fields? ["text", "regex_mode"] .ignored with
  | some [text, regexMode] => do
    let text ← Json.required Json.text? text
    let regexMode ← Json.defaulting false Json.truth? regexMode
    some ⟨text, regexMode⟩
  | _ => none

/-- In a record that is kept first, a plain alternative may also hold an empty record. -/
def Combinator.ofKept? : Json → Option Combinator
  | .record [(name, .record [])] => ofWire? name
  | value => ofJson? value

def Selection.ofKept? (value : Json) : Option Selection :=
  match value.fields? ["entries", "combinator"] .ignored with
  | some [entries, combinator] => do
    let entries ← Json.required (Json.listOf SelectedValue.ofJson?) entries
    let combinator ← Json.required Combinator.ofKept? combinator
    some ⟨entries, combinator⟩
  | _ => none

namespace FilterValue

def kindWire : FilterKind → String
  | .text => "text"
  | .picker => "multiValue"
  | .range => "range"
  | .checkbox => "boolean"
  | .userList => "userList"

def kindOfWire? (text : String) : Option FilterKind :=
  FilterKind.all.find? fun kind => kindWire kind == text

def fields : FilterValue → List (String × Json)
  | .text value => [("text", .text value.text), ("regex_mode", .truth value.regexMode)]
  | .picker selection => selection.fields
  | .range value => [("min", value.min.toJson), ("max", value.max.toJson)]
  | .checkbox checked => [("checked", .truth checked)]
  | .userList selection => selection.fields

def toJson (value : FilterValue) : Json :=
  .record (("kind", .text (kindWire value.kind)) :: value.fields)

def checked? (rest : Json) : Option Bool :=
  match rest.fields? ["checked"] .ignored with
  | some [checked] => Json.required Json.truth? checked
  | _ => none

def ofKind? (kind : FilterKind) (rest : Json) : Option FilterValue :=
  match kind with
  | .text => (TextValue.ofJson? rest).map .text
  | .picker => (Selection.ofKept? rest).map .picker
  | .range => (RangeValue.ofJson? rest).map .range
  | .checkbox => (checked? rest).map .checkbox
  | .userList => (Selection.ofKept? rest).map .userList

/-- The kind of a value, and the fields apart from it. -/
def tagged? : Json → Option (Json × Json)
  | .record fields =>
    match Json.named "kind" fields with
    | [kind] => some (kind, .record (fields.filter fun field => field.1 != "kind"))
    | _ => none
  | .list (kind :: items) => some (kind, .list items)
  | _ => none

def ofJson? (value : Json) : Option FilterValue := do
  let value ← value.kept?
  let (kind, rest) ← tagged? value
  let kind ← kind.text?
  let kind ← kindOfWire? kind
  ofKind? kind rest

def print (value : FilterValue) : String := value.toJson.print

end FilterValue

end MediaFilter
