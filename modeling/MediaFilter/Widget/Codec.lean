import MediaFilter.FilterValue.Codec
import MediaFilter.Widget

/-!
Widgets as JSON: snapshots and reports on their way out, edits on their way in.
-/

namespace MediaFilter

def WidgetSnapshot.toJson (snapshot : WidgetSnapshot) : Json :=
  .record ([("filter", snapshot.filter.toJson),
    ("label", .text snapshot.label),
    ("value", snapshot.value.toJson),
    ("whitelist", .list (snapshot.whitelist.map WhitelistEntry.toJson)),
    ("loading", .truth snapshot.loading)] ++
      Json.fieldIf "domain"
        (fun domain => .record [("lo", domain.lo.toJson), ("hi", domain.hi.toJson)])
        snapshot.domain)

def Change.toJson (change : Change) : Json :=
  Json.texts [change.filter.wire, change.commit.wire]

def ViewCall.toJson (call : ViewCall) : Json := .text (call.filter.wire ++ " " ++ call.action.wire)

namespace Edit

/-- The edits by name, each with what it needs to know. -/
def ofFields? (kind : String) (value min max : Option Json) : Option Edit :=
  match kind with
  | "type" => (Json.required Json.text? value).map .write
  | "toggle_regex" => some .toggleRegex
  | "add" => (Json.required Json.text? value).map .add
  | "remove" => (Json.required Json.text? value).map .remove
  | "toggle_excluded" => (Json.required Json.text? value).map .toggleExcluded
  | "toggle_combinator" => some .toggleCombinator
  | "set_min" => (Json.required Bound.ofJson? value).map .setMin
  | "set_max" => (Json.required Bound.ofJson? value).map .setMax
  | "slide" => do
    let min ← Json.required Bound.ofJson? min
    let max ← Json.required Bound.ofJson? max
    some (.slide min max)
  | "check" => (Json.required Json.truth? value).map .check
  | _ => none

def ofJson? (value : Json) : Option Edit :=
  match value.fields? ["type", "value", "min", "max"] .ignored with
  | some [kind, value, min, max] =>
    Json.required Json.text? kind >>= fun kind => ofFields? kind value min max
  | _ => none

end Edit

end MediaFilter
