import MediaFilter.Widget

/-!
Widgets described in one line.
-/

namespace MediaFilter

def SelectedValue.describe (entry : SelectedValue) : String :=
  "SelectedValue \x7b value: " ++ Text.quoted entry.value ++ ", excluded: " ++
    Edit.truthText entry.excluded ++ " \x7d"

def Combinator.describe : Combinator → String
  | .and => "And"
  | .or => "Or"

def Selection.describe (selection : Selection) : String :=
  "Selection \x7b entries: [" ++
    String.intercalate ", " (selection.entries.map SelectedValue.describe) ++
    "], combinator: " ++ selection.combinator.describe ++ " \x7d"

def FilterValue.describe : FilterValue → String
  | .text value =>
    "Text(TextValue \x7b text: " ++ Text.quoted value.text ++ ", regex_mode: " ++
      Edit.truthText value.regexMode ++ " \x7d)"
  | .picker selection => "MultiValue(" ++ selection.describe ++ ")"
  | .range value =>
    "Range(RangeValue \x7b min: " ++ Text.intText value.min.val ++ ", max: " ++
      Text.intText value.max.val ++ " \x7d)"
  | .checkbox checked => "Boolean \x7b checked: " ++ Edit.truthText checked ++ " \x7d"
  | .userList selection => "UserList(" ++ selection.describe ++ ")"

def Widget.describe (widget : Widget) : String :=
  "WidgetHandle \x7b filter: " ++ widget.name.title ++ ", value: " ++ widget.value.describe ++
    ", whitelist: " ++ Text.natText widget.whitelist.length ++
    ", domain: RangeDomain \x7b lo: " ++ Text.intText widget.domain.lo.val ++ ", hi: " ++
    Text.intText widget.domain.hi.val ++ " \x7d, loading: " ++
    Edit.truthText widget.loading ++ " \x7d"

end MediaFilter
