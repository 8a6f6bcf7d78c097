import MediaFilter.Backend.Whitelist
import MediaFilter.FilterValue
import MediaFilter.Widget.Edit
import MediaFilter.Widget.View

/-!
Widgets: the value of one filter with the choices it is made from.  Only edits of a user are
reported as changes, and only those that changed the value.
-/

namespace MediaFilter

structure Widget where
  definition : Definition
  entity : EntityType
  value : FilterValue
  whitelist : List WhitelistEntry
  domain : RangeDomain
  loading : Bool
  subscribed : Bool
  deriving DecidableEq, Repr

structure WidgetSnapshot where
  filter : FilterName
  label : String
  value : FilterValue
  whitelist : List WhitelistEntry
  domain : Option RangeDomain
  loading : Bool

namespace Widget

def name (widget : Widget) : FilterName := widget.definition.name

def snapshot (widget : Widget) : WidgetSnapshot :=
  { filter := widget.name
    label := widget.definition.labelFor widget.entity
    value := widget.value
    whitelist := widget.whitelist
    domain := if widget.definition.kind = .range then some widget.domain else none
    loading := widget.loading }

def call (widget : Widget) (action : ViewAction) : ViewCall := ⟨widget.name, action⟩

/-- A widget as it is shown from now on. -/
def rendered (widget : Widget) : Drawn Widget := ⟨widget, [widget.call .render]⟩

/-! Binding: the view is created and then shows the widget. -/

def created (widget : Widget) : Drawn Widget :=
  ⟨widget, [widget.call .create, widget.call .render]⟩

def fresh (definition : Definition) (entity : EntityType) (value : FilterValue)
    (domain : RangeDomain) : Widget :=
  { definition, entity, value, whitelist := [], domain, loading := false, subscribed := false }

/-- The initial domain, widened so that it holds the value. -/
def domainFor (definition : Definition) : FilterValue → RangeDomain
  | .range range => definition.initialDomain.extend range
  | _ => definition.initialDomain

/-- A restored value of another kind than the filter's is passed over. -/
def bind (definition : Definition) (entity : EntityType) (restored : Option FilterValue) :
    Drawn Widget :=
  match restored.filter fun value => value.kind = definition.kind with
  | some value => (fresh definition entity value (domainFor definition value)).created
  | none =>
    (fresh definition entity (.neutral definition) definition.initialDomain).created

def firstListed (definition : Definition) (entries : List WhitelistEntry) : FilterValue :=
  .userList ⟨(entries.head?.map fun entry => SelectedValue.including entry.value).toList,
    definition.combinator⟩

/-- What is left of a selection among the lists that there are; the first list if nothing is. -/
def listedSelection (definition : Definition) (entries : List WhitelistEntry)
    (restored : Option FilterValue) : FilterValue :=
  let selection :=
    match restored with
    | some (.userList selection) => selection
    | _ => .empty definition.combinator
  let selection := selection.restrict (lists entries)
  if selection.isEmpty then firstListed definition entries else .userList selection

def bindUserList (definition : Definition) (entity : EntityType)
    (entries : List WhitelistEntry) (restored : Option FilterValue) : Drawn Widget :=
  (bind definition entity none).andThen fun widget =>
    rendered { widget with
      whitelist := entries, value := listedSelection definition entries restored }

def subscribe (widget : Widget) : Widget := { widget with subscribed := true }

def unlisted? (widget : Widget) (selection : Selection) : Option SelectedValue :=
  if widget.definition.enforced then
    selection.entries.find? fun entry => !lists widget.whitelist entry.value
  else none

/-- The value as the widget can take it. -/
def admitted (widget : Widget) (value : FilterValue) : Except Refusal FilterValue :=
  if value.kind ≠ widget.definition.kind then
    .error (.wrongKind widget.name widget.definition.kind)
  else
    match value with
    | .range range => .ok (.range (.within widget.domain range.min range.max))
    | .picker selection | .userList selection =>
      match widget.unlisted? selection with
      | some entry => .error (.unlisted entry.value widget.definition.label)
      | none => .ok value
    | value => .ok value

def setValue (value : FilterValue) (widget : Widget) : Except Refusal (Drawn Widget) :=
  match widget.admitted value with
  | .ok value => .ok (rendered { widget with value := value })
  | .error refusal => .error refusal

def clearedValue (widget : Widget) : FilterValue :=
  match widget.definition.kind with
  | .range => .range (.full widget.domain)
  | .userList => firstListed widget.definition widget.whitelist
  | _ => .neutral widget.definition

/-- Clears the value; the answer says whether it changed. -/
def reset (widget : Widget) : Drawn (Widget × Bool) :=
  if widget.clearedValue = widget.value then .still (widget, false)
  else (rendered { widget with value := widget.clearedValue }).map fun widget => (widget, true)

def setWhitelist (entries : List WhitelistEntry) (widget : Widget) : Drawn Widget :=
  rendered { widget with whitelist := entries }

/-- A full range stays full in a new domain; any other is clamped into it. -/
def fitted (before after : RangeDomain) (range : RangeValue) : RangeValue :=
  if range.isFull before then .full after else .within after range.min range.max

/-- Only a widget that holds a range takes a domain. -/
def setDomain (domain : RangeDomain) (widget : Widget) : Drawn Widget :=
  match widget.value with
  | .range range =>
    rendered { widget with value := .range (fitted widget.domain domain range), domain := domain }
  | _ => .still widget

def setLoading (loading : Bool) (widget : Widget) : Drawn Widget :=
  if widget.loading = loading then .still widget
  else
    ⟨{ widget with loading := loading },
      [widget.call (if loading then .loading else .loaded)]⟩

def destroy (widget : Widget) : List ViewCall := [widget.call .destroy]

/-! Edits of the user.  The value after an edit is none where the edit changes nothing. -/

def editText (definition : Definition) (edit : Edit) (value : TextValue) :
    Except Refusal (Option TextValue) :=
  match edit with
  | .write text => .ok (if value.text = text then none else some { value with text := text })
  | .toggleRegex =>
    if definition.regexCapable then .ok (some { value with regexMode := !value.regexMode })
    else .error (.unable definition.name .regexMode)
  | edit => .error (.inapplicable edit .text definition.name)

def editSelection (definition : Definition) (entries : List WhitelistEntry) (kind : FilterKind)
    (edit : Edit) (selection : Selection) : Except Refusal (Option Selection) :=
  match edit with
  | .add value =>
    if definition.enforced && !lists entries value then
      .error (.unlisted value definition.label)
    else .ok (selection.insert? (.including value))
  | .remove value => .ok (selection.remove? value)
  | .toggleExcluded value =>
    if !definition.excludable then .error (.unable definition.name .exclusion)
    else if definition.kind = .userList ∧ selection.combinator ≠ .and then
      .error (.excludesOnlyUnderAnd definition.label)
    else .ok (selection.toggleExcluded? value)
  | .toggleCombinator =>
    if definition.allowsCombinatorSwitch then .ok (some selection.toggleCombinator)
    else .error (.unable definition.name .combinatorSwitch)
  | edit => .error (.inapplicable edit kind definition.name)

def changed [DecidableEq α] (before after : α) : Option α :=
  if after = before then none else some after

def editRange (definition : Definition) (domain : RangeDomain) (edit : Edit)
    (range : RangeValue) : Except Refusal (Option RangeValue) :=
  match edit with
  | .setMin value => .ok (changed range (range.setMin domain value))
  | .setMax value => .ok (changed range (range.setMax domain value))
  | .slide min max => .ok (changed range (.within domain min max))
  | edit => .error (.inapplicable edit .range definition.name)

def editChecked (definition : Definition) (edit : Edit) (checked : Bool) :
    Except Refusal (Option Bool) :=
  match edit with
  | .check next => .ok (changed checked next)
  | edit => .error (.inapplicable edit .checkbox definition.name)

def editedValue (widget : Widget) (edit : Edit) : Except Refusal (Option FilterValue) :=
  match widget.value with
  | .text value => (editText widget.definition edit value).map (Option.map .text)
  | .picker selection =>
    (editSelection widget.definition widget.whitelist .picker edit selection).map
      (Option.map .picker)
  | .range range => (editRange widget.definition widget.domain edit range).map (Option.map .range)
  | .checkbox checked => (editChecked widget.definition edit checked).map (Option.map .checkbox)
  | .userList selection =>
    (editSelection widget.definition widget.whitelist .userList edit selection).map
      (Option.map .userList)

structure Edited where
  widget : Widget
  outcome : Except Refusal Bool
  changes : List Change
  calls : List ViewCall

def apply (edit : Edit) (widget : Widget) : Edited :=
  match widget.editedValue edit with
  | .error refusal => ⟨widget, .error refusal, [], []⟩
  | .ok none => ⟨widget, .ok false, [], []⟩
  | .ok (some value) =>
    { widget := { widget with value := value }
      outcome := .ok true
      changes := if widget.subscribed then [⟨widget.name, edit.commit⟩] else []
      calls := [widget.call .render] }

end Widget

end MediaFilter
