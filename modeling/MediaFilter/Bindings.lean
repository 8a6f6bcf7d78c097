import MediaFilter.Backend.Choices
import MediaFilter.Backend.UserList
import MediaFilter.Expression.Restore
import MediaFilter.Widget
import MediaFilter.YearShorthand

/-!
The widgets bound for one entity type, in the order in which its filters are shown.  The picker of
user lists is bound only when lists are there.  The catalog of tags and the years that came last
are remembered, so that they can be listed anew without asking for them.
-/

namespace MediaFilter

structure Bindings where
  entity : EntityType
  widgets : List Widget
  grouping : TagGrouping
  catalog : TagCatalog
  years : List WhitelistEntry
  deriving DecidableEq

namespace Bindings

def bindOne (entity : EntityType) (stored : Expression) (definition : Definition) :
    Drawn Widget :=
  Widget.bind definition entity (stored.restore? definition)

/-- Binds every filter but the user lists to what an expression holds for it. -/
def bind (entity : EntityType) (stored : Expression) (grouping : TagGrouping) :
    Drawn Bindings :=
  let definitions := entity.definitions.filter fun definition => definition.kind ≠ .userList
  (Traced.each (bindOne entity stored) definitions).map fun widgets =>
    { entity, widgets, grouping, catalog := .empty, years := [] }

def names (bindings : Bindings) : List FilterName := bindings.widgets.map Widget.name

def size (bindings : Bindings) : Nat := bindings.widgets.length

def isEmpty (bindings : Bindings) : Bool := bindings.widgets.isEmpty

def get? (bindings : Bindings) (name : FilterName) : Option Widget :=
  bindings.widgets.find? fun widget => widget.name = name

/-- The expression that the values stand for. -/
def build (bindings : Bindings) : Expression :=
  .build (bindings.widgets.map fun widget => (widget.definition, widget.value))

def withWidgets (bindings : Bindings) (widgets : List Widget) : Bindings :=
  { bindings with widgets := widgets }

def subscribeAll (bindings : Bindings) : Bindings :=
  bindings.withWidgets (bindings.widgets.map Widget.subscribe)

def update (name : FilterName) (change : Widget → Drawn Widget) (bindings : Bindings) :
    Drawn Bindings :=
  (Traced.each (fun widget => if widget.name = name then change widget else .still widget)
    bindings.widgets).map bindings.withWidgets

structure Edited where
  bindings : Bindings
  outcome : Except Refusal Bool
  changes : List Change
  calls : List ViewCall

def edit? (name : FilterName) (edit : Edit) (bindings : Bindings) : Option Edited :=
  (bindings.get? name).map fun widget =>
    let edited := widget.apply edit
    { bindings := (bindings.update name fun _ => .still edited.widget).result
      outcome := edited.outcome
      changes := edited.changes
      calls := edited.calls }

/-- The part of the choices that concerns one widget, and how many there are now. -/
def acceptOne (choices : Choices) (grouping : TagGrouping) (widget : Widget) :
    Drawn (Widget × Option (FilterName × Nat)) :=
  match widget.definition.source with
  | some (.values field) =>
    let entries := choices.whitelist field grouping
    (widget.setWhitelist entries).map fun widget =>
      (widget, some (widget.name, entries.length))
  | some (.bounds field) =>
    match choices.domain? field with
    | some domain =>
      (widget.setDomain domain).map fun widget =>
        (widget, some (widget.name, (choices.bounds field).length))
    | none => .still (widget, none)
  | _ => .still (widget, none)

/-- Takes the choices over; the answer names the filters that got new ones. -/
def accept (choices : Choices) (bindings : Bindings) :
    Drawn (Bindings × List (FilterName × Nat)) :=
  (Traced.each (acceptOne choices bindings.grouping) bindings.widgets).map fun found =>
    ({ bindings with
        widgets := found.map Prod.fst
        catalog := choices.tags
        years := choices.whitelist .seasonYear bindings.grouping },
      found.filterMap Prod.snd)

/-- Offers other entries in the widget of a filter; the answer counts them if one is bound. -/
def offer (name : FilterName) (entries : List WhitelistEntry) (bindings : Bindings) :
    Drawn (Bindings × Option Nat) :=
  (bindings.update name fun widget => widget.setWhitelist entries).map fun updated =>
    (updated, (bindings.get? name).map fun _ => entries.length)

def setTagGrouping (grouping : TagGrouping) (bindings : Bindings) :
    Drawn (Bindings × Option Nat) :=
  { bindings with grouping := grouping }.offer .tag (bindings.catalog.entries grouping)

def offerYears (input : String) (bindings : Bindings) : Drawn (Bindings × Option Nat) :=
  bindings.offer .year (YearShorthand.expand input bindings.years)

/-- Removes the widget of a filter; the answer says whether one was bound. -/
def unbind (name : FilterName) (bindings : Bindings) : Drawn (Bindings × Bool) :=
  match bindings.get? name with
  | some widget =>
    ⟨(bindings.withWidgets (bindings.widgets.filter fun widget => widget.name ≠ name), true),
      widget.destroy⟩
  | none => .still (bindings, false)

/-- The filters that are shown behind another. -/
def laterThan (entity : EntityType) (name : FilterName) : List FilterName :=
  (entity.filterSet.dropWhile (· ≠ name)).drop 1

/-- Puts a widget in front of the first that is shown behind it. -/
def place (widget : Widget) (bindings : Bindings) : Bindings :=
  let isEarlier := fun other : Widget =>
    !(laterThan bindings.entity widget.name).contains other.name
  bindings.withWidgets
    (bindings.widgets.takeWhile isEarlier ++ widget :: bindings.widgets.dropWhile isEarlier)

/-- The selection that a new picker starts with: that of the old one, or else the stored one. -/
def pickedLists (stored : Expression) (bindings : Bindings) : Option FilterValue :=
  match bindings.get? .userList with
  | some widget => some widget.value
  | none => stored.restore? FilterName.userList.definition

/-- Binds the picker of user lists to the lists there are now, in place of the one before.  Without
lists, and for records that are kept in none, nothing is bound; the answer counts the lists. -/
def bindUserLists (userLists : List UserList) (stored : Expression) (subscribed : Bool)
    (bindings : Bindings) : Drawn (Bindings × Option Nat) :=
  if !bindings.entity.filterSet.contains .userList || userLists.isEmpty then
    .still (bindings, none)
  else
    let picked := bindings.pickedLists stored
    (bindings.unbind .userList).andThen fun unbound =>
      (Widget.bindUserList FilterName.userList.definition bindings.entity
        (userLists.map UserList.toWhitelistEntry) picked).map fun widget =>
        (unbound.1.place (if subscribed then widget.subscribe else widget),
          some userLists.length)

/-- Clears every widget but the picker of user lists; the answer counts the values changed. -/
def clear (bindings : Bindings) : Drawn (Bindings × Nat) :=
  (Traced.each
    (fun widget => if widget.name = .userList then .still (widget, false) else widget.reset)
    bindings.widgets).map fun found =>
      (bindings.withWidgets (found.map Prod.fst), (found.filter Prod.snd).length)

def destroy (bindings : Bindings) : List ViewCall := bindings.widgets.flatMap Widget.destroy

end Bindings

end MediaFilter
