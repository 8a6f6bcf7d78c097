import MediaFilter.Combinator

/-!
Selections of a picker: values in the order in which they were selected, each included or
excluded, under one combinator.  An operation that would change nothing has no result.
-/

namespace MediaFilter

structure SelectedValue where
  value : String
  excluded : Bool
  deriving DecidableEq, Repr

structure Selection where
  entries : List SelectedValue
  combinator : Combinator
  deriving DecidableEq, Repr

namespace SelectedValue

def including (value : String) : SelectedValue := ⟨value, false⟩

def excluding (value : String) : SelectedValue := ⟨value, true⟩

def toJson (entry : SelectedValue) : Json :=
  .record [("value", .text entry.value), ("excluded", .truth entry.excluded)]

def ofJson? (value : Json) : Option SelectedValue :=
  match value.fields? ["value", "excluded"] .ignored with
  | some [value, excluded] => do
    let value ← Json.required Json.text? value
    let excluded ← Json.defaulting false Json.truth? excluded
    some ⟨value, excluded⟩
  | _ => none

end SelectedValue

namespace Selection

def empty (combinator : Combinator) : Selection := ⟨[], combinator⟩

def isEmpty (selection : Selection) : Bool := selection.entries.isEmpty

def values (selection : Selection) : List String := selection.entries.map SelectedValue.value

def contains (selection : Selection) (value : String) : Bool :=
  selection.entries.any fun entry => entry.value == value

/-- A new value goes behind the others; one that is selected already is not selected again. -/
def insert? (entry : SelectedValue) (selection : Selection) : Option Selection :=
  if selection.contains entry.value then none
  else some { selection with entries := selection.entries ++ [entry] }

def insert (entry : SelectedValue) (selection : Selection) : Selection :=
  (selection.insert? entry).getD selection

def remove? (value : String) (selection : Selection) : Option Selection :=
  if selection.contains value then
    some { selection with entries := selection.entries.filter fun entry => entry.value != value }
  else none

def remove (value : String) (selection : Selection) : Selection :=
  (selection.remove? value).getD selection

def flip (entry : SelectedValue) : SelectedValue := { entry with excluded := !entry.excluded }

def flipFirst (value : String) : List SelectedValue → List SelectedValue
  | [] => []
  | entry :: entries =>
    if entry.value = value then flip entry :: entries else entry :: flipFirst value entries

def toggleExcluded? (value : String) (selection : Selection) : Option Selection :=
  if selection.contains value then
    some { selection with entries := flipFirst value selection.entries }
  else none

def toggleExcluded (value : String) (selection : Selection) : Selection :=
  (selection.toggleExcluded? value).getD selection

def toggleCombinator (selection : Selection) : Selection :=
  { selection with combinator := selection.combinator.toggled }

def included (selection : Selection) : List String :=
  (selection.entries.filter fun entry => !entry.excluded).map SelectedValue.value

def excluded (selection : Selection) : List String :=
  (selection.entries.filter fun entry => entry.excluded).map SelectedValue.value

/-- The selection without the values that a test refuses. -/
def restrict (keep : String → Bool) (selection : Selection) : Selection :=
  { selection with entries := selection.entries.filter fun entry => keep entry.value }

def fields (selection : Selection) : List (String × Json) :=
  [("entries", .list (selection.entries.map SelectedValue.toJson)),
    ("combinator", selection.combinator.toJson)]

def toJson (selection : Selection) : Json := .record selection.fields

end Selection

end MediaFilter
