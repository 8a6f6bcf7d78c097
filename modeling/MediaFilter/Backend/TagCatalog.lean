import MediaFilter.Backend.Whitelist

/-!
The catalog of tags: categories in the order in which they were sent, each with its tags.  It is
offered either in that order or sorted by tag, where equal tags keep their order.
-/

namespace MediaFilter

inductive TagGrouping where
  | grouped
  | alphabetical
  deriving DecidableEq, Repr

namespace TagGrouping

def ofFlag (grouped : Bool) : TagGrouping := if grouped then .grouped else .alphabetical

def wire : TagGrouping → String
  | .grouped => "grouped"
  | .alphabetical => "alphabetical"

def ofWire? (text : String) : Option TagGrouping :=
  if text = "grouped" then some .grouped
  else if text = "alphabetical" then some .alphabetical
  else none

def toJson (grouping : TagGrouping) : Json := .text grouping.wire

def ofJson? (value : Json) : Option TagGrouping := value.alternative? >>= ofWire?

end TagGrouping

structure TagCatalog where
  groups : List (String × List String)
  deriving DecidableEq, Repr

namespace TagCatalog

def empty : TagCatalog := ⟨[]⟩

def isEmpty (catalog : TagCatalog) : Bool := catalog.groups.all fun group => group.2.isEmpty

def groupEntries (group : String × List String) : List WhitelistEntry :=
  group.2.map fun tag => ⟨tag, tag, some group.1⟩

def groupedEntries (catalog : TagCatalog) : List WhitelistEntry :=
  catalog.groups.flatMap groupEntries

def entries (catalog : TagCatalog) : TagGrouping → List WhitelistEntry
  | .grouped => catalog.groupedEntries
  | .alphabetical =>
    catalog.groupedEntries.mergeSort fun first second => decide (first.value ≤ second.value)

def groups? : List (String × Json) → Option (List (String × List String))
  | [] => some []
  | field :: fields =>
    match Json.texts? field.2, groups? fields with
    | some tags, some groups => some ((field.1, tags) :: groups)
    | _, _ => none

/-- A category that is repeated counts each time. -/
def ofJson? : Json → Option TagCatalog
  | .null => some empty
  | .record fields => (groups? fields).map TagCatalog.mk
  | _ => none

end TagCatalog

end MediaFilter
