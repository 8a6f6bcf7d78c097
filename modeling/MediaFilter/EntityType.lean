import MediaFilter.Error
import MediaFilter.Json.Fields
import MediaFilter.Text.Uppercase

/-!
The kinds of record that a list shows.  Each has filters and stored filter settings of its own.
-/

namespace MediaFilter

inductive EntityType where
  | anime
  | manga
  | character
  | staff
  deriving DecidableEq, Repr

namespace EntityType

def all : List EntityType := [.anime, .manga, .character, .staff]

def wire : EntityType → String
  | .anime => "ANIME"
  | .manga => "MANGA"
  | .character => "CHARACTER"
  | .staff => "STAFF"

def ofWire? (text : String) : Option EntityType := all.find? fun entity => entity.wire == text

def storageKeyStem : String := "filters-"

def storageKey : EntityType → String
  | .anime => storageKeyStem ++ "anime"
  | .manga => storageKeyStem ++ "manga"
  | .character => storageKeyStem ++ "character"
  | .staff => storageKeyStem ++ "staff"

/-- Only media are kept in lists by users. -/
def isMedia : EntityType → Bool
  | .anime => true
  | .manga => true
  | .character => false
  | .staff => false

/-- The entity type that a text names in any case. -/
def parse (text : String) : Except Error EntityType :=
  match ofWire? (Text.uppercase text) with
  | some entity => .ok entity
  | none => .error (.invalidInput ("unknown entity type: " ++ text))

def toJson (entity : EntityType) : Json := .text entity.wire

def ofJson? (value : Json) : Option EntityType := value.alternative? >>= ofWire?

theorem storageKey_injective {first second : EntityType}
    (h : first.storageKey = second.storageKey) : first = second := by
  revert h
  cases first <;> cases second <;> decide

@[simp] theorem ofWire?_wire (entity : EntityType) : ofWire? entity.wire = some entity := by
  cases entity <;> decide

end EntityType

end MediaFilter
