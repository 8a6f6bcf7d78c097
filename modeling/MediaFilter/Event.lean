import MediaFilter.EntityType
import MediaFilter.Expression
import MediaFilter.FilterName

/-!
What a session tells whoever listens.
-/

namespace MediaFilter

inductive Severity where
  | error
  | warning
  deriving DecidableEq, Repr

def Severity.wire : Severity → String
  | .error => "error"
  | .warning => "warning"

inductive Event where
  /-- An edit led to a different expression. -/
  | filterChanged (entity : EntityType) (expression : Expression)
  /-- The filters show the stored settings of an entity type. -/
  | filtersRestored (entity : EntityType) (expression : Expression)
  /-- The choices of a filter were replaced by so many others. -/
  | whitelistUpdated (entity : EntityType) (filter : FilterName) (count : Nat)
  /-- A message for the user, perhaps with a hint about another try. -/
  | alert (severity : Severity) (message : String) (hint : Option String)
  deriving DecidableEq

namespace Event

def failure (message : String) : Event := .alert .error message none

def payloadVersion : Nat := 1

def topic : Event → String
  | .filterChanged _ _ => "filter.changed"
  | .filtersRestored _ _ => "filter.restored"
  | .whitelistUpdated _ _ _ => "whitelist.updated"
  | .alert _ _ _ => "alert"

def payloadName : Event → String
  | .filterChanged _ _ => "FilterChanged"
  | .filtersRestored _ _ => "FiltersRestored"
  | .whitelistUpdated _ _ _ => "WhitelistUpdated"
  | .alert _ _ _ => "Alert"

def entity? : Event → Option EntityType
  | .filterChanged entity _ => some entity
  | .filtersRestored entity _ => some entity
  | .whitelistUpdated entity _ _ => some entity
  | .alert _ _ _ => none

def isRedraw : Event → Bool
  | .filterChanged _ _ => true
  | .filtersRestored _ _ => true
  | .whitelistUpdated _ _ _ => false
  | .alert _ _ _ => false

end Event

end MediaFilter
