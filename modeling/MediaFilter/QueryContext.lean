import MediaFilter.EntityType
import MediaFilter.Expression

/-!
What the list needs to know of a session to ask for a page.
-/

namespace MediaFilter

structure QueryContext where
  /-- None until an entity type is chosen. -/
  entity : Option EntityType
  /-- Empty if there is no user. -/
  userName : String
  /-- The expression that was announced or restored last. -/
  expression : Expression
  deriving DecidableEq

def QueryContext.initial : QueryContext := ⟨none, "", .empty⟩

end MediaFilter
