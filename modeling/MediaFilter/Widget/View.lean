import MediaFilter.FilterName
import MediaFilter.Traced

/-!
What widgets ask of the views that show them.
-/

namespace MediaFilter

inductive ViewAction where
  | create
  | render
  | loading
  | loaded
  | destroy
  deriving DecidableEq, Repr

def ViewAction.wire : ViewAction → String
  | .create => "create"
  | .render => "render"
  | .loading => "loading"
  | .loaded => "loaded"
  | .destroy => "destroy"

structure ViewCall where
  filter : FilterName
  action : ViewAction
  deriving DecidableEq, Repr

/-- A result with the calls that were made on the way to it. -/
abbrev Drawn (α : Type) := Traced ViewCall α

end MediaFilter
