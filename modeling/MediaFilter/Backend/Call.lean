import MediaFilter.Backend.Choices
import MediaFilter.Backend.Page
import MediaFilter.Backend.SearchRequest
import MediaFilter.Backend.UserList

/-!
What the backend can be asked.
-/

namespace MediaFilter

inductive BackendCall where
  | choices (entity : EntityType)
  | suggestions (source : TypeaheadSource) (query : String)
  /-- A forced reload makes the backend fetch the lists anew. -/
  | userLists (userName : String) (entity : EntityType) (forced : Bool)
  | page (request : SearchRequest)
  deriving DecidableEq

end MediaFilter
