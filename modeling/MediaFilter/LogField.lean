/-!
The names under which log records hold what they are about.
-/

namespace MediaFilter

inductive LogField where
  | component
  | operation
  | entityType
  | filter
  | clauseCount
  | generation
  | duration
  | resultCount
  | success
  | error
  deriving DecidableEq, Repr

namespace LogField

def all : List LogField :=
  [.component, .operation, .entityType, .filter, .clauseCount, .generation, .duration,
    .resultCount, .success, .error]

def wire : LogField → String
  | .component => "component"
  | .operation => "op"
  | .entityType => "entity_type"
  | .filter => "filter"
  | .clauseCount => "clause_count"
  | .generation => "generation"
  | .duration => "duration_ms"
  | .resultCount => "result_count"
  | .success => "success"
  | .error => "error"

end LogField

end MediaFilter
