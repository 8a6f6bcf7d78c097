import MediaFilter.Error
import MediaFilter.Expression
import MediaFilter.Json.Reader

/-!
Expressions as JSON text: a record whose field `and` holds the clauses.  Where a key is repeated
the last clause counts.
-/

namespace MediaFilter.Expression

def toJson (expression : Expression) : Json :=
  .record [("and", .record (expression.clauses.map fun entry => (entry.1, entry.2.toJson)))]

def print (expression : Expression) : String := expression.toJson.print

def entries? : List (String × Json) → Option (List (String × Clause))
  | [] => some []
  | field :: fields =>
    match Clause.ofJson? field.2, entries? fields with
    | some clause, some entries => some ((field.1, clause) :: entries)
    | _, _ => none

def clauses? : Json → Option Expression
  | .record fields => (entries? fields).map ofList
  | _ => none

def ofJson? (value : Json) : Option Expression :=
  match value.fields? ["and"] .ignored with
  | some [clauses] => Json.defaulting empty clauses? clauses
  | _ => none

def read? (text : String) : Option Expression := Json.read? text >>= ofJson?

def read (text : String) : Except Error Expression := readable (read? text)

end MediaFilter.Expression
