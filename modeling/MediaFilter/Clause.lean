import MediaFilter.Json.Printer
import MediaFilter.Selection
import MediaFilter.Range

/-!
The clauses of an expression.  Each is one of five forms of JSON: a truth value, a whole number, a
text, a record that matches text by a pattern, and a record that combines a set of values.
-/

namespace MediaFilter

structure Pattern where
  regex : Bool
  value : String
  deriving DecidableEq, Repr

structure SetClause where
  combinator : Combinator
  values : List String
  excluded : List String
  tagPercentageMin : Option Bound
  tagPercentageMax : Option Bound
  deriving DecidableEq, Repr

inductive Clause where
  | flag (value : Bool)
  | bound (value : Bound)
  | text (value : String)
  | pattern (value : Pattern)
  | set (value : SetClause)
  deriving DecidableEq, Repr

namespace SetClause

def ofSelection (selection : Selection) : SetClause :=
  ⟨selection.combinator, selection.included, selection.excluded, none, none⟩

/-- The included values before the excluded ones, each value once. -/
def toSelection (clause : SetClause) : Selection :=
  (clause.values.map SelectedValue.including ++ clause.excluded.map SelectedValue.excluding).foldl
    (fun selection entry => selection.insert entry) (.empty clause.combinator)

/-! As JSON: the field named by the combinator holds the values; other fields are left out where
they say nothing. -/

def excludedFields (excluded : List String) : List (String × Json) :=
  if excluded.isEmpty then [] else [("not", Json.texts excluded)]

def boundFields (name : String) (bound : Option Bound) : List (String × Json) :=
  match bound with
  | some bound => [(name, bound.toJson)]
  | none => []

def toJson (clause : SetClause) : Json :=
  .record ((clause.combinator.key, Json.texts clause.values) ::
    excludedFields clause.excluded ++ boundFields "tagPercentageMin" clause.tagPercentageMin ++
      boundFields "tagPercentageMax" clause.tagPercentageMax)

def fieldNames : List String := ["and", "or", "not", "tagPercentageMin", "tagPercentageMax"]

/-- Exactly one of the two combinators must be there. -/
def combined? (and or : Option (List String)) : Option (Combinator × List String) :=
  match and, or with
  | some values, none => some (.and, values)
  | none, some values => some (.or, values)
  | _, _ => none

def ofJson? (value : Json) : Option SetClause :=
  match value.fields? fieldNames .refused with
  | some [and, or, not, min, max] => do
    let and ← Json.optional Json.texts? and
    let or ← Json.optional Json.texts? or
    let excluded ← Json.optional Json.texts? not
    let min ← Json.optional Bound.ofJson? min
    let max ← Json.optional Bound.ofJson? max
    let (combinator, values) ← combined? and or
    some ⟨combinator, values, excluded.getD [], min, max⟩
  | _ => none

end SetClause

namespace Pattern

def toJson (pattern : Pattern) : Json :=
  .record [("regex", .truth pattern.regex), ("value", .text pattern.value)]

def ofJson? (value : Json) : Option Pattern :=
  match value.fields? ["regex", "value"] .refused with
  | some [regex, value] => do
    let regex ← Json.required Json.truth? regex
    let value ← Json.required Json.text? value
    some ⟨regex, value⟩
  | _ => none

end Pattern

namespace Clause

def toJson : Clause → Json
  | .flag value => .truth value
  | .bound value => value.toJson
  | .text value => .text value
  | .pattern value => value.toJson
  | .set value => value.toJson

/-- The readers of the five forms, in the order in which they are tried. -/
def readers : List (Json → Option Clause) :=
  [fun value => value.truth?.map .flag,
    fun value => (Bound.ofJson? value).map .bound,
    fun value => value.text?.map .text,
    fun value => (Pattern.ofJson? value).map .pattern,
    fun value => (SetClause.ofJson? value).map .set]

def ofJson? (value : Json) : Option Clause := readers.findSome? fun read => read value

def print (clause : Clause) : String := clause.toJson.print

end Clause

end MediaFilter
