import MediaFilter.Json.Value

/-!
Fields of a record, looked up by name.  A record is written with its names or as a list of its
fields in their order, of which the last ones may be left out.  A field that is given twice makes
the record unreadable; a field that the record does not have is passed over or refused.
-/

namespace MediaFilter.Json

/-- What happens to fields that a record does not have. -/
inductive Extra where
  | ignored
  | refused
  deriving DecidableEq

def named (name : String) (fields : List (String × Json)) : List Json :=
  (fields.filter fun field => field.1 == name).map Prod.snd

def admits (names : List String) (extra : Extra) (fields : List (String × Json)) : Bool :=
  match extra with
  | .ignored => true
  | .refused => fields.all fun field => names.contains field.1

/-- The value of each named field, none where it is missing. -/
def namedFields? (names : List String) (extra : Extra) (fields : List (String × Json)) :
    Option (List (Option Json)) :=
  if (names.all fun name => (named name fields).length ≤ 1) && admits names extra fields then
    some (names.map fun name => (named name fields).head?)
  else none

def placedFields? (names : List String) (items : List Json) : Option (List (Option Json)) :=
  if items.length ≤ names.length then
    some (items.map some ++ List.replicate (names.length - items.length) none)
  else none

def fields? (names : List String) (extra : Extra) : Json → Option (List (Option Json))
  | .record fields => namedFields? names extra fields
  | .list items => placedFields? names items
  | _ => none

def truth? : Json → Option Bool
  | .truth value => some value
  | _ => none

def text? : Json → Option String
  | .text value => some value
  | _ => none

def nullable (read : Json → Option α) : Json → Option (Option α)
  | .null => some none
  | value => (read value).map some

def each (read : Json → Option α) : List Json → Option (List α)
  | [] => some []
  | item :: items =>
    match read item, each read items with
    | some found, some more => some (found :: more)
    | _, _ => none

def listOf (read : Json → Option α) : Json → Option (List α)
  | .list items => each read items
  | _ => none

def texts? (value : Json) : Option (List String) := listOf text? value

/-! Readers of fields: a required one must be there, another has a default. -/

def required (read : Json → Option α) : Option Json → Option α
  | some value => read value
  | none => none

def defaulting (default : α) (read : Json → Option α) : Option Json → Option α
  | some value => read value
  | none => some default

def optional (read : Json → Option α) : Option Json → Option (Option α) :=
  defaulting none (nullable read)

def int64? : Json → Option Int
  | .integer value =>
    if -9223372036854775808 ≤ value ∧ value ≤ 9223372036854775807 then some value else none
  | _ => none

def uint64? : Json → Option Nat
  | .integer value =>
    if 0 ≤ value ∧ value ≤ 18446744073709551615 then some value.toNat else none
  | _ => none

/-- The name of a plain alternative: a text, or a record with that one name and nothing in it. -/
def alternative? : Json → Option String
  | .text name => some name
  | .record [(name, .null)] => some name
  | _ => none

def texts (values : List String) : Json := .list (values.map .text)

def orNull (write : α → Json) : Option α → Json
  | some value => write value
  | none => .null

/-- A field that is left out where there is nothing to say. -/
def fieldIf (name : String) (write : α → Json) (value : Option α) : List (String × Json) :=
  (value.map fun value => (name, write value)).toList

@[simp] theorem each_nil (read : Json → Option α) : each read [] = some [] := rfl

theorem each_map_some {read : Json → Option α} {write : α → Json}
    (h : ∀ value, read (write value) = some value) (values : List α) :
    each read (values.map write) = some values := by
  induction values with
  | nil => rfl
  | cons value values ih => simp [each, h, ih]

@[simp] theorem texts?_texts (values : List String) : texts? (texts values) = some values :=
  @each_map_some String text? .text (fun _ => rfl) values

end MediaFilter.Json
