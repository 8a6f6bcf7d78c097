import MediaFilter.Decimal.Double

/-!
JSON values.  Records keep the order of their fields and every repetition, so that whoever reads
one decides what a repetition means.
-/

namespace MediaFilter

/-- The value `invalid` stands for a well-formed piece of text without a value: a text with half
of a surrogate pair, a number beyond every double, a record with such a text for a key.  Only a
field that nobody reads may hold one. -/
inductive Json where
  | null
  | truth (value : Bool)
  | integer (value : Int)
  | double (value : Decimal.Double)
  | text (value : String)
  | list (items : List Json)
  | record (fields : List (String × Json))
  | invalid
  deriving Inhabited

namespace Json

/-! A value that is kept whole may nest only so deep and has no invalid part. -/

mutual

def keepable : (depth : Nat) → Json → Bool
  | depth, .list items =>
    match depth with
    | 0 => false
    | depth + 1 => keepableItems depth items
  | depth, .record fields =>
    match depth with
    | 0 => false
    | depth + 1 => keepableFields depth fields
  | _, .invalid => false
  | _, _ => true

def keepableItems (depth : Nat) : List Json → Bool
  | [] => true
  | item :: items => keepable depth item && keepableItems depth items

def keepableFields (depth : Nat) : List (String × Json) → Bool
  | [] => true
  | field :: fields => keepable depth field.2 && keepableFields depth fields

end

def greatestDepth : Nat := 127

/-- The value itself, if it may be kept whole. -/
def kept? (value : Json) : Option Json :=
  if value.keepable greatestDepth then some value else none

end Json

end MediaFilter
