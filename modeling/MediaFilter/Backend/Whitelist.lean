import MediaFilter.Backend.Scalar

/-!
The values that a picker offers.
-/

namespace MediaFilter

structure WhitelistEntry where
  value : String
  text : String
  category : Option String
  deriving DecidableEq, Repr

namespace WhitelistEntry

/-- An entry that is shown as it is. -/
def plain (value : String) : WhitelistEntry := ⟨value, value, none⟩

def labeled (value text : String) : WhitelistEntry := ⟨value, text, none⟩

def toJson (entry : WhitelistEntry) : Json :=
  .record ([("value", .text entry.value), ("text", .text entry.text)] ++
    match entry.category with
    | some category => [("category", .text category)]
    | none => [])

def ofJson? (value : Json) : Option WhitelistEntry :=
  match value.fields? ["value", "text", "category"] .ignored with
  | some [value, text, category] => do
    let value ← Json.required Scalar.text? value
    let text ← Json.required Scalar.text? text
    let category ← Json.optional Json.text? category
    some ⟨value, text, category⟩
  | _ => none

def listOfJson? (value : Json) : Option (List WhitelistEntry) := Json.listOf ofJson? value

end WhitelistEntry

def lists (entries : List WhitelistEntry) (value : String) : Bool :=
  entries.any fun entry => entry.value == value

end MediaFilter
