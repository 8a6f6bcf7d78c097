import MediaFilter.Backend.Whitelist

/-!
The lists that a user keeps, and the notices that come with them.
-/

namespace MediaFilter

structure UserList where
  id : String
  name : String
  amountCompleted : Option Nat
  amountTotal : Nat
  deriving DecidableEq, Repr

namespace UserList

def percentage (completed total : Nat) : Nat := if total = 0 then 0 else completed * 100 / total

/-- How much of a list is completed, if that is known, else only how long it is. -/
def completionLabel (list : UserList) : String :=
  match list.amountCompleted with
  | some completed =>
    " (" ++ Text.natText completed ++ "/" ++ Text.natText list.amountTotal ++ ") " ++
      Text.natText (percentage completed list.amountTotal) ++ "%"
  | none => " (" ++ Text.natText list.amountTotal ++ ")"

def toWhitelistEntry (list : UserList) : WhitelistEntry :=
  .labeled list.id (list.name ++ list.completionLabel)

def ofJson? (value : Json) : Option UserList :=
  match value.fields? ["id", "name", "amount_completed", "amount_total"] .ignored with
  | some [id, name, completed, total] => do
    let id ← Json.required Scalar.text? id
    let name ← Json.required Json.text? name
    let completed ← Json.optional Json.uint64? completed
    let total ← Json.defaulting 0 Json.uint64? total
    some ⟨id, name, completed, total⟩
  | _ => none

end UserList

structure Notice where
  message : String
  kind : Option String
  deriving DecidableEq, Repr

namespace Notice

/-- Whether a list was so slow to come that forcing a reload may help. -/
def isTimeout (notice : Notice) : Bool := notice.kind == some "timeout"

def ofJson? (value : Json) : Option Notice :=
  match value.fields? ["message", "type"] .ignored with
  | some [message, kind] => do
    let message ← Json.required Json.text? message
    let kind ← Json.optional Json.text? kind
    some ⟨message, kind⟩
  | _ => none

end Notice

structure UserListReply where
  lists : List UserList
  errors : List Notice
  warnings : List Notice
  deriving DecidableEq, Repr

namespace UserListReply

def notices? (field : Option Json) : Option (List Notice) :=
  Json.defaulting [] (Json.listOf Notice.ofJson?) field

def ofJson? (value : Json) : Option UserListReply :=
  match value.fields? ["data", "error", "warnings"] .ignored with
  | some [lists, errors, warnings] => do
    let lists ← Json.required (Json.listOf UserList.ofJson?) lists
    let errors ← notices? errors
    let warnings ← notices? warnings
    some ⟨lists, errors, warnings⟩
  | _ => none

end UserListReply

end MediaFilter
