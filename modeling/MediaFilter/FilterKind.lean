import MediaFilter.Json.Fields

/-!
The kinds of widget that a filter is set with.
-/

namespace MediaFilter

inductive FilterKind where
  | text
  | picker
  | range
  | checkbox
  | userList
  deriving DecidableEq, Repr

namespace FilterKind

def all : List FilterKind := [.text, .picker, .range, .checkbox, .userList]

def title : FilterKind → String
  | .text => "Text"
  | .picker => "MultiValue"
  | .range => "Range"
  | .checkbox => "Boolean"
  | .userList => "UserList"

def ofTitle? (text : String) : Option FilterKind := all.find? fun kind => kind.title == text

def toJson (kind : FilterKind) : Json := .text kind.title

def ofJson? (value : Json) : Option FilterKind := value.alternative? >>= ofTitle?

end FilterKind

end MediaFilter
