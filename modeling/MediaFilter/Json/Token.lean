import MediaFilter.Decimal.Shortest
import MediaFilter.Json.Value

/-!
The tokens of JSON text and their compact spelling.  A text token without content is one that
holds half of a surrogate pair.
-/

namespace MediaFilter.Json

inductive Token where
  | listOpen
  | listClose
  | recordOpen
  | recordClose
  | comma
  | colon
  | text (content : Option String)
  | leaf (value : Json)
  deriving Inhabited

/-- Only quotes, backslashes and the characters below the space are escaped. -/
def escapedChar (c : Char) : List Char :=
  if c = '"' then ['\\', '"']
  else if c = '\\' then ['\\', '\\']
  else if 0x20 ≤ c.toNat then [c]
  else if c.toNat = 0x08 then ['\\', 'b']
  else if c.toNat = 0x09 then ['\\', 't']
  else if c.toNat = 0x0A then ['\\', 'n']
  else if c.toNat = 0x0C then ['\\', 'f']
  else if c.toNat = 0x0D then ['\\', 'r']
  else ['\\', 'u', '0', '0', Nat.digitChar (c.toNat / 16), Nat.digitChar (c.toNat % 16)]

def quotedText (cs : List Char) : List Char :=
  '"' :: cs.flatMap escapedChar ++ ['"']

def leafSpelling : Json → List Char
  | .null => ['n', 'u', 'l', 'l']
  | .truth true => ['t', 'r', 'u', 'e']
  | .truth false => ['f', 'a', 'l', 's', 'e']
  | .integer value => Text.intDigits value
  | .double value => value.shortest
  | _ => []

def Token.spelling : Token → List Char
  | .listOpen => ['[']
  | .listClose => [']']
  | .recordOpen => ['{']
  | .recordClose => ['}']
  | .comma => [',']
  | .colon => [':']
  | .text content => (content.map fun s => quotedText s.toList).getD []
  | .leaf value => leafSpelling value

end MediaFilter.Json
