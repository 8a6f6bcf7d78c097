import MediaFilter.Json.Numeral
import MediaFilter.Json.Token

/-!
Reading JSON text, strictly: nothing but the value and spaces, no control characters in texts, no
comma without a value behind it.  The characters become tokens first and the tokens a value.
-/

namespace MediaFilter.Json

/-- A piece of a text: a character, or half of a surrogate pair from an escape. -/
inductive TextUnit where
  | char (c : Char)
  | half (code : Nat)

def hexValue? (c : Char) : Option Nat :=
  if c.isDigit then some (c.toNat - 48)
  else if 'a' ≤ c ∧ c ≤ 'f' then some (c.toNat - 87)
  else if 'A' ≤ c ∧ c ≤ 'F' then some (c.toNat - 55)
  else none

def hexCode? (a b c d : Char) : Option Nat := do
  let a ← hexValue? a
  let b ← hexValue? b
  let c ← hexValue? c
  let d ← hexValue? d
  some (((a * 16 + b) * 16 + c) * 16 + d)

def TextUnit.ofCode (code : Nat) : TextUnit :=
  if 0xD800 ≤ code ∧ code ≤ 0xDFFF then .half code else .char (Char.ofNat code)

def letterEscape? (c : Char) : Option Char :=
  match c with
  | '"' => some '"'
  | '\\' => some '\\'
  | '/' => some '/'
  | 'b' => some (Char.ofNat 0x08)
  | 'f' => some (Char.ofNat 0x0C)
  | 'n' => some '\n'
  | 'r' => some '\r'
  | 't' => some '\t'
  | _ => none

/-- The units of a text up to its closing quote, after those already found, which come last
first. -/
def scanText? (found : List TextUnit) : List Char → Option (List TextUnit × List Char)
  | '"' :: rest => some (found.reverse, rest)
  | '\\' :: 'u' :: a :: b :: c :: d :: rest =>
    match hexCode? a b c d with
    | some code => scanText? (.ofCode code :: found) rest
    | none => none
  | '\\' :: c :: rest =>
    match letterEscape? c with
    | some c => scanText? (.char c :: found) rest
    | none => none
  | c :: rest =>
    if c.toNat < 0x20 ∨ c = '\\' then none else scanText? (.char c :: found) rest
  | [] => none

/-- The characters that units stand for, none if a half stands alone. -/
def joinUnits? (found : List Char) : List TextUnit → Option (List Char)
  | [] => some found.reverse
  | .char c :: units => joinUnits? (c :: found) units
  | .half high :: .half low :: units =>
    if high < 0xDC00 ∧ 0xDC00 ≤ low then
      joinUnits? (Char.ofNat ((high - 0xD800) * 0x400 + (low - 0xDC00) + 0x10000) :: found) units
    else none
  | .half _ :: _ => none

def mark? (c : Char) : Option Token :=
  match c with
  | '[' => some .listOpen
  | ']' => some .listClose
  | '{' => some .recordOpen
  | '}' => some .recordClose
  | ',' => some .comma
  | ':' => some .colon
  | _ => none

def isSpace (c : Char) : Bool := c = ' ' || c = '\t' || c = '\n' || c = '\r'

def scanWord? : List Char → Option (Json × List Char)
  | 'n' :: 'u' :: 'l' :: 'l' :: rest => some (.null, rest)
  | 't' :: 'r' :: 'u' :: 'e' :: rest => some (.truth true, rest)
  | 'f' :: 'a' :: 'l' :: 's' :: 'e' :: rest => some (.truth false, rest)
  | _ => none

def scanToken? (c : Char) (rest : List Char) : Option (Token × List Char) :=
  match mark? c with
  | some token => some (token, rest)
  | none =>
    if c = '"' then
      (scanText? [] rest).map fun found =>
        (.text ((joinUnits? [] found.1).map String.ofList), found.2)
    else if c = '-' ∨ c.isDigit then
      (Numeral.scan? (c :: rest)).map fun found => (.leaf found.1.value, found.2)
    else (scanWord? (c :: rest)).map fun found => (.leaf found.1, found.2)

/-- The tokens of a text after those already found, which come last first. -/
def scanTokens? (found : List Token) : (fuel : Nat) → List Char → Option (List Token)
  | _, [] => some found.reverse
  | 0, _ :: _ => none
  | fuel + 1, c :: rest =>
    if isSpace c then scanTokens? found fuel rest
    else
      match scanToken? c rest with
      | some (token, rest) => scanTokens? (token :: found) fuel rest
      | none => none

def ofText : Option String → Json
  | some content => .text content
  | none => .invalid

def ofFields (fields : List (Option String × Json)) : Json :=
  if fields.all fun field => field.1.isSome then
    .record (fields.map fun field => (field.1.getD "", field.2))
  else .invalid

mutual

def parseValue? : (fuel : Nat) → List Token → Option (Json × List Token)
  | 0, _ => none
  | fuel + 1, tokens =>
    match tokens with
    | .leaf value :: rest => some (value, rest)
    | .text content :: rest => some (ofText content, rest)
    | .listOpen :: .listClose :: rest => some (.list [], rest)
    | .listOpen :: rest =>
      (parseItems? fuel rest).map fun found => (.list found.1, found.2)
    | .recordOpen :: .recordClose :: rest => some (.record [], rest)
    | .recordOpen :: rest =>
      (parseFields? fuel rest).map fun found => (ofFields found.1, found.2)
    | _ => none

def parseItems? : (fuel : Nat) → List Token → Option (List Json × List Token)
  | 0, _ => none
  | fuel + 1, tokens =>
    match parseValue? fuel tokens with
    | some (item, .listClose :: rest) => some ([item], rest)
    | some (item, .comma :: rest) =>
      (parseItems? fuel rest).map fun found => (item :: found.1, found.2)
    | _ => none

def parseFields? : (fuel : Nat) → List Token → Option (List (Option String × Json) × List Token)
  | 0, _ => none
  | fuel + 1, tokens =>
    match tokens with
    | .text key :: .colon :: rest =>
      match parseValue? fuel rest with
      | some (value, .recordClose :: rest) => some ([(key, value)], rest)
      | some (value, .comma :: rest) =>
        (parseFields? fuel rest).map fun found => ((key, value) :: found.1, found.2)
      | _ => none
    | _ => none

end

def ofTokens? (tokens : List Token) : Option Json :=
  match parseValue? (2 * tokens.length + 2) tokens with
  | some (value, []) => some value
  | _ => none

def ofChars? (cs : List Char) : Option Json :=
  match scanTokens? [] cs.length cs with
  | some tokens => ofTokens? tokens
  | none => none

def read? (text : String) : Option Json := ofChars? text.toList

end MediaFilter.Json
