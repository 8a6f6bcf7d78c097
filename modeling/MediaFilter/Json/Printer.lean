import MediaFilter.Json.Token

/-!
Compact JSON text: the tokens of a value one after the other, with no space between them.
-/

namespace MediaFilter.Json

mutual

def tokens : Json → List Token
  | .list [] => [.listOpen, .listClose]
  | .list (item :: items) => .listOpen :: tokens item ++ moreItems items
  | .record [] => [.recordOpen, .recordClose]
  | .record (field :: fields) =>
    .recordOpen :: .text (some field.1) :: .colon :: tokens field.2 ++ moreFields fields
  | .text value => [.text (some value)]
  | value => [.leaf value]

def moreItems : List Json → List Token
  | [] => [.listClose]
  | item :: items => .comma :: tokens item ++ moreItems items

def moreFields : List (String × Json) → List Token
  | [] => [.recordClose]
  | field :: fields =>
    .comma :: .text (some field.1) :: .colon :: tokens field.2 ++ moreFields fields

end

def spell (value : Json) : List Char := value.tokens.flatMap Token.spelling

def print (value : Json) : String := String.ofList value.spell

end MediaFilter.Json
