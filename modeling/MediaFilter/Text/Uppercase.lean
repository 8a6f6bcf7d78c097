/-!
Upper case, as far as it leads into ASCII.  A character whose upper-case form is made of ASCII
letters is replaced by it; every other character stays, since its upper-case form contains a
character outside ASCII too and so spells no ASCII word.
-/

namespace MediaFilter.Text

def asciiUppercase (c : Char) : List Char :=
  match c.toNat with
  | 0xDF => ['S', 'S']
  | 0x131 => ['I']
  | 0x17F => ['S']
  | 0xFB00 => ['F', 'F']
  | 0xFB01 => ['F', 'I']
  | 0xFB02 => ['F', 'L']
  | 0xFB03 => ['F', 'F', 'I']
  | 0xFB04 => ['F', 'F', 'L']
  | 0xFB05 => ['S', 'T']
  | 0xFB06 => ['S', 'T']
  | _ => [c.toUpper]

def uppercase (s : String) : String :=
  String.ofList (s.toList.flatMap asciiUppercase)

end MediaFilter.Text
