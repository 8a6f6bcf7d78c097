import MediaFilter.Text.Digit

/-!
Partial dates: a year, a month and a day with dashes between them, where a star may stand for any
of the three.  A year is four decimal digits; a month is a zero and a decimal digit, or 10, 11 or
12; a day is 0, 1 or 2 and a decimal digit, or 30 or 31.
-/

namespace MediaFilter.DateMask

/-- The rule as it is shown to users. -/
def pattern : String := "^(\\d\x7b4\x7d|\\*)-([0]\\d|1[0-2]|\\*)-([0-2]\\d|3[01]|\\*)$"

def afterYear? : List Char → Option (List Char)
  | '*' :: rest => some rest
  | a :: b :: c :: d :: rest =>
    if [a, b, c, d].all Text.isDecimalDigit then some rest else none
  | _ => none

def isMonth (tens ones : Char) : Bool :=
  (tens = '0' && Text.isDecimalDigit ones) || (tens = '1' && ['0', '1', '2'].contains ones)

def isDay (tens ones : Char) : Bool :=
  (['0', '1', '2'].contains tens && Text.isDecimalDigit ones) ||
    (tens = '3' && ['0', '1'].contains ones)

def afterMonth? : List Char → Option (List Char)
  | '*' :: rest => some rest
  | tens :: ones :: rest => if isMonth tens ones then some rest else none
  | _ => none

def afterDay? : List Char → Option (List Char)
  | '*' :: rest => some rest
  | tens :: ones :: rest => if isDay tens ones then some rest else none
  | _ => none

def afterDash? : List Char → Option (List Char)
  | '-' :: rest => some rest
  | _ => none

def accepts (cs : List Char) : Bool :=
  (do
    let rest ← afterYear? cs
    let rest ← afterDash? rest
    let rest ← afterMonth? rest
    let rest ← afterDash? rest
    afterDay? rest) == some []

end MediaFilter.DateMask
