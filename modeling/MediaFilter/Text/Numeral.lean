/-!
Whole numbers in decimal.  A number is written without leading zeros; a numeral that is read may
have them, and a sign in front, but its value must lie in the range of the word it is read into.
-/

namespace MediaFilter.Text

def natDigits (n : Nat) : List Char := Nat.toDigits 10 n

def intDigits (i : Int) : List Char :=
  if i < 0 then '-' :: natDigits i.natAbs else natDigits i.natAbs

def natText (n : Nat) : String := String.ofList (natDigits n)

def intText (i : Int) : String := String.ofList (intDigits i)

/-- The value of a nonempty run of ASCII digits and nothing else. -/
def readDigits? (cs : List Char) : Option Nat :=
  if cs ≠ [] ∧ cs.all Char.isDigit then some (Nat.ofDigitChars 10 cs 0) else none

def leastInt64 : Int := -9223372036854775808

def greatestInt64 : Int := 9223372036854775807

def greatestUInt64 : Nat := 18446744073709551615

def readSigned? : List Char → Option Int
  | '+' :: digits => (readDigits? digits).map fun n => (n : Int)
  | '-' :: digits => (readDigits? digits).map fun n => -(n : Int)
  | digits => (readDigits? digits).map fun n => (n : Int)

def readInt64? (cs : List Char) : Option Int :=
  (readSigned? cs).filter fun i => decide (leastInt64 ≤ i ∧ i ≤ greatestInt64)

def readUnsigned? : List Char → Option Nat
  | '+' :: digits => readDigits? digits
  | digits => readDigits? digits

def readUInt64? (cs : List Char) : Option Nat :=
  (readUnsigned? cs).filter fun n => decide (n ≤ greatestUInt64)

end MediaFilter.Text
