import MediaFilter.Json.Value
import MediaFilter.Text.Numeral

/-!
JSON numerals.  One without point and exponent that fits into a word of 64 bits is an integer,
except minus zero; any other is a double.  A double is read in two steps: the leading digits that
fit into a word of 64 bits are rounded to a double, and this is multiplied or divided by a power
of ten, itself a double.
-/

namespace MediaFilter.Json

structure Numeral where
  negative : Bool
  whole : List Char
  fraction : Option (List Char)
  /-- Whether the exponent is negative, and its digits. -/
  exponent : Option (Bool × List Char)

namespace Numeral

def takeDigits? (cs : List Char) : Option (List Char × List Char) :=
  match cs.takeWhile Char.isDigit with
  | [] => none
  | digits => some (digits, cs.dropWhile Char.isDigit)

/-- A zero stands alone before the point. -/
def scanWhole? : List Char → Option (List Char × List Char)
  | '0' :: rest => some (['0'], rest)
  | cs => takeDigits? cs

def scanFraction? : List Char → Option (Option (List Char) × List Char)
  | '.' :: rest => (takeDigits? rest).map fun found => (some found.1, found.2)
  | cs => some (none, cs)

def scanSign : List Char → Bool × List Char
  | '+' :: rest => (false, rest)
  | '-' :: rest => (true, rest)
  | cs => (false, cs)

def scanExponent? : List Char → Option (Option (Bool × List Char) × List Char)
  | c :: rest =>
    if c = 'e' ∨ c = 'E' then
      let (negative, rest) := scanSign rest
      (takeDigits? rest).map fun found => (some (negative, found.1), found.2)
    else some (none, c :: rest)
  | [] => some (none, [])

def scanMagnitude? (negative : Bool) (cs : List Char) : Option (Numeral × List Char) := do
  let (whole, rest) ← scanWhole? cs
  let (fraction, rest) ← scanFraction? rest
  let (exponent, rest) ← scanExponent? rest
  some ({ negative, whole, fraction, exponent }, rest)

def scan? : List Char → Option (Numeral × List Char)
  | '-' :: rest => scanMagnitude? true rest
  | cs => scanMagnitude? false cs

/-! The digits that fit, and the power of ten they are to be scaled by. -/

def digitOf (c : Char) : Nat := c.toNat - 48

/-- A whole digit that does not fit is dropped with all that follow, each a factor of ten. -/
def addWhole (significand dropped : Nat) : List Char → Nat × Nat
  | [] => (significand, dropped)
  | c :: cs =>
    let next := 10 * significand + digitOf c
    if dropped = 0 ∧ next ≤ Text.greatestUInt64 then addWhole next 0 cs
    else addWhole significand (dropped + 1) cs

/-- A decimal place that does not fit ends the significand. -/
def addPlaces (significand : Nat) (exponent : Int) : List Char → Nat × Int
  | [] => (significand, exponent)
  | c :: cs =>
    let next := 10 * significand + digitOf c
    if next ≤ Text.greatestUInt64 then addPlaces next (exponent - 1) cs
    else (significand, exponent)

def tenToThe (exponent : Nat) : Decimal.Double := Decimal.Double.ofNat (Nat.pow 10 exponent)

/-- A double times a power of ten, none beyond the greatest double.  No power is taken beyond the
three hundred and eighth; a number divided by it three times is zero. -/
def scaled? (value : Decimal.Double) (exponent : Int) : (divisions : Nat) → Option Decimal.Double
  | 0 => some (value.div (tenToThe 308))
  | divisions + 1 =>
    if exponent.natAbs ≤ 308 then
      if 0 ≤ exponent then
        match value.mul (tenToThe exponent.natAbs) with
        | .infinite _ => none
        | product => some product
      else some (value.div (tenToThe exponent.natAbs))
    else if value = Decimal.Double.zero false then some value
    else if 0 ≤ exponent then none
    else scaled? (value.div (tenToThe 308)) (exponent + 308) divisions

def double? (numeral : Numeral) : Option Decimal.Double :=
  let (significand, dropped) := addWhole 0 0 numeral.whole
  let (significand, places) := addPlaces significand dropped (numeral.fraction.getD [])
  let exponent := numeral.exponent.elim (0 : Int) fun given =>
    let magnitude : Int := Nat.ofDigitChars 10 given.2 0
    if given.1 then -magnitude else magnitude
  (scaled? (Decimal.Double.ofNat significand) (places + exponent) 3).map fun magnitude =>
    if numeral.negative then magnitude.negate else magnitude

def isIntegral (numeral : Numeral) : Bool :=
  numeral.fraction.isNone && numeral.exponent.isNone

def value (numeral : Numeral) : Json :=
  let magnitude := Nat.ofDigitChars 10 numeral.whole 0
  if numeral.isIntegral ∧ ¬numeral.negative ∧ magnitude ≤ Text.greatestUInt64 then
    .integer magnitude
  else if numeral.isIntegral ∧ numeral.negative ∧ magnitude ≠ 0 ∧
      Text.leastInt64 ≤ -(magnitude : Int) then
    .integer (-(magnitude : Int))
  else
    match numeral.double? with
    | some value => .double value
    | none => .invalid

end Numeral

end MediaFilter.Json
