import MediaFilter.Decimal.Double
import MediaFilter.Text.Numeral

/-!
The shortest decimal text of a double: of all decimals that lie nearer to it than to any other
double, one with the fewest digits, and of those the nearest.  The text never has an exponent.
-/

namespace MediaFilter.Decimal

/-- The reals that a positive finite double stands for, over a common denominator; both ends
belong to it exactly if the significand is even. -/
structure RoundingInterval where
  low : Nat
  value : Nat
  high : Nat
  denominator : Nat
  closed : Bool

namespace RoundingInterval

def ofDouble (significand : Nat) (exponent : Int) : RoundingInterval :=
  let (up, down) := Double.powerOfTwo (exponent - 2)
  let gap := if significand = Nat.pow 2 52 ∧ exponent ≠ Double.leastExponent then 1 else 2
  { low := (4 * significand - gap) * up
    value := 4 * significand * up
    high := (4 * significand + 2) * up
    denominator := down
    closed := significand % 2 = 0 }

def holds (interval : RoundingInterval) (digits up down : Nat) : Bool :=
  let point := digits * up * interval.denominator
  if interval.closed then
    interval.low * down ≤ point && point ≤ interval.high * down
  else
    interval.low * down < point && point < interval.high * down

end RoundingInterval

def powerOfTen (exponent : Int) : Nat × Nat :=
  if 0 ≤ exponent then (Nat.pow 10 exponent.toNat, 1)
  else (1, Nat.pow 10 (-exponent).toNat)

/-- How many tenfold steps lift a fraction below one to at least one. -/
def stepsToOne (numerator denominator : Nat) : (fuel : Nat) → Nat
  | 0 => 0
  | fuel + 1 =>
    if denominator ≤ numerator then 0
    else 1 + stepsToOne (10 * numerator) denominator fuel

/-- The exponent of the leading decimal digit of a positive fraction. -/
def leadingExponent (numerator denominator : Nat) : Int :=
  if denominator ≤ numerator then
    (Text.natDigits (numerator / denominator)).length - 1
  else
    -(stepsToOne numerator denominator 400 : Int)

/-- The decimal nearest to the value on the grid of one power of ten, if the interval holds it. -/
def gridPoint? (interval : RoundingInterval) (exponent : Int) : Option Nat :=
  let (up, down) := powerOfTen exponent
  let unit := up * interval.denominator
  let scaled := interval.value * down
  let below := scaled / unit
  let above := below + 1
  match interval.holds below up down, interval.holds above up down with
  | true, true => some (if 2 * (scaled % unit) < unit then below else above)
  | true, false => some below
  | false, true => some above
  | false, false => none

/-- The decimal on the coarsest grid that has one.  The first grid lies above the leading digit, for
the shortest decimal may be the power of ten just beyond the value. -/
def shortestDigits (interval : RoundingInterval) (exponent : Int) : (fuel : Nat) → Nat × Int
  | 0 => ((gridPoint? interval exponent).getD 0, exponent)
  | fuel + 1 =>
    match gridPoint? interval exponent with
    | some digits => (digits, exponent)
    | none => shortestDigits interval (exponent - 1) fuel

/-- Digits times a power of ten, written out with a point where one is needed. -/
def positional (digits : Nat) (exponent : Int) : List Char :=
  let text := Text.natDigits digits
  if 0 ≤ exponent then text ++ List.replicate exponent.toNat '0'
  else
    let places := (-exponent).toNat
    let padded := List.replicate (places + 1 - text.length) '0' ++ text
    padded.take (padded.length - places) ++ '.' :: padded.drop (padded.length - places)

def Double.shortest : Double → List Char
  | .infinite negative => if negative then ['-', 'i', 'n', 'f'] else ['i', 'n', 'f']
  | .finite negative significand exponent =>
    let magnitude :=
      if significand = 0 then ['0']
      else
        let interval := RoundingInterval.ofDouble significand exponent
        let leading := leadingExponent interval.value interval.denominator
        let (digits, exponent) := shortestDigits interval (leading + 1) 18
        positional digits exponent
    if negative then '-' :: magnitude else magnitude

end MediaFilter.Decimal
