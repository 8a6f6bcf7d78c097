/-!
Binary floating point numbers of double width, as exact values.  A finite number is a sign, a
significand below 2^53 and an exponent of two from -1074 to 971; the significand is at least 2^52
unless the exponent is the least one.  Every operation takes the exact result to the nearest such
number, a tie to the even significand, and a magnitude beyond the greatest one to infinity.
-/

namespace MediaFilter.Decimal

inductive Double where
  | finite (negative : Bool) (significand : Nat) (exponent : Int)
  | infinite (negative : Bool)
  deriving DecidableEq, Repr

namespace Double

def leastExponent : Int := -1074

def greatestExponent : Int := 971

def zero (negative : Bool) : Double := .finite negative 0 leastExponent

def isNegative : Double → Bool
  | .finite negative _ _ => negative
  | .infinite negative => negative

def negate : Double → Double
  | .finite negative significand exponent => .finite (!negative) significand exponent
  | .infinite negative => .infinite (!negative)

def powerOfTwo (exponent : Int) : Nat × Nat :=
  if 0 ≤ exponent then (Nat.pow 2 exponent.toNat, 1) else (1, Nat.pow 2 (-exponent).toNat)

/-- The whole number nearest to a fraction, a tie going to the even one. -/
def roundHalfEven (numerator denominator : Nat) : Nat :=
  let quotient := numerator / denominator
  let twice := 2 * (numerator % denominator)
  if twice < denominator then quotient
  else if denominator < twice then quotient + 1
  else quotient + quotient % 2

/-- The exponent at which a positive fraction has a significand of 53 bits, or the least one. -/
def exponentFor (numerator denominator : Nat) : Int :=
  let estimate : Int := (numerator.log2 : Int) - (denominator.log2 : Int) - 53
  let (up, down) := powerOfTwo estimate
  let exponent :=
    if numerator * down < Nat.pow 2 53 * denominator * up then estimate else estimate + 1
  max exponent leastExponent

def nearest (negative : Bool) (numerator denominator : Nat) : Double :=
  if numerator = 0 then zero negative
  else
    let exponent := exponentFor numerator denominator
    let (up, down) := powerOfTwo exponent
    let significand := roundHalfEven (numerator * down) (denominator * up)
    let (significand, exponent) :=
      if significand = Nat.pow 2 53 then (Nat.pow 2 52, exponent + 1)
      else (significand, exponent)
    if greatestExponent < exponent then .infinite negative
    else .finite negative significand exponent

def ofNat (n : Nat) : Double := nearest false n 1

def ofInt (i : Int) : Double := nearest (decide (i < 0)) i.natAbs 1

def fraction (significand : Nat) (exponent : Int) : Nat × Nat :=
  let (up, down) := powerOfTwo exponent
  (significand * up, down)

def mul : Double → Double → Double
  | .finite n₁ s₁ e₁, .finite n₂ s₂ e₂ =>
    let (up, down) := powerOfTwo (e₁ + e₂)
    nearest (n₁ != n₂) (s₁ * s₂ * up) down
  | x, y => .infinite (x.isNegative != y.isNegative)

/-- Division by a finite number other than zero. -/
def div : Double → Double → Double
  | .finite n₁ s₁ e₁, .finite n₂ s₂ e₂ =>
    let (up, down) := powerOfTwo (e₁ - e₂)
    nearest (n₁ != n₂) (s₁ * up) (s₂ * down)
  | x, y => .infinite (x.isNegative != y.isNegative)

def floor : Double → Double
  | .infinite negative => .infinite negative
  | .finite negative significand exponent =>
    let (numerator, denominator) := fraction significand exponent
    let below := numerator / denominator
    let whole := if negative && below * denominator ≠ numerator then below + 1 else below
    nearest negative whole 1

/-- The nearest whole number, a tie going away from zero; none for infinity. -/
def round? : Double → Option Int
  | .infinite _ => none
  | .finite negative significand exponent =>
    let (numerator, denominator) := fraction significand exponent
    let magnitude : Nat := (2 * numerator + denominator) / (2 * denominator)
    some (if negative then -(magnitude : Int) else (magnitude : Int))

end Double

end MediaFilter.Decimal
