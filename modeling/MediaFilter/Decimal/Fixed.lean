import MediaFilter.Decimal.Double
import MediaFilter.Text.Numeral

/-!
A double with two decimal places: its exact value, rounded once, a tie going to the even digit.
The sign of a negative number stays even when every digit is zero.
-/

namespace MediaFilter.Decimal

def hundredths (count : Nat) : List Char :=
  let text := Text.natDigits count
  let padded := List.replicate (3 - text.length) '0' ++ text
  padded.take (padded.length - 2) ++ '.' :: padded.drop (padded.length - 2)

def Double.twoPlaces : Double → List Char
  | .infinite negative => if negative then ['-', 'i', 'n', 'f'] else ['i', 'n', 'f']
  | .finite negative significand exponent =>
    let (numerator, denominator) := fraction significand exponent
    let magnitude := hundredths (roundHalfEven (100 * numerator) denominator)
    if negative then '-' :: magnitude else magnitude

end MediaFilter.Decimal
