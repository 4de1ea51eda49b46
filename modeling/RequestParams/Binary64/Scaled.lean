import RequestParams.Binary64.Numeral

/-!
# Numbers by scaling

There are two ways from a numeral to a number. `Decimal.toBinary64` takes the number nearest to the
decimal as written. The one here computes in binary64, as JSON readers do for speed: the first
digits make up a significand of 64 bits, and that is multiplied or divided by a power of ten. Every
step rounds, so the result may lie beside the nearest number when there are many digits or the power
is large.

* `Numeral.significand`: the significand and the power of ten that are left to it.
* `Binary64.scaled`: the number computed from these.
-/

set_option autoImplicit false

namespace RequestParams

/-- The least number that does not fit in 64 bits, 2⁶⁴. -/
def wordLimit : Nat := 18446744073709551616

namespace Numeral

/-- Appends digits to a significand as long as it fits in 64 bits; the digits from the first one
that does not fit are left over. -/
def appendDigits : Nat → List Char → Nat × List Char
  | n, [] => (n, [])
  | n, c :: rest =>
    let next := Nat.ofDigitChars 10 [c] n
    if next < wordLimit then appendDigits next rest else (n, c :: rest)

/-- The significand of a numeral, and the exponent that goes with it: digits left over before the
point make it larger, digits taken behind the point make it smaller. -/
def significand (n : Numeral) : Nat × Int :=
  let (whole, left) := appendDigits 0 n.whole
  let (all, unused) := appendDigits whole n.fraction
  (all, n.exponent + left.length - (n.fraction.length - unused.length : Nat))

end Numeral

namespace Binary64

/-- The largest power of ten that is used in one step; the next one exceeds binary64. -/
def largestPower : Nat := 308

/-- The number nearest to 10ᵏ, in steps. -/
def powerSteps (k : Nat) : Nat := nearestSteps (Nat.pow 10 k * stepsPerOne) 1

/-- The number nearest to the product of two, in steps. -/
def productSteps (a b : Nat) : Nat := nearestSteps (a * b) stepsPerOne

/-- The number nearest to the quotient of two, in steps. -/
def quotientSteps (a b : Nat) : Nat := nearestSteps (a * stepsPerOne) b

/-- The number computed for `±significand · 10^exponent`. A division by more than the largest power
is done in two; what is zero after these stays zero whatever else it would be divided by. -/
def scaled (negative : Bool) (significand : Nat) (exponent : Int) : Binary64 :=
  let start := nearestSteps (significand * stepsPerOne) 1
  let places := (-exponent).toNat
  if significand = 0 then zero negative
  else if largestPower < exponent then infinite negative
  else if 0 ≤ exponent then ofSteps negative (productSteps start (powerSteps exponent.toNat))
  else if places ≤ largestPower then ofSteps negative (quotientSteps start (powerSteps places))
  else
    ofSteps negative
      (quotientSteps (quotientSteps start (powerSteps largestPower))
        (powerSteps (min (places - largestPower) largestPower)))

end Binary64
end RequestParams
