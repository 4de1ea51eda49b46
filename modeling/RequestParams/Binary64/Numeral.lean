import RequestParams.Binary64.Decimal
import RequestParams.Text.Blank

/-!
# Numerals: how numbers are written and read

* `Numeral`: the parts of an unsigned decimal as it stands in text.
* `Numeral.integer?`, `Binary64.ofText?`: the two grammars for numbers in requests and declarations.
  An integer is an optional sign and at least one digit. A number may have a point with digits on
  one side of it at least, and an exponent; or it is one of the words `inf`, `infinity`, `nan`.
* `Decimal.positional`, `Binary64.plainText`: a number without an exponent, the way values are
  shown. Whole numbers have no point, the digits are the fewest that read back, and of two equally
  near choices the upper one is taken.
-/

set_option autoImplicit false

namespace RequestParams

/-- An unsigned numeral: the digits before the point, those behind it, and the exponent. -/
structure Numeral where
  whole : List Char
  fraction : List Char
  exponent : Int
deriving DecidableEq, Repr

namespace Numeral

/-- The decimal that a numeral with the given sign denotes. -/
def toDecimal (negative : Bool) (n : Numeral) : Decimal :=
  ⟨negative, Nat.ofDigitChars 10 (n.whole ++ n.fraction) 0, n.exponent - n.fraction.length⟩

/-! ## Reading -/

/-- A sign, if there is one, and the text after it. The sign is true for minus. -/
def splitSign : List Char → Bool × List Char
  | '-' :: rest => (true, rest)
  | '+' :: rest => (false, rest)
  | rest => (false, rest)

/-- The digits at the start of a text, and what follows them. -/
def splitDigits (cs : List Char) : List Char × List Char :=
  (cs.takeWhile Char.isDigit, cs.dropWhile Char.isDigit)

/-- One or more digits and nothing else. -/
def natural? (cs : List Char) : Option Nat :=
  if cs ≠ [] ∧ cs.all Char.isDigit then some (Nat.ofDigitChars 10 cs 0) else none

/-- An optional sign and one or more digits. -/
def integer? (cs : List Char) : Option Int :=
  let (negative, digits) := splitSign cs
  (natural? digits).map fun n => if negative then -(n : Int) else n

/-- An unsigned numeral that takes up the whole text. -/
def read? (cs : List Char) : Option Numeral :=
  let (whole, rest) := splitDigits cs
  let (fraction, rest) :=
    match rest with
    | '.' :: rest => splitDigits rest
    | rest => ([], rest)
  if whole = [] ∧ fraction = [] then none
  else match rest with
    | [] => some ⟨whole, fraction, 0⟩
    | c :: rest =>
      if c = 'e' ∨ c = 'E' then (integer? rest).map fun exponent => ⟨whole, fraction, exponent⟩
      else none

/-! ## Writing -/

/-- The numeral's text; the exponent is left out. -/
def plain (n : Numeral) : List Char :=
  if n.fraction = [] then n.whole else n.whole ++ '.' :: n.fraction

end Numeral

/-- The text of a natural number. -/
def digitsOf (n : Nat) : List Char := Nat.toDigits 10 n

/-- A minus for a negative number. -/
def signOf (negative : Bool) : List Char := if negative then ['-'] else []

/-- The decimal as a numeral without an exponent, with at least one digit before the point. -/
def Decimal.positional (d : Decimal) : Numeral :=
  let digits := digitsOf d.digits
  if 0 ≤ d.exponent then ⟨digits ++ List.replicate d.exponent.toNat '0', [], 0⟩
  else
    let places := (-d.exponent).toNat
    let padded := List.replicate (places + 1 - digits.length) '0' ++ digits
    ⟨padded.take (padded.length - places), padded.drop (padded.length - places), 0⟩

namespace Binary64

/-- The number that a text denotes, if it denotes one: nearest to the decimal as written. -/
def ofText? (cs : List Char) : Option Binary64 :=
  let (negative, rest) := Numeral.splitSign cs
  match Numeral.read? rest with
  | some numeral => some (numeral.toDecimal negative).toBinary64
  | none =>
    let name := Text.lower rest
    if name = "inf".toList ∨ name = "infinity".toList then some (infinite negative)
    else if name = "nan".toList then some nan
    else none

/-- The magnitude of a finite number without an exponent. -/
def plainMagnitude (steps : Nat) : List Char :=
  if steps % stepsPerOne = 0 ∧ steps / stepsPerOne ≤ maxSafeInteger then
    digitsOf (steps / stepsPerOne)
  else (Decimal.shortest .up false steps).positional.plain

/-- The number without an exponent: `-0`, `2.5`, `1000000000000000000000`, `inf`. -/
def plainText : Binary64 → List Char
  | nan => "NaN".toList
  | infinite negative => signOf negative ++ "inf".toList
  | finite negative steps _ => signOf negative ++ plainMagnitude steps

end Binary64
end RequestParams
