/-!
# Binary64 numbers, exactly

Parameter values, defaults and bounds are binary64 numbers. Every finite one is a whole multiple
of the least positive one, 2⁻¹⁰⁷⁴, so this library keeps a finite number as a sign and a *count of
those steps*. Order and equality of magnitudes are then order and equality of naturals, and no
statement about numbers has to look at bits.

* `Representable n`: the counts that binary64 holds.
* `Binary64`: finite numbers (with both zeros), the two infinities, and one not-a-number.
* `Binary64.lt`: the order in which every comparison with not-a-number is false.
* `Binary64.ofRatio`: the nearest number to a quotient of naturals, ties to the even neighbour.
* `Binary64.safeInteger?`: whole numbers up to 2⁵³ − 1, below which every integer is held exactly.
-/

set_option autoImplicit false

namespace RequestParams

/-- The counts of 2⁻¹⁰⁷⁴ that a finite binary64 number may have: at most 2098 binary digits, which
keeps the number below 2¹⁰²⁴, and at most 53 of them significant. -/
def Representable (steps : Nat) : Prop :=
  steps.log2 < 2098 ∧ steps % Nat.pow 2 (steps.log2 - 52) = 0

instance (steps : Nat) : Decidable (Representable steps) :=
  inferInstanceAs (Decidable (_ ∧ _))

/-- A binary64 number. A finite one is `±steps · 2⁻¹⁰⁷⁴`; the two zeros differ in their sign
only. -/
inductive Binary64 where
  | finite (negative : Bool) (steps : Nat) (held : Representable steps)
  | infinite (negative : Bool)
  | nan
deriving DecidableEq

namespace Binary64

/-- The binary places of one step: a step is 2⁻¹⁰⁷⁴. -/
def stepPlaces : Nat := 1074

/-- How many steps make up the number 1. -/
def stepsPerOne : Nat := Nat.pow 2 stepPlaces

/-- The largest magnitude up to which binary64 holds every integer, 2⁵³ − 1. -/
def maxSafeInteger : Nat := 9007199254740991

theorem representable_zero : Representable 0 := by decide

/-- Zero, of either sign. -/
def zero (negative : Bool) : Binary64 := finite negative 0 representable_zero

instance : Inhabited Binary64 := ⟨zero false⟩

/-- The count of steps with its sign, so that finite numbers compare as integers. -/
def signed (negative : Bool) (steps : Nat) : Int :=
  if negative then -(steps : Int) else steps

/-- Strictly less. With not-a-number on either side the answer is no. -/
def lt : Binary64 → Binary64 → Bool
  | nan, _ => false
  | _, nan => false
  | infinite n, infinite k => n && !k
  | infinite n, finite _ _ _ => n
  | finite _ _ _, infinite k => !k
  | finite n a _, finite k b _ => decide (signed n a < signed k b)

/-- Neither infinite nor not-a-number. -/
def isFinite : Binary64 → Bool
  | finite _ _ _ => true
  | _ => false

/-- Zero of either sign. -/
def isZero : Binary64 → Bool
  | finite _ steps _ => steps == 0
  | _ => false

/-- The integer that the number is, if it is one of magnitude at most `maxSafeInteger`. Both zeros
are the integer 0. -/
def safeInteger? : Binary64 → Option Int
  | finite negative steps _ =>
    if steps % stepsPerOne = 0 ∧ steps / stepsPerOne ≤ maxSafeInteger then
      some (signed negative (steps / stepsPerOne))
    else none
  | _ => none

/-! ## Rounding -/

/-- The integer nearest to `num / den`; a quotient halfway between two goes to the even one. -/
def roundHalfEven (num den : Nat) : Nat :=
  let quotient := num / den
  let rest := num % den
  if 2 * rest < den ∨ (2 * rest = den ∧ quotient % 2 = 0) then quotient else quotient + 1

/-- The count with at most 53 significant bits that is nearest to `num / den` steps. The spacing of
such counts around a quotient is given by its binary length; below 2⁵³ steps it is one step. -/
def nearestSteps (num den : Nat) : Nat :=
  let spacing := Nat.pow 2 ((num / den).log2 - 52)
  roundHalfEven num (den * spacing) * spacing

/-- A sign and a count of steps; a count too large for binary64 is infinite. -/
def ofSteps (negative : Bool) (steps : Nat) : Binary64 :=
  if held : Representable steps then finite negative steps held else infinite negative

/-- The number nearest to `±num / den`. -/
def ofRatio (negative : Bool) (num den : Nat) : Binary64 :=
  ofSteps negative (nearestSteps (num * stepsPerOne) den)

/-- The number nearest to an integer. -/
def ofInt (z : Int) : Binary64 := ofRatio (decide (z < 0)) z.natAbs 1

/-- The number nearest to a natural number. -/
def ofNat (n : Nat) : Binary64 := ofRatio false n 1

/-! ## What rounding keeps

A quotient that is itself a representable count is its own nearest count: reading a number back
from an exact text of it gives the number. -/

theorem roundHalfEven_mul (k den : Nat) (pos : 0 < den) : roundHalfEven (k * den) den = k := by
  simp [roundHalfEven, Nat.mul_div_cancel _ pos, pos]

theorem nearestSteps_mul {steps den : Nat} (held : Representable steps) (pos : 0 < den) :
    nearestSteps (steps * den) den = steps := by
  unfold nearestSteps
  rw [Nat.mul_div_cancel _ pos]
  generalize spacing_eq : Nat.pow 2 (steps.log2 - 52) = spacing
  have whole : steps / spacing * spacing = steps :=
    Nat.div_mul_cancel (Nat.dvd_of_mod_eq_zero (spacing_eq ▸ held.2))
  have spread : steps * den = steps / spacing * (den * spacing) := by
    rw [Nat.mul_comm den, ← Nat.mul_assoc, whole]
  have apart : 0 < den * spacing := Nat.mul_pos pos (spacing_eq ▸ Nat.two_pow_pos _)
  simp only []
  rw [spread, roundHalfEven_mul _ _ apart, whole]

theorem ofSteps_of_representable (negative : Bool) {steps : Nat} (held : Representable steps) :
    ofSteps negative steps = finite negative steps held := by
  simp [ofSteps, held]

end Binary64
end RequestParams
