import RequestParams.Binary64.Basic

/-!
# Decimals and the binary64 numbers they stand for

A number enters as a decimal (text in a request, in a declaration, in JSON) and leaves as one.

* `Decimal.toBinary64`: the binary64 number nearest to a decimal.
* `Decimal.exact`: a decimal that equals a given finite number; `toBinary64_exact` says that it
  reads back as that number.
* `Decimal.shortest`: the decimal with the fewest digits that reads back as a given number;
  `toBinary64_shortest` says that it does.
-/

set_option autoImplicit false

namespace RequestParams

/-- The decimal `±digits · 10^exponent`. -/
structure Decimal where
  negative : Bool
  digits : Nat
  exponent : Int
deriving DecidableEq, Repr

namespace Decimal

/-- The nearest binary64 number.

From 10³¹⁰ on a decimal is beyond every finite number, and below 10⁻³³⁰ it is nearer to zero than to
any other. Both are decided from the exponent and the length of the digits, so that an exponent of
many digits costs nothing. -/
def toBinary64 (d : Decimal) : Binary64 :=
  if d.digits = 0 then Binary64.zero d.negative
  else if 310 ≤ d.exponent then Binary64.infinite d.negative
  else if d.exponent + d.digits.log2 + 1 ≤ -330 then Binary64.zero d.negative
  else Binary64.ofRatio d.negative (d.digits * Nat.pow 10 d.exponent.toNat)
    (Nat.pow 10 (-d.exponent).toNat)

/-- The finite number itself, written out in full: one step is 5¹⁰⁷⁴ · 10⁻¹⁰⁷⁴. -/
def exact (negative : Bool) (steps : Nat) : Decimal :=
  ⟨negative, steps * Nat.pow 5 Binary64.stepPlaces, -Binary64.stepPlaces⟩

/-! ## The fewest digits -/

/-- Which of two equally near candidates is taken. -/
inductive Tie where
  | toEven
  | up
deriving DecidableEq, Repr

/-- The multiples of `10^exponent` on both sides of `steps` steps, the nearer one first. -/
def neighbours (tie : Tie) (steps : Nat) (exponent : Int) : List Nat :=
  let num := steps * Nat.pow 10 (-exponent).toNat
  let den := Binary64.stepsPerOne * Nat.pow 10 exponent.toNat
  let below := num / den
  let rest := num % den
  let belowFirst :=
    2 * rest < den ∨ (2 * rest = den ∧ tie = Tie.toEven ∧ below % 2 = 0)
  if belowFirst then [below, below + 1] else [below + 1, below]

/-- The nearest multiple of `10^exponent` that reads back as the number, if one does. -/
def onGrid? (tie : Tie) (negative : Bool) (steps : Nat) (exponent : Int) : Option Decimal :=
  ((neighbours tie steps exponent).map fun digits => Decimal.mk negative digits exponent).find?
    fun d => decide (d.toBinary64 = Binary64.ofSteps negative steps)

/-- An exponent whose power of ten exceeds `steps` steps: the binary length times log₁₀ 2, rounded
up. -/
def coarsest (steps : Nat) : Int :=
  ((steps.log2 : Int) - 1073) * 30103 / 100000 + 1

/-- The decimal with the fewest digits that reads back as the number: the grids of multiples of
powers of ten are tried from the coarsest down, and of two hits on one grid the nearer is taken.
Seventeen digits always suffice; the exact decimal stands behind them so that the answer reads back
in every case. -/
def shortest (tie : Tie) (negative : Bool) (steps : Nat) : Decimal :=
  ((List.range 24).findSome? fun i =>
    onGrid? tie negative steps (coarsest steps - (i : Nat))).getD (exact negative steps)

/-! ## Reading back -/

theorem toBinary64_exact {steps : Nat} (negative : Bool) (held : Representable steps)
    (pos : 0 < steps) :
    (exact negative steps).toBinary64 = Binary64.finite negative steps held := by
  generalize places : Binary64.stepPlaces = k
  have many : k = 1074 := places.symm
  have five : 0 < Nat.pow 5 k := Nat.pow_pos (by decide)
  have ten : 0 < Nat.pow 10 k := Nat.pow_pos (by decide)
  have product : 0 < steps * Nat.pow 5 k := Nat.mul_pos pos five
  have long : k ≤ (steps * Nat.pow 5 k).log2 := by
    rw [Nat.le_log2 (Nat.ne_of_gt product)]
    exact Nat.le_trans (Nat.pow_le_pow_left (by decide) k) (Nat.le_mul_of_pos_left _ pos)
  have nonzero : ¬ steps * Nat.pow 5 k = 0 := Nat.ne_of_gt product
  have joined : Nat.pow 5 k * Nat.pow 2 k = Nat.pow 10 k := (Nat.mul_pow 5 2 k).symm
  unfold exact toBinary64
  simp only [places, nonzero, if_false]
  rw [if_neg (by omega), if_neg (by omega)]
  unfold Binary64.ofRatio Binary64.stepsPerOne
  rw [show (-(k : Int)).toNat = 0 from by omega, show (- -(k : Int)).toNat = k from by omega,
    show Nat.pow 10 0 = 1 from rfl, Nat.mul_one, places, Nat.mul_assoc, joined,
    Binary64.nearestSteps_mul held ten, Binary64.ofSteps_of_representable _ held]

theorem onGrid?_reads_back {tie : Tie} {negative : Bool} {steps : Nat} {exponent : Int}
    {d : Decimal} (h : onGrid? tie negative steps exponent = some d) :
    d.toBinary64 = Binary64.ofSteps negative steps := by
  unfold onGrid? at h
  generalize neighbours tie steps exponent = candidates at h
  have passes := List.find?_some h
  exact of_decide_eq_true passes

/-- What `shortest` chooses reads back as the number it was chosen for. -/
theorem toBinary64_shortest {steps : Nat} (tie : Tie) (negative : Bool)
    (held : Representable steps) (pos : 0 < steps) :
    (shortest tie negative steps).toBinary64 = Binary64.finite negative steps held := by
  unfold shortest
  cases found : (List.range 24).findSome? fun i =>
      onGrid? tie negative steps (coarsest steps - (i : Nat)) with
  | none => exact toBinary64_exact negative held pos
  | some d =>
    obtain ⟨i, _, hit⟩ := List.exists_of_findSome?_eq_some found
    rw [Option.getD_some, onGrid?_reads_back hit, Binary64.ofSteps_of_representable _ held]

end Decimal
end RequestParams
