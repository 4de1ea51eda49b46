import RequestParams.Json.Basic
import RequestParams.Proofs.Reading
import RequestParams.Text.Run

/-!
# Numbers in text

A number is written in two ways: without an exponent, as values are shown, and as JSON has it. Both
texts are a numeral (`Numeral.Spells`), and both numerals stand for the number they were written for
(`plainMagnitude_spelled`, `realMagnitude_spelled`). So whoever reads numerals reads both, and what
is left for a reader is to find the parts of the numeral again.

* `Numeral.read?_spelled`: they are found where nothing follows the numeral.
* `Binary64.ofText?_spelled`: so does the reader of requests, behind a sign.
-/

set_option autoImplicit false

namespace RequestParams

/-! ## Digits -/

theorem isDigit_of_mem_digitsOf {n : Nat} {c : Char} (h : c ∈ digitsOf n) : c.isDigit = true :=
  Nat.isDigit_of_mem_toDigits (by decide) (by decide) h

theorem ofDigitChars_digitsOf (n : Nat) : Nat.ofDigitChars 10 (digitsOf n) 0 = n :=
  Nat.ofDigitChars_ten_toDigits

theorem digitsOf_ne_nil (n : Nat) : digitsOf n ≠ [] := Nat.toDigits_ne_nil

/-- The digits of a number do not start with a zero, unless it is zero. -/
theorem head?_digitsOf {n : Nat} (pos : n ≠ 0) : (digitsOf n).head? ≠ some '0' := by
  induction n using Nat.strongRecOn with
  | ind n ih =>
    unfold digitsOf at ih ⊢
    by_cases small : n < 10
    · rw [Nat.toDigits_of_lt_base small]
      have one : ∀ m, m < 10 → m ≠ 0 → m.digitChar ≠ '0' := by decide
      intro zero
      exact one n small pos (Option.some.inj zero)
    · rw [Nat.toDigits_of_base_le (by decide) (Nat.le_of_not_lt small),
        List.head?_append, Option.or_of_isSome (by simp [Nat.toDigits_ne_nil])]
      exact ih (n / 10) (Nat.div_lt_self (Nat.pos_of_ne_zero pos) (by decide)) (by omega)

/-! ## Numerals as they are written -/

namespace Numeral

/-- A numeral that readers accept: digits only, at least one before the point, and no zero before
other digits there. -/
structure Proper (n : Numeral) : Prop where
  whole : ∀ c ∈ n.whole, c.isDigit = true
  fraction : ∀ c ∈ n.fraction, c.isDigit = true
  nonempty : n.whole ≠ []
  noLeadingZero : n.whole.head? = some '0' → n.whole = ['0']

/-- The exponent behind a numeral, if one is written. -/
def exponentText : Option Int → List Char
  | none => []
  | some power => 'e' :: (if power < 0 then '-' else '+') :: digitsOf power.natAbs

/-- The text is the numeral, with or without its exponent; one that is not written is zero. -/
structure Spells (n : Numeral) (power : Option Int) (text : List Char) : Prop where
  proper : n.Proper
  exponent : n.exponent = power.getD 0
  text : text = n.plain ++ exponentText power

theorem splitDigits_append {digits rest : List Char} (all : ∀ c ∈ digits, c.isDigit = true)
    (stops : Text.Stops Char.isDigit rest) : splitDigits (digits ++ rest) = (digits, rest) := by
  unfold splitDigits
  rw [Text.takeWhile_append_stops all stops, Text.dropWhile_append_stops all stops]

theorem stops_exponentText (power : Option Int) : Text.Stops Char.isDigit (exponentText power) := by
  cases power with
  | none => exact Text.stops_nil
  | some power => exact Text.stops_cons (by decide)

theorem natural?_digitsOf (n : Nat) : natural? (digitsOf n) = some n := by
  have digits : (digitsOf n).all Char.isDigit = true :=
    List.all_eq_true.2 fun _ => isDigit_of_mem_digitsOf
  unfold natural?
  rw [if_pos ⟨digitsOf_ne_nil n, digits⟩, ofDigitChars_digitsOf]

/-- A text that starts with a digit has no sign. -/
theorem splitSign_of_isDigit {c : Char} {rest : List Char} (h : c.isDigit = true) :
    splitSign (c :: rest) = (false, c :: rest) := by
  unfold splitSign
  split
  · rename_i same
    cases same
    cases h
  · rename_i same
    cases same
    cases h
  · rfl

theorem splitSign_signOf (negative : Bool) {c : Char} {rest : List Char} (h : c.isDigit = true) :
    splitSign (signOf negative ++ c :: rest) = (negative, c :: rest) := by
  cases negative with
  | true => rfl
  | false => exact splitSign_of_isDigit h

theorem splitSign_digitsOf (negative : Bool) (n : Nat) :
    splitSign (signOf negative ++ digitsOf n) = (negative, digitsOf n) := by
  obtain ⟨c, rest, split⟩ := List.exists_cons_of_ne_nil (digitsOf_ne_nil n)
  have digit : c.isDigit = true := isDigit_of_mem_digitsOf (split ▸ List.mem_cons_self)
  rw [split]
  exact splitSign_signOf negative digit

/-- An integer reads back from its sign and its digits. -/
theorem integer?_digitsOf (z : Int) :
    integer? (signOf (decide (z < 0)) ++ digitsOf z.natAbs) = some z := by
  unfold integer?
  rw [splitSign_digitsOf]
  dsimp only
  rw [natural?_digitsOf]
  show some (if decide (z < 0) = true then -(z.natAbs : Int) else z.natAbs) = some z
  congr 1
  by_cases negative : z < 0
  · rw [decide_eq_true negative, if_pos rfl]
    omega
  · rw [decide_eq_false negative, if_neg Bool.false_ne_true]
    omega

theorem integer?_exponent (power : Int) :
    integer? ((if power < 0 then '-' else '+') :: digitsOf power.natAbs) = some power := by
  by_cases negative : power < 0
  · rw [if_pos negative]
    have reads := integer?_digitsOf power
    rw [decide_eq_true negative] at reads
    exact reads
  · rw [if_neg negative]
    simp only [integer?, splitSign, natural?_digitsOf]
    show some (power.natAbs : Int) = some power
    congr 1
    omega

theorem read?_spelled {n : Numeral} {power : Option Int} {text : List Char}
    (h : n.Spells power text) : read? text = some n := by
  obtain ⟨whole, fraction, exponent⟩ := n
  obtain ⟨⟨hWhole, hFraction, nonempty, -⟩, hExponent, rfl⟩ := h
  dsimp only at hWhole hFraction nonempty hExponent
  subst hExponent
  have ends := stops_exponentText power
  unfold read? plain
  by_cases none : fraction = []
  · subst none
    simp only [if_true]
    rw [splitDigits_append hWhole ends]
    cases power with
    | none => simp only [exponentText, nonempty, false_and, if_false, Option.getD_none]
    | some power =>
      simp only [exponentText, nonempty, false_and, if_false]
      -- An `e` is no point, so that there is no fraction in front of it.
      show (if 'e' = 'e' ∨ 'e' = 'E' then (integer? _).map _ else _) = _
      rw [if_pos (.inl rfl), integer?_exponent]
      rfl
  · have point : Text.Stops Char.isDigit ('.' :: (fraction ++ exponentText power)) :=
      Text.stops_cons (by decide)
    simp only [none, if_false]
    rw [List.append_assoc, List.cons_append, splitDigits_append hWhole point]
    simp only [splitDigits_append hFraction ends, nonempty, false_and, if_false]
    cases power with
    | none => simp only [exponentText, Option.getD_none]
    | some power =>
      simp only [exponentText, true_or, if_true, integer?_exponent, Option.map_some,
        Option.getD_some]

end Numeral

/-! ## Decimals of one value -/

namespace Binary64

theorem roundHalfEven_mul_mul (num den : Nat) {c : Nat} (pos : 0 < c) :
    roundHalfEven (num * c) (den * c) = roundHalfEven num den := by
  have less : 2 * (num % den) * c < den * c ↔ 2 * (num % den) < den := Nat.mul_lt_mul_right pos
  have same : 2 * (num % den) * c = den * c ↔ 2 * (num % den) = den :=
    Nat.mul_left_inj (Nat.ne_of_gt pos)
  unfold roundHalfEven
  simp only [Nat.mul_div_mul_right _ _ pos, Nat.mul_mod_mul_right, ← Nat.mul_assoc, less, same]

/-- Only the quotient counts, not the numerator and the denominator. -/
theorem nearestSteps_mul_mul (num den : Nat) {c : Nat} (pos : 0 < c) :
    nearestSteps (num * c) (den * c) = nearestSteps num den := by
  unfold nearestSteps
  rw [Nat.mul_div_mul_right _ _ pos]
  simp only []
  rw [Nat.mul_right_comm, roundHalfEven_mul_mul _ _ pos]

theorem ofRatio_mul_mul (negative : Bool) (num den : Nat) {c : Nat} (pos : 0 < c) :
    ofRatio negative (num * c) (den * c) = ofRatio negative num den := by
  unfold ofRatio
  rw [Nat.mul_right_comm, nearestSteps_mul_mul _ _ pos]

/-- The sign does not take part in rounding. -/
theorem ofRatio_negative {num den steps : Nat} {held : Representable steps}
    (h : ofRatio false num den = finite false steps held) (negative : Bool) :
    ofRatio negative num den = finite negative steps held := by
  unfold ofRatio ofSteps at h ⊢
  split at h
  · rename_i fits
    cases h
    rw [dif_pos fits]
  · cases h

end Binary64

namespace Decimal

open Binary64 (finite)

theorem toBinary64_negative {digits steps : Nat} {exponent : Int} {held : Representable steps}
    (h : (Decimal.mk false digits exponent).toBinary64 = finite false steps held)
    (negative : Bool) :
    (Decimal.mk negative digits exponent).toBinary64 = finite negative steps held := by
  unfold toBinary64 at h ⊢
  dsimp only at h ⊢
  split at h
  · rename_i zero
    cases h
    rw [if_pos zero]
    rfl
  · rename_i some
    split at h
    · cases h
    · rename_i small
      rw [if_neg some, if_neg small]
      split at h
      · rename_i tiny
        cases h
        rw [if_pos tiny]
        rfl
      · rename_i large
        rw [if_neg large]
        exact Binary64.ofRatio_negative h negative

/-- A number other than zero has digits. -/
theorem digits_ne_zero {d : Decimal} {negative : Bool} {steps : Nat} {held : Representable steps}
    (h : d.toBinary64 = finite negative steps held) (pos : steps ≠ 0) : d.digits ≠ 0 := by
  intro zero
  unfold toBinary64 at h
  rw [if_pos zero] at h
  cases h
  exact pos rfl

/-- Zeros may be written out instead of counted in the exponent, and some of them behind the
point. -/
theorem toBinary64_shift {negative : Bool} {digits : Nat} {exponent : Int} {steps : Nat}
    {held : Representable steps} (whole : 0 ≤ exponent)
    (h : (Decimal.mk negative digits exponent).toBinary64 = finite negative steps held) (k : Nat) :
    (Decimal.mk negative (digits * Nat.pow 10 exponent.toNat * Nat.pow 10 k) (-k)).toBinary64
      = finite negative steps held := by
  have ten : 0 < Nat.pow 10 exponent.toNat := Nat.pow_pos (by decide)
  have tens : 0 < Nat.pow 10 k := Nat.pow_pos (by decide)
  unfold toBinary64 at h ⊢
  dsimp only at h ⊢
  by_cases zero : digits = 0
  · subst zero
    rw [if_pos rfl] at h
    rw [if_pos (by rw [Nat.zero_mul, Nat.zero_mul])]
    exact h
  · have shifted : digits * Nat.pow 10 exponent.toNat ≠ 0 :=
      Nat.mul_ne_zero zero (Nat.ne_of_gt ten)
    have some : digits * Nat.pow 10 exponent.toNat * Nat.pow 10 k ≠ 0 :=
      Nat.mul_ne_zero shifted (Nat.ne_of_gt tens)
    have long : k ≤ (digits * Nat.pow 10 exponent.toNat * Nat.pow 10 k).log2 := by
      rw [Nat.le_log2 some]
      exact Nat.le_trans (Nat.pow_le_pow_left (by decide) k)
        (Nat.le_mul_of_pos_left _ (Nat.pos_of_ne_zero shifted))
    rw [if_neg zero] at h
    split at h
    · cases h
    · rw [if_neg (by omega)] at h
      rw [if_neg some, if_neg (by omega), if_neg (by omega)]
      rw [show (-exponent).toNat = 0 by omega] at h
      rw [show (-(k : Int)).toNat = 0 by omega, show (- -(k : Int)).toNat = k by omega,
        show Nat.pow 10 0 = 1 from rfl, Nat.mul_one, ← h]
      have scaled := Binary64.ofRatio_mul_mul negative (digits * Nat.pow 10 exponent.toNat) 1 tens
      rw [Nat.one_mul] at scaled
      exact scaled

/-- A whole number that binary64 holds is the number that its digits denote. -/
theorem toBinary64_whole (negative : Bool) {n : Nat}
    (held : Representable (n * Binary64.stepsPerOne)) :
    (Decimal.mk negative n 0).toBinary64 = finite negative (n * Binary64.stepsPerOne) held := by
  have kept := Binary64.nearestSteps_mul held Nat.one_pos
  rw [Nat.mul_one] at kept
  unfold toBinary64
  dsimp only
  by_cases zero : n = 0
  · have none : ∀ steps held, steps = 0 → Binary64.zero negative = finite negative steps held := by
      rintro _ _ rfl
      rfl
    rw [if_pos zero]
    exact none _ held (by rw [zero, Nat.zero_mul])
  · rw [if_neg zero, if_neg (by decide), if_neg (by omega)]
    unfold Binary64.ofRatio
    rw [show Nat.pow 10 (0 : Int).toNat = 1 from rfl, Nat.mul_one,
      show Nat.pow 10 (-(0 : Int)).toNat = 1 from rfl, kept,
      Binary64.ofSteps_of_representable negative held]

theorem onGrid?_negative {tie : Tie} {negative : Bool} {steps : Nat} {exponent : Int} {d : Decimal}
    (h : onGrid? tie negative steps exponent = some d) : d.negative = negative := by
  unfold onGrid? at h
  obtain ⟨digits, _, rfl⟩ := List.mem_map.1 (List.mem_of_find?_eq_some h)
  rfl

theorem shortest_negative (tie : Tie) (negative : Bool) (steps : Nat) :
    (shortest tie negative steps).negative = negative := by
  unfold shortest
  cases found : (List.range 24).findSome? fun i =>
      onGrid? tie negative steps (coarsest steps - (i : Nat)) with
  | none => rfl
  | some d =>
    obtain ⟨i, _, hit⟩ := List.exists_of_findSome?_eq_some found
    exact onGrid?_negative hit

/-- The parts of the shortest decimal of a number other than zero, and what they stand for. -/
theorem shortest_value (tie : Tie) {steps : Nat} (held : Representable steps) (some : steps ≠ 0) :
    ∃ digits exponent, shortest tie false steps = ⟨false, digits, exponent⟩ ∧ digits ≠ 0 ∧
      ∀ negative, (mk negative digits exponent).toBinary64 = finite negative steps held := by
  have value := toBinary64_shortest tie false held (Nat.pos_of_ne_zero some)
  have sign := shortest_negative tie false steps
  have pos := digits_ne_zero value some
  generalize shortest tie false steps = d at value sign pos
  obtain ⟨negative, digits, exponent⟩ := d
  obtain rfl : negative = false := sign
  exact ⟨digits, exponent, rfl, pos, toBinary64_negative value⟩

end Decimal

theorem Binary64.exists_finite {x : Binary64} (h : x.isFinite = true) :
    ∃ negative steps held, x = finite negative steps held := by
  cases x with
  | finite negative steps held => exact ⟨negative, steps, held, rfl⟩
  | infinite negative => cases h
  | nan => cases h

/-! ## Both texts of a number are numerals of its value -/

namespace Numeral

theorem proper_digitsOf (n : Nat) {fraction : List Char} (digits : ∀ c ∈ fraction, c.isDigit = true)
    (exponent : Int) : Proper ⟨digitsOf n, fraction, exponent⟩ where
  whole _ := isDigit_of_mem_digitsOf
  fraction := digits
  nonempty := digitsOf_ne_nil n
  noLeadingZero starts := by
    by_cases zero : n = 0
    · rw [zero]
      rfl
    · exact absurd starts (head?_digitsOf zero)

/-- The digits of a whole number. -/
theorem spells_digitsOf (n : Nat) : Spells ⟨digitsOf n, [], 0⟩ none (digitsOf n) :=
  ⟨proper_digitsOf n (List.forall_mem_nil _) 0, rfl, (List.append_nil _).symm⟩

theorem toDecimal_digitsOf (negative : Bool) (n : Nat) :
    toDecimal negative ⟨digitsOf n, [], 0⟩ = ⟨negative, n, 0⟩ := by
  unfold toDecimal
  dsimp only
  rw [List.append_nil, ofDigitChars_digitsOf]
  rfl

/-- More digits behind the first ones do no harm. -/
theorem proper_digitsOf_append {n : Nat} (pos : n ≠ 0) {more fraction : List Char}
    (zeros : ∀ c ∈ more, c.isDigit = true) (digits : ∀ c ∈ fraction, c.isDigit = true)
    (exponent : Int) : Proper ⟨digitsOf n ++ more, fraction, exponent⟩ where
  whole c member := by
    rcases List.mem_append.1 member with member | member
    · exact isDigit_of_mem_digitsOf member
    · exact zeros c member
  fraction := digits
  nonempty none := digitsOf_ne_nil n (List.append_eq_nil_iff.1 none).1
  noLeadingZero starts := by
    obtain ⟨c, rest, split⟩ := List.exists_cons_of_ne_nil (digitsOf_ne_nil n)
    have first := head?_digitsOf pos
    simp only [split, List.cons_append, List.head?_cons] at first starts
    exact absurd starts first

end Numeral

namespace Decimal

open Binary64 (finite)
open Numeral (Spells)

theorem isDigit_of_mem_replicate {k : Nat} {c : Char} (h : c ∈ List.replicate k '0') :
    c.isDigit = true := by
  rw [List.eq_of_mem_replicate h]
  rfl

/-- Zeros in front of digits do not count. -/
theorem ofDigitChars_padded (k n : Nat) :
    Nat.ofDigitChars 10 (List.replicate k '0' ++ digitsOf n) 0 = n := by
  rw [Nat.ofDigitChars_append, Nat.ofDigitChars_replicate_zero, Nat.mul_zero, ofDigitChars_digitsOf]

theorem ofDigitChars_shifted (n k : Nat) :
    Nat.ofDigitChars 10 (digitsOf n ++ List.replicate k '0') 0 = n * Nat.pow 10 k := by
  rw [Nat.ofDigitChars_append, Nat.ofDigitChars_replicate_zero, ofDigitChars_digitsOf]
  exact Nat.mul_comm _ _

/-- With a negative exponent there are digits behind the point, and they are as many as it says. -/
theorem positional_of_neg {d : Decimal} (pos : d.digits ≠ 0) (h : d.exponent < 0) :
    Spells d.positional none d.positional.plain ∧ d.positional.fraction ≠ [] ∧
      ∀ negative, d.positional.toDecimal negative = ⟨negative, d.digits, d.exponent⟩ := by
  obtain ⟨sign, n, exponent⟩ := d
  dsimp only at pos h
  unfold positional
  dsimp only
  rw [if_neg (by omega)]
  generalize many : (-exponent).toNat = places
  generalize filling : places + 1 - (digitsOf n).length = zeros
  generalize padding : List.replicate zeros '0' ++ digitsOf n = padded
  have length : padded.length = zeros + (digitsOf n).length := by
    rw [← padding, List.length_append, List.length_replicate]
  have digits : ∀ c ∈ padded, c.isDigit = true := by
    intro c member
    rw [← padding] at member
    rcases List.mem_append.1 member with member | member
    · exact isDigit_of_mem_replicate member
    · exact isDigit_of_mem_digitsOf member
  have behind : (padded.drop (padded.length - places)).length = places := by
    rw [List.length_drop]
    omega
  refine ⟨⟨⟨fun c member => digits c (List.mem_of_mem_take member),
    fun c member => digits c (List.mem_of_mem_drop member), ?_, ?_⟩, rfl,
    (List.append_nil _).symm⟩, ?_, ?_⟩
  · intro none
    have before := congrArg List.length none
    rw [List.length_take, List.length_nil] at before
    omega
  · dsimp only
    intro starts
    cases zeros with
    | zero =>
      -- There are digits enough, and the first of them is no zero.
      rw [List.head?_take, if_neg (by omega), ← padding] at starts
      exact absurd starts (head?_digitsOf pos)
    | succ k =>
      have one : padded.length - places = 1 := by omega
      rw [one, ← padding, List.replicate_succ]
      rfl
  · intro none
    have none : padded.drop (padded.length - places) = [] := none
    rw [none, List.length_nil] at behind
    omega
  · intro negative
    unfold Numeral.toDecimal
    dsimp only
    rw [List.take_append_drop, behind, ← padding, ofDigitChars_padded]
    congr 1
    omega

/-- Without a negative exponent the digits are followed by as many zeros as it says. -/
theorem positional_of_nonneg {d : Decimal} (h : 0 ≤ d.exponent) :
    d.positional = ⟨digitsOf d.digits ++ List.replicate d.exponent.toNat '0', [], 0⟩ := by
  unfold positional
  rw [if_pos h]

section Spelled

variable {digits steps : Nat} {exponent : Int} {held : Representable steps}

/-- The digits with their zeros written out, and `k` more zeros behind the point. -/
theorem shifted_spelled (pos : digits ≠ 0) (whole : 0 ≤ exponent)
    (value : ∀ negative, (mk negative digits exponent).toBinary64 = finite negative steps held)
    (k : Nat) :
    let n : Numeral :=
      ⟨digitsOf digits ++ List.replicate exponent.toNat '0', List.replicate k '0', 0⟩
    n.Spells none n.plain ∧
      ∀ negative, (n.toDecimal negative).toBinary64 = finite negative steps held := by
  intro n
  have proper : n.Proper :=
    Numeral.proper_digitsOf_append pos (fun _ => isDigit_of_mem_replicate)
      (fun _ => isDigit_of_mem_replicate) 0
  refine ⟨⟨proper, rfl, (List.append_nil _).symm⟩, fun negative => ?_⟩
  have shifted := toBinary64_shift whole (value negative) k
  have read : Nat.ofDigitChars 10 (n.whole ++ n.fraction) 0
      = digits * Nat.pow 10 exponent.toNat * Nat.pow 10 k := by
    show Nat.ofDigitChars 10 (digitsOf digits ++ _ ++ List.replicate k '0') 0 = _
    rw [Nat.ofDigitChars_append, Nat.ofDigitChars_replicate_zero, ofDigitChars_shifted]
    exact Nat.mul_comm _ _
  unfold Numeral.toDecimal
  rw [read]
  show (mk negative _ (0 - ((List.replicate k '0').length : Int))).toBinary64 = _
  rw [List.length_replicate, Int.zero_sub]
  exact shifted

/-- One digit before the point and the others behind it: the exponent makes up for that. -/
theorem scientific_spelled (pos : digits ≠ 0)
    (value : ∀ negative, (mk negative digits exponent).toBinary64 = finite negative steps held) :
    let power := (digitsOf digits).length + exponent - 1
    let n : Numeral := ⟨(digitsOf digits).take 1, (digitsOf digits).drop 1, power⟩
    n.Proper ∧ ∀ negative, (n.toDecimal negative).toBinary64 = finite negative steps held := by
  intro power n
  obtain ⟨c, rest, split⟩ := List.exists_cons_of_ne_nil (digitsOf_ne_nil digits)
  have first : c ≠ '0' := by
    have start := head?_digitsOf pos
    rw [split] at start
    exact fun zero => start (congrArg some zero)
  have all : ∀ d ∈ digitsOf digits, d.isDigit = true := fun _ => isDigit_of_mem_digitsOf
  refine ⟨⟨?_, ?_, ?_, ?_⟩, fun negative => ?_⟩
  · intro d member
    exact all d (List.mem_of_mem_take member)
  · intro d member
    exact all d (List.mem_of_mem_drop member)
  · show (digitsOf digits).take 1 ≠ []
    rw [split]
    exact List.cons_ne_nil _ _
  · show ((digitsOf digits).take 1).head? = some '0' → _
    rw [split]
    exact fun zero => absurd (Option.some.inj zero) first
  · have back : power - ((digitsOf digits).drop 1).length = exponent := by
      rw [List.length_drop]
      have some : 0 < (digitsOf digits).length := by
        rw [split]
        exact Nat.zero_lt_succ _
      omega
    unfold Numeral.toDecimal
    dsimp only [n]
    rw [List.take_append_drop, ofDigitChars_digitsOf, back]
    exact value negative

end Spelled

end Decimal

namespace Binary64

variable {steps : Nat}

/-- The number without an exponent, as values are shown. -/
theorem plainMagnitude_spelled (held : Representable steps) :
    ∃ n : Numeral, n.Spells none (plainMagnitude steps) ∧
      ∀ negative, (n.toDecimal negative).toBinary64 = finite negative steps held := by
  unfold plainMagnitude
  split
  · rename_i safe
    have whole : steps / stepsPerOne * stepsPerOne = steps :=
      Nat.div_mul_cancel (Nat.dvd_of_mod_eq_zero safe.1)
    refine ⟨_, Numeral.spells_digitsOf (steps / stepsPerOne), fun negative => ?_⟩
    have value := Decimal.toBinary64_whole negative (whole.symm ▸ held)
    rw [Numeral.toDecimal_digitsOf]
    simp only [whole] at value
    exact value
  · rename_i unsafely
    have some : steps ≠ 0 := by
      rintro rfl
      exact unsafely ⟨Nat.zero_mod _, by rw [Nat.zero_div]; exact Nat.zero_le _⟩
    obtain ⟨digits, exponent, chosen, pos, value⟩ := Decimal.shortest_value .up held some
    rw [chosen]
    by_cases below : exponent < 0
    · obtain ⟨spells, -, decimal⟩ := @Decimal.positional_of_neg ⟨false, digits, exponent⟩ pos below
      refine ⟨_, spells, fun negative => ?_⟩
      rw [decimal]
      exact value negative
    · have whole : 0 ≤ exponent := by omega
      rw [Decimal.positional_of_nonneg whole]
      exact ⟨_, Decimal.shifted_spelled pos whole value 0⟩

/-- The number in JSON: always with a point or an exponent. -/
theorem realMagnitude_spelled (held : Representable steps) :
    ∃ (n : Numeral) (power : Option Int), n.Spells power (Json.Number.realMagnitude steps) ∧
      (n.fraction ≠ [] ∨ power ≠ none) ∧
      ∀ negative, (n.toDecimal negative).toBinary64 = finite negative steps held := by
  unfold Json.Number.realMagnitude
  by_cases zero : steps = 0
  · subst zero
    rw [if_pos rfl]
    refine ⟨⟨['0'], ['0'], 0⟩, none, ⟨⟨List.forall_mem_singleton.2 rfl,
      List.forall_mem_singleton.2 rfl, List.cons_ne_nil _ _, fun _ => rfl⟩, rfl, rfl⟩,
      .inl (List.cons_ne_nil _ _), fun negative => ?_⟩
    unfold Decimal.toBinary64
    exact if_pos rfl
  · obtain ⟨digits, exponent, chosen, pos, value⟩ := Decimal.shortest_value .toEven held zero
    rw [if_neg zero, chosen]
    dsimp only
    split
    · by_cases below : exponent < 0
      · obtain ⟨spells, behind, decimal⟩ :=
          @Decimal.positional_of_neg ⟨false, digits, exponent⟩ pos below
        rw [if_neg behind]
        refine ⟨_, none, spells, .inl behind, fun negative => ?_⟩
        rw [decimal]
        exact value negative
      · have whole : 0 ≤ exponent := by omega
        rw [@Decimal.positional_of_nonneg ⟨false, digits, exponent⟩ whole, if_pos rfl]
        obtain ⟨spells, decimal⟩ := Decimal.shifted_spelled pos whole value 1
        exact ⟨_, none, spells, .inl (List.cons_ne_nil _ _), decimal⟩
    · obtain ⟨proper, decimal⟩ := Decimal.scientific_spelled pos value
      exact ⟨_, some _, ⟨proper, rfl, rfl⟩, .inr (Option.some_ne_none _), decimal⟩

end Binary64

/-! ## Reading them -/

namespace Numeral

variable {n : Numeral} {power : Option Int} {text : List Char}

/-- A numeral starts with a digit. -/
theorem Spells.starts (h : n.Spells power text) :
    ∃ c rest, text = c :: rest ∧ c.isDigit = true := by
  obtain ⟨c, rest, split⟩ := List.exists_cons_of_ne_nil h.proper.nonempty
  have digit : c.isDigit = true := h.proper.whole c (split ▸ List.mem_cons_self)
  rw [h.text]
  unfold plain
  split
  · exact ⟨c, _, by rw [split]; rfl, digit⟩
  · exact ⟨c, _, by rw [split]; rfl, digit⟩

/-- A numeral consists of digits, of a point, and of the characters in front of an exponent. -/
theorem Spells.forall_mem (h : n.Spells power text) {P : Char → Prop}
    (digit : ∀ c, c.isDigit = true → P c) (point : P '.') (mark : P 'e') (minus : P '-')
    (plus : P '+') : ∀ c ∈ text, P c := by
  have before : ∀ c ∈ n.plain, P c := by
    intro c member
    unfold plain at member
    split at member
    · exact digit c (h.proper.whole c member)
    · rcases List.mem_append.1 member with member | member
      · exact digit c (h.proper.whole c member)
      · rcases List.mem_cons.1 member with rfl | member
        · exact point
        · exact digit c (h.proper.fraction c member)
  have behind : ∀ c ∈ exponentText power, P c := by
    intro c member
    cases power with
    | none => cases member
    | some power =>
      rcases List.mem_cons.1 member with rfl | member
      · exact mark
      · rcases List.mem_cons.1 member with rfl | member
        · split
          · exact minus
          · exact plus
        · exact digit c (isDigit_of_mem_digitsOf member)
  intro c member
  rw [h.text] at member
  rcases List.mem_append.1 member with member | member
  · exact before c member
  · exact behind c member

theorem visible_of_isDigit {c : Char} (h : c.isDigit = true) : Text.isBlank c = false := by
  simp only [Char.isDigit, Bool.and_eq_true, decide_eq_true_eq, ge_iff_le,
    UInt32.le_iff_toNat_le] at h
  change 48 ≤ c.toNat ∧ c.toNat ≤ 57 at h
  exact Text.isBlank_eq_false (by omega) (by omega)

/-- There are no blanks in a numeral. -/
theorem Spells.visible (h : n.Spells power text) : ∀ c ∈ text, Text.isBlank c = false :=
  h.forall_mem (fun _ => visible_of_isDigit) (by decide) (by decide) (by decide) (by decide)

theorem visible_signOf (negative : Bool) : ∀ c ∈ signOf negative, Text.isBlank c = false := by
  cases negative with
  | false => nofun
  | true => exact List.forall_mem_singleton.2 (by decide)

theorem Spells.trim (h : n.Spells power text) (negative : Bool) :
    Text.trim (signOf negative ++ text) = signOf negative ++ text := by
  apply Text.trim_of_visible
  intro c member
  rcases List.mem_append.1 member with member | member
  · exact visible_signOf negative c member
  · exact h.visible c member

end Numeral

/-- The reader of requests finds the sign and the parts of a numeral. -/
theorem Binary64.ofText?_spelled {n : Numeral} {power : Option Int} {text : List Char}
    (h : n.Spells power text) (negative : Bool) :
    ofText? (signOf negative ++ text) = some (n.toDecimal negative).toBinary64 := by
  obtain ⟨c, rest, split, digit⟩ := h.starts
  have parts := Numeral.read?_spelled h
  unfold ofText?
  rw [split] at parts ⊢
  rw [Numeral.splitSign_signOf negative digit]
  dsimp only
  rw [parts]

end RequestParams
