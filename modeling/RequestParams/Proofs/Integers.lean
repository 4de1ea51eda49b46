import RequestParams.Proofs.Defaults

/-!
# Integers in text

An integer parameter takes text that writes an integer: an optional sign and digits, as many as one
likes, with blanks around it or without (`WritesInteger`). The value is that integer, exactly, if
its magnitude is at most 2⁵³ − 1, and there is none otherwise (`ScalarType.read?_integer_exact`); no
count of digits is too large to be turned down for its value alone, and none wraps around.

The grammar of numbers is another one, with points and exponents, and rounds to the nearest number.
It takes what integers are written as for the same number, but for one thing: a minus in front of
zero is kept there, and an integer has no negative zero.
-/

set_option autoImplicit false

namespace RequestParams

/-! ## What writes an integer -/

/-- The number that digits stand for: each counts by the place that it stands at. -/
def placeValue : List Char → Nat
  | [] => 0
  | c :: rest => (c.toNat - '0'.toNat) * Nat.pow 10 rest.length + placeValue rest

/-- One or more of the digits 0 to 9. -/
structure Digits (digits : List Char) : Prop where
  some : digits ≠ []
  each : ∀ c ∈ digits, c.isDigit = true

/-- Digits with a sign in front of them or without, and the integer that they stand for. -/
inductive SpellsInteger : List Char → Int → Prop where
  | unsigned {digits : List Char} (all : Digits digits) : SpellsInteger digits (placeValue digits)
  | plus {digits : List Char} (all : Digits digits) :
      SpellsInteger ('+' :: digits) (placeValue digits)
  | minus {digits : List Char} (all : Digits digits) :
      SpellsInteger ('-' :: digits) (-(placeValue digits : Int))

/-- The text is an integer with blanks around it. -/
def WritesInteger (s : String) (z : Int) : Prop :=
  ∃ before text after, (∀ c ∈ before, Text.isBlank c = true) ∧ (∀ c ∈ after, Text.isBlank c = true) ∧
    s.toList = before ++ text ++ after ∧ SpellsInteger text z

/-! ## Reading an integer -/

namespace Numeral

open Binary64 (signed)

theorem ofDigitChars_eq_placeValue (digits : List Char) :
    Nat.ofDigitChars 10 digits 0 = placeValue digits := by
  induction digits with
  | nil => rfl
  | cons c rest ih =>
    rw [Nat.ofDigitChars_cons, Nat.ofDigitChars_eq_ofDigitChars_zero, ih, placeValue, Nat.mul_zero,
      Nat.zero_add, Nat.mul_comm]
    rfl

theorem natural?_eq_some {digits : List Char} {n : Nat} :
    natural? digits = some n ↔ Digits digits ∧ n = placeValue digits := by
  unfold natural?
  rw [ofDigitChars_eq_placeValue, Option.ite_none_right_eq_some, Option.some_inj, List.all_eq_true,
    eq_comm (a := n)]
  exact and_congr_left' ⟨fun all => ⟨all.1, all.2⟩, fun all => ⟨all.some, all.each⟩⟩

/-- What is left behind a sign are the digits, and nothing else is an integer. -/
theorem spells_iff_splitSign {text : List Char} {z : Int} :
    SpellsInteger text z ↔ ∃ negative digits, splitSign text = (negative, digits) ∧
      Digits digits ∧ z = signed negative (placeValue digits) := by
  constructor
  · intro spells
    cases spells with
    | unsigned all =>
      obtain ⟨c, rest, split⟩ := List.exists_cons_of_ne_nil all.some
      have first : c.isDigit = true := all.each c (split ▸ List.mem_cons_self)
      refine ⟨false, text, ?_, all, rfl⟩
      rw [split]
      exact splitSign_of_isDigit first
    | plus all => exact ⟨false, _, rfl, all, rfl⟩
    | minus all => exact ⟨true, _, rfl, all, rfl⟩
  · rintro ⟨negative, digits, split, all, rfl⟩
    unfold splitSign at split
    split at split
    · cases split
      exact .minus all
    · cases split
      exact .plus all
    · cases split
      exact .unsigned all

theorem integer?_of_splitSign {text digits : List Char} {negative : Bool}
    (split : splitSign text = (negative, digits)) :
    integer? text = (natural? digits).map (signed negative) := by
  unfold integer?
  rw [split]
  dsimp only
  cases natural? digits <;> rfl

theorem integer?_eq_some {text : List Char} {z : Int} :
    integer? text = some z ↔ SpellsInteger text z := by
  rw [spells_iff_splitSign]
  constructor
  · intro reads
    cases split : splitSign text with
    | mk negative digits =>
      rw [integer?_of_splitSign split] at reads
      obtain ⟨n, natural, rfl⟩ := Option.map_eq_some_iff.1 reads
      obtain ⟨all, rfl⟩ := natural?_eq_some.1 natural
      exact ⟨negative, digits, rfl, all, rfl⟩
  · rintro ⟨negative, digits, split, all, rfl⟩
    rw [integer?_of_splitSign split, natural?_eq_some.2 ⟨all, rfl⟩, Option.map_some]

/-- Digits are a numeral without a point and without an exponent. -/
theorem read?_digits {digits : List Char} (all : Digits digits) :
    read? digits = some ⟨digits, [], 0⟩ := by
  have taken : splitDigits digits = (digits, []) := by
    have split := splitDigits_append all.each Text.stops_nil
    rw [List.append_nil] at split
    exact split
  unfold read?
  rw [taken]
  simp only [all.some, false_and, if_false]

theorem toDecimal_digits (negative : Bool) (digits : List Char) :
    toDecimal negative ⟨digits, [], 0⟩ = ⟨negative, placeValue digits, 0⟩ := by
  unfold toDecimal
  dsimp only
  rw [List.append_nil, ofDigitChars_eq_placeValue]
  rfl

end Numeral

theorem SpellsInteger.visible {text : List Char} {z : Int} (h : SpellsInteger text z) :
    ∀ c ∈ text, Text.isBlank c = false := by
  have digits {digits : List Char} (all : Digits digits) : ∀ c ∈ digits, Text.isBlank c = false :=
    fun c member => Numeral.visible_of_isDigit (all.each c member)
  cases h with
  | unsigned all => exact digits all
  | plus all => exact List.forall_mem_cons.2 ⟨by decide, digits all⟩
  | minus all => exact List.forall_mem_cons.2 ⟨by decide, digits all⟩

/-- The blanks around an integer are those that trimming takes away. -/
theorem writesInteger_iff {s : String} {z : Int} :
    WritesInteger s z ↔ SpellsInteger (Text.trim s.toList) z := by
  constructor
  · rintro ⟨before, text, after, hBefore, hAfter, same, spells⟩
    rw [same, Text.trim_between hBefore hAfter spells.visible]
    exact spells
  · intro spells
    obtain ⟨before, after, hBefore, hAfter, same⟩ := Text.exists_blanks_trim s.toList
    exact ⟨before, _, after, hBefore, hAfter, same, spells⟩

/-- A text writes one integer at most. -/
theorem WritesInteger.unique {s : String} {z z' : Int} (h : WritesInteger s z)
    (h' : WritesInteger s z') : z = z' := by
  rw [writesInteger_iff, ← Numeral.integer?_eq_some] at h h'
  exact Option.some.inj (h.symm.trans h')

/-! ## The number of an integer -/

namespace Binary64

/-- The grammar of numbers takes an integer for the number that denotes it. -/
theorem ofText?_integer {text : List Char} {z : Int} (spells : SpellsInteger text z)
    (small : z.natAbs ≤ maxSafeInteger) :
    ∃ y, ofText? text = some y ∧ y.isFinite = true ∧ y.Denotes z := by
  obtain ⟨negative, digits, split, all, rfl⟩ := Numeral.spells_iff_splitSign.1 spells
  rw [natAbs_signed] at small
  have held := representable_whole small
  refine ⟨finite negative (placeValue digits * stepsPerOne) held, ?_, rfl, ?_⟩
  · unfold ofText?
    rw [split]
    dsimp only
    rw [Numeral.read?_digits all]
    dsimp only
    rw [Numeral.toDecimal_digits, Decimal.toBinary64_whole negative held]
  · have whole := natAbs_signed negative (placeValue digits)
    refine ⟨negative, whole.symm ▸ held, ?_, congrArg (signed negative) whole⟩
    simp only [whole]

end Binary64

/-! ## Integers are numbers -/

namespace ScalarType

theorem read?_integer_eq_some {s : String} {v : Value} :
    integer.read? s = some v ↔
      ∃ z, WritesInteger s z ∧ z.natAbs ≤ Binary64.maxSafeInteger ∧ v = .number (.ofInt z) := by
  simp only [writesInteger_iff, ← Numeral.integer?_eq_some, read?]
  cases Numeral.integer? (Text.trim s.toList) with
  | none =>
    constructor
    · intro impossible
      cases impossible
    · rintro ⟨z, impossible, -⟩
      cases impossible
  | some written =>
    dsimp only
    rw [Option.ite_none_right_eq_some]
    constructor
    · rintro ⟨small, same⟩
      exact ⟨written, rfl, small, (Option.some.inj same).symm⟩
    · rintro ⟨z, same, small, rfl⟩
      cases same
      exact ⟨small, rfl⟩

/-- **Integers are read exactly, and as numbers are.** A text reads as an integer exactly if it
writes one of magnitude at most 2⁵³ − 1, whatever its sign, its zeros in front and the blanks around
it. The value is the number that denotes this integer. The same text reads as a number, with the
same value, but for a zero that is written with a minus. -/
theorem read?_integer_exact (s : String) :
    ((∃ v, integer.read? s = some v) ↔
      ∃ z, WritesInteger s z ∧ z.natAbs ≤ 9007199254740991) ∧
    ∀ v z, integer.read? s = some v → WritesInteger s z →
      ∃ x y, v = .number x ∧ x.Denotes z ∧
        number.read? s = some (.number y) ∧ y.Denotes z ∧ (y = x ∨ z = 0) := by
  constructor
  · constructor
    · rintro ⟨v, reads⟩
      obtain ⟨z, writes, small, -⟩ := read?_integer_eq_some.1 reads
      exact ⟨z, writes, small⟩
    · rintro ⟨z, writes, small⟩
      exact ⟨_, read?_integer_eq_some.2 ⟨z, writes, small, rfl⟩⟩
  · intro v z reads writes
    obtain ⟨written, same, small, rfl⟩ := read?_integer_eq_some.1 reads
    obtain rfl : written = z := same.unique writes
    have spells := writesInteger_iff.1 writes
    obtain ⟨y, number, finite, denotes⟩ := Binary64.ofText?_integer spells small
    have exactly := Binary64.denotes_ofInt small
    refine ⟨_, y, rfl, exactly, ?_, denotes, exactly.eq_or_zero denotes⟩
    simp only [read?]
    rw [number]
    exact if_pos finite

/-- A zero with a minus, of which a number keeps the minus; and an integer of 2⁶⁴ and seven, which
is no value and not seven. -/
theorem read?_integer_exact_sample :
    (WritesInteger " -000 " 0 ∧ integer.read? " -000 " = some (.number (.ofInt 0)) ∧
      number.read? " -000 " ≠ integer.read? " -000 " ∧
      ∃ x y, Value.number (.ofInt 0) = .number x ∧ x.Denotes 0 ∧
        number.read? " -000 " = some (.number y) ∧ y.Denotes 0 ∧ (y = x ∨ (0 : Int) = 0)) ∧
    WritesInteger "+0018446744073709551623" 18446744073709551623 ∧
      ∀ v, integer.read? "+0018446744073709551623" ≠ some v := by
  constructor
  · have blank : ∀ c ∈ [' '], Text.isBlank c = true := List.all_eq_true.1 rfl
    have writes : WritesInteger " -000 " 0 := ⟨[' '], '-' :: "000".toList, [' '], blank, blank, rfl,
      .minus ⟨by decide, List.all_eq_true.1 rfl⟩⟩
    have reads : integer.read? " -000 " = some (.number (.ofInt 0)) := by decide +kernel
    exact ⟨writes, reads, by decide +kernel, (read?_integer_exact " -000 ").2 _ _ reads writes⟩
  · have writes : WritesInteger "+0018446744073709551623" 18446744073709551623 :=
      ⟨[], '+' :: "0018446744073709551623".toList, [], List.forall_mem_nil _, List.forall_mem_nil _,
        rfl, .plus ⟨by decide, List.all_eq_true.1 rfl⟩⟩
    refine ⟨writes, fun v reads => ?_⟩
    obtain ⟨z, same, small⟩ := (read?_integer_exact _).1.1 ⟨v, reads⟩
    obtain rfl := writes.unique same
    exact absurd small (by decide)

end ScalarType
end RequestParams
