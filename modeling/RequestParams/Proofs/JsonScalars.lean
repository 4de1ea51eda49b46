import RequestParams.Json.Reader
import RequestParams.Proofs.Compiling
import RequestParams.Proofs.Numbers

/-!
# Strings and numbers in JSON text

What is written as a string or as a number in JSON is read again, whatever comes after it, as long
as that does not go on with a number (`Ends`).

* `readString_escaped`: strings, character by character.
* `readNumber_integer`, `readNumber_real`: numbers. Integers read back as they are. Other numbers
  are computed by scaling when they are read, which may miss them; that they are not missed is a
  hypothesis (`Number.Rereads`), about the number alone and not about what comes after it.
-/

set_option autoImplicit false

namespace RequestParams.Json

open Text (Stops stops_cons)

/-! ## Where a value ends -/

/-- A character that a number may go on with. -/
def inNumber (c : Char) : Bool := c.isDigit || c = '.' || c = 'e' || c = 'E'

/-- The text does not go on with a number. -/
abbrev Ends (rest : List Char) : Prop := Stops inNumber rest

theorem Ends.stops_digits {rest : List Char} (h : Ends rest) : Stops Char.isDigit rest := by
  intro c first
  have apart := h c first
  simp only [inNumber, Bool.or_eq_false_iff] at apart
  exact apart.1.1.1

theorem skipSpace_cons {c : Char} {rest : List Char} (h : isSpace c = false) :
    skipSpace (c :: rest) = c :: rest :=
  Text.dropWhile_of_stops (stops_cons h)

/-! ## Strings -/

theorem quote_append (s : String) (rest : List Char) :
    quote s ++ rest = '"' :: (s.toList.flatMap escapeChar ++ '"' :: rest) := by
  simp [quote]

/-- A letter behind a backslash stands for the character that it was written for. -/
theorem readEscape_short {c letter : Char} (h : shortEscape? c = some letter) (rest : List Char) :
    readEscape (letter :: rest) = .ok (c, rest) := by
  unfold shortEscape? at h
  iterate 7
    split at h
    · subst c
      cases h
      rfl
  cases h

theorem hexValue?_hexDigit : ∀ n, n < 16 → hexValue? (hexDigit n) = some n := by
  decide

theorem utf8Size_hexDigit : ∀ n, n < 16 → (hexDigit n).utf8Size = 1 := by
  decide

theorem readHex_control {n : Nat} (h : n < 0x20) (rest : List Char) :
    readHex ('0' :: '0' :: hexDigit (n / 16) :: hexDigit (n % 16) :: rest) = .ok (n, rest) := by
  have high : n / 16 < 16 := by omega
  have low : n % 16 < 16 := by omega
  have zero : hexValue? '0' = some 0 := rfl
  have size : (String.ofList
      ['0', '0', hexDigit (n / 16), hexDigit (n % 16)]).utf8ByteSize = 4 := by
    simp [utf8Size_hexDigit _ high, utf8Size_hexDigit _ low]
    rfl
  unfold readHex
  rw [show ('0' :: '0' :: hexDigit (n / 16) :: hexDigit (n % 16) :: rest).take 4
    = ['0', '0', hexDigit (n / 16), hexDigit (n % 16)] from rfl, size, if_neg (by decide)]
  simp only [zero, hexValue?_hexDigit _ high, hexValue?_hexDigit _ low]
  congr 2
  omega

theorem readEscape_control {c : Char} (h : c.toNat < 0x20) (rest : List Char) :
    readEscape ('u' :: '0' :: '0' :: hexDigit (c.toNat / 16) :: hexDigit (c.toNat % 16) :: rest)
      = .ok (c, rest) := by
  simp only [readEscape, readHex_control h, bind, Except.bind]
  rw [if_neg (by omega), if_neg (by omega), Char.ofNat_toNat]

/-- One character is read from its escape, or from itself. -/
theorem readChars_escapeChar (c : Char) (fuel : Nat) (rest : List Char) :
    readChars readEscape (fuel + 1) (escapeChar c ++ rest) = (do
      let (ds, rest) ← readChars readEscape fuel rest
      .ok (c :: ds, rest)) := by
  have backslash : ∀ {tail more : List Char}, readEscape tail = .ok (c, more) →
      readChars readEscape (fuel + 1) ('\\' :: tail) = (do
        let (ds, rest) ← readChars readEscape fuel more
        .ok (c :: ds, rest)) := by
    intro tail more reads
    rw [readChars, if_neg (by decide), if_pos rfl, reads]
    rfl
  unfold escapeChar
  split
  · rename_i letter short
    exact backslash (readEscape_short short rest)
  · rename_i long
    split
    · rename_i control
      exact backslash (readEscape_control control rest)
    · rename_i visible
      have quoteless : c ≠ '"' := by
        rintro rfl
        cases long
      have plain : c ≠ '\\' := by
        rintro rfl
        cases long
      rw [List.singleton_append, readChars, if_neg quoteless, if_neg plain, if_neg visible]

theorem readChars_escaped (cs : List Char) {fuel : Nat} (enough : cs.length < fuel)
    (rest : List Char) :
    readChars readEscape fuel (cs.flatMap escapeChar ++ '"' :: rest) = .ok (cs, rest) := by
  induction cs generalizing fuel with
  | nil =>
    obtain ⟨fuel, rfl⟩ := Nat.exists_eq_add_one.2 enough
    rfl
  | cons c cs ih =>
    obtain ⟨fuel, rfl⟩ := Nat.exists_eq_add_one.2 (Nat.zero_lt_of_lt enough)
    rw [List.flatMap_cons, List.append_assoc, readChars_escapeChar,
      ih (Nat.lt_of_succ_lt_succ enough)]
    rfl

/-- Every character takes up some text. -/
theorem length_le_escaped (cs : List Char) : cs.length ≤ (cs.flatMap escapeChar).length := by
  induction cs with
  | nil => exact Nat.le_refl 0
  | cons c cs ih =>
    have some : 0 < (escapeChar c).length := by
      unfold escapeChar
      split
      · exact Nat.zero_lt_succ _
      · split <;> exact Nat.zero_lt_succ _
    rw [List.flatMap_cons, List.length_append, List.length_cons]
    omega

/-- **A string reads back from its text between quotes.** -/
theorem readString_escaped (s : String) (rest : List Char) :
    readString (s.toList.flatMap escapeChar ++ '"' :: rest) = .ok (s, rest) := by
  have long := length_le_escaped s.toList
  unfold readString
  rw [readChars_escaped s.toList (by rw [List.length_append]; omega)]
  show Except.ok (String.ofList s.toList, rest) = _
  rw [String.ofList_toList]

/-! ## Numbers -/

open Numeral (Spells exponentText splitDigits_append splitSign_digitsOf)

theorem readDigits_append {digits rest : List Char} (some : digits ≠ [])
    (all : ∀ c ∈ digits, c.isDigit = true) (stops : Stops Char.isDigit rest) :
    readDigits (digits ++ rest) = .ok (digits, rest) := by
  have split := splitDigits_append all stops
  cases digits with
  | nil => exact absurd rfl some
  | cons c more =>
    show (if c.isDigit then Except.ok (Numeral.splitDigits ((c :: more) ++ rest)) else _) = _
    rw [if_pos (all c List.mem_cons_self), split]

/-- Digits before the point. A zero is followed by no other digit. -/
theorem readWhole_append {n : Numeral} (proper : n.Proper) {rest : List Char}
    (stops : Stops Char.isDigit rest) : readWhole (n.whole ++ rest) = .ok (n.whole, rest) := by
  by_cases zero : n.whole.head? = some '0'
  · rw [proper.noLeadingZero zero]
    cases rest with
    | nil => rfl
    | cons c rest =>
      show (if c.isDigit then Except.error Fault.malformed else _) = _
      rw [stops c rfl]
      rfl
  · have digits := readDigits_append proper.nonempty proper.whole stops
    unfold readWhole
    split
    · rename_i first
      obtain ⟨d, more, split⟩ := List.exists_cons_of_ne_nil proper.nonempty
      rw [split] at zero first
      exact absurd (congrArg some (List.cons.inj first).1) zero
    · exact digits

theorem readExponent_text (power : Int) {rest : List Char} (stops : Stops Char.isDigit rest) :
    readExponent ((if power < 0 then '-' else '+') :: (digitsOf power.natAbs ++ rest))
      = .ok (power, rest) := by
  have digits := readDigits_append (digitsOf_ne_nil power.natAbs)
    (fun _ => isDigit_of_mem_digitsOf) stops
  by_cases negative : power < 0
  · simp only [if_pos negative, readExponent, Numeral.splitSign, digits, bind, Except.bind,
      ofDigitChars_digitsOf, if_true]
    congr 2
    omega
  · simp only [if_neg negative, readExponent, Numeral.splitSign, digits, bind, Except.bind,
      ofDigitChars_digitsOf, Bool.false_eq_true, if_false]
    congr 2
    omega

theorem readOptionalExponent_text (power : Option Int) {rest : List Char} (ends : Ends rest) :
    readOptionalExponent (exponentText power ++ rest) = .ok (power, rest) := by
  cases power with
  | some power =>
    simp only [exponentText, List.cons_append, readOptionalExponent, true_or, if_true,
      readExponent_text power ends.stops_digits, bind, Except.bind]
  | none =>
    cases rest with
    | nil => rfl
    | cons c rest =>
      have apart := ends c rfl
      simp only [inNumber, Bool.or_eq_false_iff, decide_eq_false_iff_not] at apart
      show readOptionalExponent (c :: rest) = _
      unfold readOptionalExponent
      dsimp only
      rw [if_neg (not_or.2 ⟨apart.1.2, apart.2⟩)]

theorem splitMinus_signOf (negative : Bool) {c : Char} {rest : List Char}
    (h : c.isDigit = true) : splitMinus (signOf negative ++ c :: rest) = (negative, c :: rest) := by
  cases negative with
  | true => rfl
  | false =>
    show splitMinus (c :: rest) = _
    unfold splitMinus
    split
    · rename_i first
      cases first
      cases h
    · rfl

theorem readFraction_none (power : Option Int) {rest : List Char} (ends : Ends rest) :
    readFraction (exponentText power ++ rest) = .ok (none, exponentText power ++ rest) := by
  have pointless : ∀ more, exponentText power ++ rest ≠ '.' :: more := by
    intro more point
    cases power with
    | some power => cases (List.cons.inj point).1
    | none =>
      have apart := ends '.' (by rw [show rest = '.' :: more from point]; rfl)
      cases apart
  unfold readFraction
  split
  · rename_i more point
    exact absurd point (pointless more)
  · rfl

theorem readFraction_point {fraction rest : List Char} (some : fraction ≠ [])
    (digits : ∀ c ∈ fraction, c.isDigit = true) (stops : Stops Char.isDigit rest) :
    readFraction ('.' :: (fraction ++ rest)) = .ok (.some fraction, rest) := by
  simp only [readFraction, readDigits_append some digits stops, bind, Except.bind]

/-- A numeral is found again, and whether it has a point or an exponent. -/
theorem readWritten_spelled {n : Numeral} {power : Option Int} {text : List Char}
    (h : n.Spells power text) (negative : Bool) {rest : List Char} (ends : Ends rest) :
    readWritten (signOf negative ++ (text ++ rest))
      = .ok (⟨negative, n, n.fraction.isEmpty && power.isNone⟩, rest) := by
  have sign : splitMinus (signOf negative ++ (text ++ rest)) = (negative, text ++ rest) := by
    obtain ⟨c, more, split, digit⟩ := h.starts
    rw [split]
    exact splitMinus_signOf negative digit
  have exponent := readOptionalExponent_text power ends
  have behind : Stops Char.isDigit (exponentText power ++ rest) :=
    (Numeral.stops_exponentText power).append ends.stops_digits
  obtain ⟨whole, fraction, exponent'⟩ := n
  obtain ⟨proper, same, rfl⟩ := h
  obtain rfl : exponent' = power.getD 0 := same
  unfold readWritten
  rw [sign]
  by_cases pointless : fraction = []
  · subst pointless
    have first := readWhole_append proper behind
    dsimp only [Numeral.plain] at first ⊢
    rw [if_pos rfl, List.append_assoc, first]
    show (readFraction _ >>= _) = _
    rw [readFraction_none power ends]
    show (readOptionalExponent _ >>= _) = _
    rw [exponent]
    rfl
  · have point : Stops Char.isDigit ('.' :: (fraction ++ (exponentText power ++ rest))) :=
      stops_cons (by decide)
    have first := readWhole_append proper point
    dsimp only [Numeral.plain] at first ⊢
    rw [if_neg pointless, List.append_assoc, List.append_assoc, List.cons_append, first]
    show (readFraction _ >>= _) = _
    rw [readFraction_point pointless proper.fraction behind]
    show (readOptionalExponent _ >>= _) = _
    rw [exponent, List.isEmpty_eq_false_iff.2 pointless]
    rfl

theorem readNumber_eq_ok {text rest : List Char} {n : Number} :
    readNumber text = .ok (n, rest) ↔
      ∃ written, readWritten text = .ok (written, rest) ∧ written.number? = some n := by
  constructor
  · intro h
    obtain ⟨⟨written, left⟩, read, kept⟩ := bind_eq_ok.1 h
    cases known : written.number? with
    | none => simp [known] at kept
    | some found =>
      simp only [known, Except.ok.injEq, Prod.mk.injEq] at kept
      obtain ⟨rfl, rfl⟩ := kept
      exact ⟨written, read, known⟩
  · rintro ⟨written, read, known⟩
    unfold readNumber
    rw [read]
    simp only [bind, Except.bind, known]

/-- **An integer reads back from its digits**, up to the magnitude that documentation writes as an
integer. -/
theorem readNumber_integer {z : Int} (small : z.natAbs ≤ Binary64.maxSafeInteger)
    {rest : List Char} (ends : Ends rest) :
    readNumber ((Number.integer z).chars ++ rest) = .ok (.integer z, rest) := by
  have written := readWritten_spelled (Numeral.spells_digitsOf z.natAbs) (decide (z < 0)) ends
  have kept : (Written.mk (decide (z < 0)) ⟨digitsOf z.natAbs, [], 0⟩ true).number?
      = some (.integer z) := by
    have fits : z.natAbs < wordLimit := Nat.lt_of_le_of_lt small (by decide)
    have half : z.natAbs ≤ wordLimit / 2 := Nat.le_trans small (by decide)
    unfold Written.number?
    dsimp only
    rw [ofDigitChars_digitsOf]
    by_cases negative : z < 0
    · rw [decide_eq_true negative, if_neg (by simp), if_pos ⟨rfl, rfl, by omega, half⟩]
      congr 2
      omega
    · rw [decide_eq_false negative, if_pos ⟨rfl, rfl, fits⟩]
      congr 2
      omega
  unfold Number.chars
  rw [List.append_assoc]
  exact readNumber_eq_ok.2 ⟨_, written, kept⟩

/-- A number that readers of JSON do not miss: it is read again from its own text. -/
def Number.Rereads (n : Number) : Prop := readNumber n.chars = .ok (n, [])

instance (n : Number) : Decidable n.Rereads :=
  decidable_of_iff ((readNumber n.chars).toOption = some (n, [])) (by
    unfold Number.Rereads
    cases readNumber n.chars <;> simp [Except.toOption])

/-- What follows a number has no influence on what it is read as. -/
theorem readNumber_real {x : Binary64} (finite : x.isFinite = true)
    (rereads : (Number.real x).Rereads) {rest : List Char} (ends : Ends rest) :
    readNumber ((Number.real x).chars ++ rest) = .ok (.real x, rest) := by
  obtain ⟨negative, steps, held, rfl⟩ := Binary64.exists_finite finite
  obtain ⟨n, power, spells, -, -⟩ := Binary64.realMagnitude_spelled held
  have alone := readWritten_spelled spells negative Text.stops_nil
  have followed := readWritten_spelled spells negative ends
  obtain ⟨written, read, kept⟩ := readNumber_eq_ok.1 rereads
  unfold Number.chars at read ⊢
  dsimp only at read ⊢
  rw [← List.append_nil (signOf negative ++ _), List.append_assoc, alone] at read
  cases read
  rw [List.append_assoc]
  exact readNumber_eq_ok.2 ⟨_, followed, kept⟩

end RequestParams.Json
