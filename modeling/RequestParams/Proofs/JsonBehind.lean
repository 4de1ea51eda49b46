import RequestParams.Proofs.JsonScalars
import RequestParams.Json.Record

/-!
# What stands behind a value

Readers take what they need from the start of a text and leave the rest. So what they find does not
change when the text is longer, unless a number at its end goes on there (`Ends`). Each reader is
followed through its steps, which succeed on the longer text with the same result and leave the same
rest with more behind it (`Follows`, `behind`), up to the reader of values (`readAny_behind`).
-/

set_option autoImplicit false

namespace RequestParams

/-! ## Steps that follow others -/

section Steps

variable {ε α β γ δ : Type} {f : α → β} {g : γ → δ} {x x' : Except ε α} {y y' : Except ε β}

/-- Where one step succeeds the other does too, with what the function makes of the result. -/
def Follows (f : α → β) (x : Except ε α) (y : Except ε β) : Prop := ∀ a, x = .ok a → y = .ok (f a)

namespace Follows

theorem ok (a : α) : Follows f (.ok a : Except ε α) (.ok (f a)) := by
  rintro _ ⟨⟩
  rfl

theorem error (e : ε) : Follows f (.error e) y := by
  rintro _ ⟨⟩

theorem bind {next : α → Except ε γ} {next' : β → Except ε δ} (first : Follows f x y)
    (second : ∀ a, Follows g (next a) (next' (f a))) : Follows g (x >>= next) (y >>= next') := by
  intro c found
  obtain ⟨a, found, last⟩ := bind_eq_ok.1 found
  exact bind_eq_ok.2 ⟨f a, first a found, second a c last⟩

theorem ite {c : Prop} [Decidable c] (holds : c → Follows f x y) (fails : ¬ c → Follows f x' y') :
    Follows f (if c then x else x') (if c then y else y') := by
  split
  · exact holds ‹c›
  · exact fails ‹¬ c›

end Follows

end Steps

namespace Json

open Text (Stops)

variable {α : Type} {cs rest more : List Char}

/-- The same found, and more behind what is left. -/
def behind (more : List Char) (found : α × List Char) : α × List Char :=
  (found.1, found.2 ++ more)

theorem skipSpace_append {c : Char} (found : skipSpace cs = c :: rest) :
    skipSpace (cs ++ more) = c :: (rest ++ more) := by
  unfold skipSpace at found ⊢
  rw [List.dropWhile_append, found]
  rfl

theorem readWord_append (word cs more : List Char) :
    Follows (· ++ more) (readWord word cs) (readWord word (cs ++ more)) := by
  induction word generalizing cs with
  | nil => exact .ok cs
  | cons w word ih =>
    cases cs with
    | nil => exact .error _
    | cons c cs => exact .ite (fun _ => ih cs) fun _ => .error _

/-! ## Strings -/

theorem readHex_behind (cs more : List Char) :
    Follows (behind more) (readHex cs) (readHex (cs ++ more)) := by
  rintro ⟨unit, rest⟩ read
  unfold readHex at read
  split at read
  · cases read
  rename_i long
  split at read
  · rename_i a b c d tail
    split at read
    · rename_i first second third fourth
      cases read
      show readHex (a :: b :: c :: d :: (rest ++ more)) = _
      unfold readHex
      rw [if_neg (by exact long)]
      simp only [first, second, third, fourth]
      rfl
    · cases read
  · cases read

theorem readLowHalf_behind (high : Nat) (cs more : List Char) :
    Follows (behind more) (readLowHalf high cs) (readLowHalf high (cs ++ more)) := by
  fun_cases readLowHalf high cs with
  | case1 => exact .error _
  | case2 => exact .error _
  | case3 tail =>
    rw [List.cons_append, List.cons_append, readLowHalf]
    refine (readHex_behind tail more).bind fun found => ?_
    obtain ⟨low, left⟩ := found
    dsimp only [behind]
    generalize Char.ofNat _ = c
    exact .ite (fun _ => .ok (c, left)) fun _ => .error _
  | case4 => exact .error _

theorem readEscape_behind (cs more : List Char) :
    Follows (behind more) (readEscape cs) (readEscape (cs ++ more)) := by
  fun_cases readEscape cs with
  | case1 => exact .error _
  | case2 tail =>
    rw [List.cons_append, readEscape]
    exact (readHex_behind tail more).bind fun found => .ite (fun _ => .error _) fun _ =>
      .ite (fun _ => readLowHalf_behind found.1 found.2 more) fun _ => .ok _
  | case3 letter tail apart c known =>
    rw [List.cons_append, readEscape.eq_3 _ _ apart, known]
    exact .ok _
  | case4 => exact .error _

theorem readChars_behind {fuel room : Nat} (enough : fuel ≤ room) (cs more : List Char) :
    Follows (behind more) (readChars readEscape fuel cs)
      (readChars readEscape room (cs ++ more)) := by
  induction fuel generalizing room cs with
  | zero => exact .error _
  | succ fuel ih =>
    obtain ⟨room, rfl⟩ := Nat.exists_eq_add_one.2 (Nat.zero_lt_of_lt enough)
    have enough := Nat.le_of_succ_le_succ enough
    cases cs with
    | nil => exact .error _
    | cons c cs =>
      rw [List.cons_append, readChars, readChars]
      -- A closing quote, a backslash, a control character, or a character that stands for itself.
      refine .ite (fun _ => .ok _) fun _ => .ite (fun escape => ?_) fun _ =>
        .ite (fun _ => .error _) fun _ => ?_
      · exact (readEscape_behind cs more).bind fun found =>
          (ih enough found.2).bind fun _ => .ok _
      · exact (ih enough cs).bind fun _ => .ok _

theorem length_le_append (cs more : List Char) : cs.length + 1 ≤ (cs ++ more).length + 1 := by
  rw [List.length_append]
  omega

theorem readString_behind (cs more : List Char) :
    Follows (behind more) (readString cs) (readString (cs ++ more)) :=
  (readChars_behind (length_le_append cs more) cs more).bind fun _ => .ok _

/-! ## Numbers -/

theorem readDigits_behind (ends : Ends more) (cs : List Char) :
    Follows (behind more) (readDigits cs) (readDigits (cs ++ more)) := by
  have split : Numeral.splitDigits (cs ++ more) = behind more (Numeral.splitDigits cs) := by
    have stops : Stops Char.isDigit (cs.dropWhile Char.isDigit ++ more) :=
      (Text.stops_dropWhile cs).append ends.stops_digits
    have split := @Numeral.splitDigits_append (cs.takeWhile Char.isDigit) _
      (fun _ => Text.all_takeWhile) stops
    rw [← List.append_assoc, List.takeWhile_append_dropWhile] at split
    exact split
  cases cs with
  | nil => exact .error _
  | cons c cs =>
    rw [List.cons_append] at split ⊢
    unfold readDigits
    dsimp only
    rw [split]
    exact .ite (fun _ => .ok _) fun _ => .error _

/-- Whether a text that is not empty starts with this character does not depend on what is behind
it. -/
theorem append_eq_cons {c : Char} {tail : List Char} (some : cs ≠ [])
    (starts : cs ++ more = c :: tail) : ∃ left, cs = c :: left := by
  cases cs with
  | nil => exact absurd rfl some
  | cons d cs => exact ⟨cs, congrArg (· :: cs) (List.cons.inj starts).1⟩

theorem splitSign_append (some : cs ≠ []) (more : List Char) :
    Numeral.splitSign (cs ++ more) = behind more (Numeral.splitSign cs) := by
  fun_cases Numeral.splitSign cs with
  | case1 left => rfl
  | case2 left => rfl
  | case3 _ minus plus =>
    unfold Numeral.splitSign
    split
    · rename_i starts
      obtain ⟨left, begins⟩ := append_eq_cons some starts
      exact absurd begins (minus left)
    · rename_i starts
      obtain ⟨left, begins⟩ := append_eq_cons some starts
      exact absurd begins (plus left)
    · rfl

theorem splitMinus_append (some : cs ≠ []) (more : List Char) :
    splitMinus (cs ++ more) = behind more (splitMinus cs) := by
  fun_cases splitMinus cs with
  | case1 left => rfl
  | case2 _ minus =>
    unfold splitMinus
    split
    · rename_i starts
      obtain ⟨left, begins⟩ := append_eq_cons some starts
      exact absurd begins (minus left)
    · rfl

theorem readExponent_behind (ends : Ends more) (cs : List Char) :
    Follows (behind more) (readExponent cs) (readExponent (cs ++ more)) := by
  by_cases none : cs = []
  · subst none
    exact .error _
  · unfold readExponent
    rw [splitSign_append none]
    exact (readDigits_behind ends _).bind fun _ => .ok _

theorem readOptionalExponent_behind (ends : Ends more) (cs : List Char) :
    Follows (behind more) (readOptionalExponent cs) (readOptionalExponent (cs ++ more)) := by
  cases cs with
  | nil =>
    have nothing : readOptionalExponent more = .ok (none, more) :=
      readOptionalExponent_text none ends
    rw [List.nil_append, nothing]
    exact .ok _
  | cons c cs =>
    unfold readOptionalExponent
    exact .ite (fun _ => (readExponent_behind ends cs).bind fun _ => .ok _) fun _ => .ok _

/-- A zero stands alone: the character behind it is no digit. -/
theorem readWhole_behind (ends : Ends more) (cs : List Char) :
    Follows (behind more) (readWhole cs) (readWhole (cs ++ more)) := by
  fun_cases readWhole cs with
  | case1 c left digit => exact .error _
  | case2 c left other =>
    have same : readWhole ('0' :: c :: left ++ more) = .ok (['0'], c :: (left ++ more)) :=
      if_neg other
    rw [same]
    exact .ok _
  | case3 _ plain =>
    intro found read
    have digits := readDigits_behind ends cs found read
    unfold readWhole
    split
    · rename_i c left starts
      have some : cs ≠ [] := by
        rintro rfl
        cases read
      obtain ⟨tail, begins⟩ := append_eq_cons some starts
      subst begins
      cases tail with
      | cons d tail => exact absurd rfl (plain d tail)
      | nil =>
        cases read
        obtain rfl : more = c :: left := (List.cons.inj starts).2
        have other := ends.stops_digits c rfl
        rw [other]
        rfl
    · exact digits

theorem readFraction_behind (ends : Ends more) (cs : List Char) :
    Follows (behind more) (readFraction cs) (readFraction (cs ++ more)) := by
  fun_cases readFraction cs with
  | case1 left => exact (readDigits_behind ends left).bind fun _ => .ok _
  | case2 _ pointless =>
    have same : readFraction (cs ++ more) = .ok (none, cs ++ more) := by
      by_cases none : cs = []
      · subst none
        exact readFraction_none none ends
      unfold readFraction
      split
      · rename_i left starts
        obtain ⟨tail, begins⟩ := append_eq_cons none starts
        exact absurd begins (pointless tail)
      · rfl
    rw [same]
    exact .ok _

theorem readWritten_behind (ends : Ends more) (cs : List Char) :
    Follows (behind more) (readWritten cs) (readWritten (cs ++ more)) := by
  by_cases none : cs = []
  · subst none
    exact .error _
  · unfold readWritten
    rw [splitMinus_append none]
    exact (readWhole_behind ends _).bind fun _ => (readFraction_behind ends _).bind fun _ =>
      (readOptionalExponent_behind ends _).bind fun _ => .ok _

theorem readNumber_behind (ends : Ends more) (cs : List Char) :
    Follows (behind more) (readNumber cs) (readNumber (cs ++ more)) := by
  refine (readWritten_behind ends cs).bind fun found => ?_
  obtain ⟨written, left⟩ := found
  dsimp only [behind]
  cases written.number? with
  | none => exact .error _
  | some n => exact .ok _

/-! ## Brackets -/

section Elements

variable {σ ε : Type} {fault : Fault → ε} {close : Char}
  {element other : σ → List Char → Except ε (σ × List Char)}

/-- By induction on the turns that are taken. -/
theorem readElements_behind
    (each : ∀ state cs, Follows (behind more) (element state cs) (other state (cs ++ more)))
    {fuel room : Nat} (enough : fuel ≤ room) (first : Bool) (state : σ) (cs : List Char) :
    Follows (behind more) (readElements fault close element fuel first state cs)
      (readElements fault close other room first state (cs ++ more)) := by
  induction fuel generalizing room first state cs with
  | zero => exact .error _
  | succ fuel ih =>
    obtain ⟨room, rfl⟩ := Nat.exists_eq_add_one.2 (Nat.zero_lt_of_lt enough)
    have enough := Nat.le_of_succ_le_succ enough
    have turn : ∀ c tail, Follows (behind more)
        (element state (c :: tail) >>= fun found =>
          readElements fault close element fuel false found.1 found.2)
        (other state (c :: (tail ++ more)) >>= fun found =>
          readElements fault close other room false found.1 found.2) :=
      fun c tail => (each state (c :: tail)).bind fun found => ih enough false found.1 found.2
    rw [readElements, readElements]
    split
    · exact .error _
    rename_i c tail found
    rw [skipSpace_append found]
    refine .ite (fun _ => .ok _) fun _ => .ite (fun _ => turn c tail) fun _ =>
      .ite (fun _ => ?_) fun _ => .error _
    split
    · exact .error _
    rename_i d tail found
    rw [skipSpace_append found]
    exact .ite (fun _ => .error _) fun _ => turn d tail

end Elements

theorem readColon_append (cs more : List Char) :
    Follows (· ++ more) (readColon cs) (readColon (cs ++ more)) := by
  unfold readColon
  split
  · exact .error _
  · rename_i c tail found
    rw [skipSpace_append found]
    exact .ite (fun _ => .ok tail) fun _ => .error _

theorem readName_behind (cs more : List Char) :
    Follows (behind more) (readName cs) (readName (cs ++ more)) := by
  fun_cases readName cs with
  | case1 tail =>
    exact (readString_behind tail more).bind fun found =>
      (readColon_append found.2 more).bind fun _ => .ok _
  | case2 => exact .error _

/-! ## Values -/

/-- By induction on the fuel, which is given again at every bracket. -/
theorem readValue_behind (ends : Ends more) {fuel room : Nat} (enough : fuel ≤ room) (depth : Nat)
    (cs : List Char) :
    Follows (behind more) (readValue fuel depth cs) (readValue room depth (cs ++ more)) := by
  induction fuel generalizing room depth cs with
  | zero => exact .error _
  | succ fuel ih =>
    obtain ⟨room, rfl⟩ := Nat.exists_eq_add_one.2 (Nat.zero_lt_of_lt enough)
    have enough := Nat.le_of_succ_le_succ enough
    rw [readValue, readValue]
    split
    · exact .error _
    rename_i c tail found
    rw [skipSpace_append found]
    have word : ∀ (word : List Char) (value : Json), Follows (behind more)
        (readWord word tail >>= fun rest => .ok (value, rest))
        (readWord word (tail ++ more) >>= fun rest => .ok (value, rest)) :=
      fun word value => (readWord_append word tail more).bind fun rest => .ok (value, rest)
    -- The branches of the reader in turn: three words, a string, brackets of two kinds, a number.
    refine .ite (fun _ => word _ .null) fun _ => .ite (fun _ => word _ (.boolean true)) fun _ =>
      .ite (fun _ => word _ (.boolean false)) fun _ => .ite (fun quote => ?_) fun _ =>
      .ite (fun square => ?_) fun _ => .ite (fun curly => ?_) fun _ =>
      .ite (fun number => ?_) fun _ => .error _
    · exact (readString_behind tail more).bind fun _ => .ok _
    · refine .ite (fun _ => .error _) fun _ => ?_
      refine (readElements_behind ?_ (length_le_append tail more) true _ tail).bind fun _ => .ok _
      exact fun items cs => (ih enough _ cs).bind fun _ => .ok _
    · refine .ite (fun _ => .error _) fun _ => ?_
      refine (readElements_behind ?_ (length_le_append tail more) true _ tail).bind fun _ => .ok _
      exact fun members cs => (readName_behind cs more).bind fun found =>
        (ih enough _ found.2).bind fun _ => .ok _
    · exact (readNumber_behind ends (c :: tail)).bind fun _ => .ok _

/-- **A value is read from a text whatever stands behind it**, if that does not go on with a
number. -/
theorem readAny_behind (ends : Ends more) (depth : Nat) (cs : List Char) :
    Follows (behind more) (readAny depth cs) (readAny depth (cs ++ more)) := by
  have value := readValue_behind ends (length_le_append cs more) depth cs
  intro found read
  unfold readAny at read ⊢
  cases alone : readValue (cs.length + 1) depth cs with
  | error fault =>
    rw [alone] at read
    cases read
  | ok found =>
    rw [alone] at read
    cases read
    rw [value _ alone]
    rfl

end Json
end RequestParams
