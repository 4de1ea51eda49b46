import RequestParams.Proofs.Utf8
import RequestParams.Request.Query
import RequestParams.Text.Run

/-!
# Pairs come back from query text

What a name or a value is written with is ASCII, and none of the characters that part names, values
and pairs is among it (`Inside`). So the pieces that the reader cuts at `&`, and the halves that it
cuts at the first `=`, are those that were put together; and in each of them every escape gives back
the byte that it stands for (`decodeText_encodeText`). No question mark comes up either, so that
those in front of the text are all that is passed over (`decode_encode`).
-/

set_option autoImplicit false

namespace RequestParams.Query

open Text (Stops)

/-! ## What names and values are written with -/

/-- A character that a name or a value may be written with. The characters that part names, values
and pairs are none. -/
def Inside (c : Char) : Prop := c.toNat < 0x80 ∧ c ≠ '&' ∧ c ≠ '=' ∧ c ≠ '?'

instance (c : Char) : Decidable (Inside c) := inferInstanceAs (Decidable (_ ∧ _))

theorem inside_hexDigit : ∀ n, n < 16 → Inside (hexDigit n) := by
  decide

/-- A byte that stands for itself is the code of a character. -/
theorem inside_of_isPlain {b : UInt8} (plain : isPlain b = true) :
    Inside (Char.ofNat b.toNat) ∧ (Char.ofNat b.toNat).toNat = b.toNat := by
  simp only [isPlain, Bool.and_eq_true, decide_eq_true_eq] at plain
  obtain ⟨ascii, marks⟩ := plain
  have code : (Char.ofNat b.toNat).toNat = b.toNat := by
    have valid : b.toNat.isValidChar := .inl (by omega)
    rw [Char.ofNat, dif_pos valid]
    rfl
  generalize Char.ofNat b.toNat = c at *
  refine ⟨⟨code ▸ ascii, ?_, ?_, ?_⟩, code⟩ <;> rintro rfl <;> revert marks <;> decide

theorem digits_lt (b : UInt8) : b.toNat / 16 < 16 ∧ b.toNat % 16 < 16 := by
  have small := b.toNat_lt
  omega

theorem inside_of_mem_encodeByte {b : UInt8} {c : Char} (member : c ∈ encodeByte b) : Inside c := by
  obtain ⟨high, low⟩ := digits_lt b
  unfold encodeByte at member
  split at member
  · rw [List.mem_singleton.1 member]
    decide
  split at member
  · rename_i plain
    rw [List.mem_singleton.1 member]
    exact (inside_of_isPlain plain).1
  · simp only [List.mem_cons, List.not_mem_nil, or_false] at member
    rcases member with rfl | rfl | rfl
    · decide
    · exact inside_hexDigit _ high
    · exact inside_hexDigit _ low

theorem inside_of_mem_encodeText {s : String} {c : Char} (member : c ∈ encodeText s) :
    Inside c := by
  obtain ⟨b, -, member⟩ := List.mem_flatMap.1 member
  exact inside_of_mem_encodeByte member

/-! ## Names and values -/

theorem encode_ascii {c : Char} (ascii : c.toNat < 0x80) :
    String.utf8EncodeChar c = [UInt8.ofNat c.toNat] := by
  unfold String.utf8EncodeChar
  exact if_pos (Nat.le_of_lt_succ ascii)

/-- A space is written as a plus. -/
def unplus (b : UInt8) : UInt8 := if b = 0x2B then 0x20 else b

/-- Only a percent sign begins an escape. -/
theorem unescape_cons_of_ne {b : UInt8} (other : b ≠ 0x25) (rest : List UInt8) :
    unescape (b :: rest) = b :: unescape rest := by
  rcases rest with _ | ⟨h, _ | ⟨l, rest⟩⟩
  · rfl
  · rfl
  · rw [unescape]
    split
    · exact if_neg other
    · rfl

theorem hexValue?_hexDigit : ∀ n, n < 16 →
    hexValue? (UInt8.ofNat (hexDigit n).toNat) = some (UInt8.ofNat n) := by
  decide

theorem unplus_hexDigit : ∀ n, n < 16 →
    unplus (UInt8.ofNat (hexDigit n).toNat) = UInt8.ofNat (hexDigit n).toNat := by
  decide

theorem unescape_percent {h l high low : UInt8} (first : hexValue? h = some high)
    (second : hexValue? l = some low) (rest : List UInt8) :
    unescape (0x25 :: h :: l :: rest) = (high * 16 + low) :: unescape rest := by
  rw [unescape, first, second]
  rfl

theorem halves (b : UInt8) :
    UInt8.ofNat (b.toNat / 16) * 16 + UInt8.ofNat (b.toNat % 16) = b := by
  have small := b.toNat_lt
  have sixteen : (16 : UInt8).toNat = 16 := rfl
  rw [← UInt8.toNat_inj, UInt8.toNat_add, UInt8.toNat_mul, Text.toNat_byte (by omega),
    Text.toNat_byte (by omega), sixteen]
  omega

theorem encode_plain {b : UInt8} (plain : isPlain b = true) :
    (Text.encode [Char.ofNat b.toNat]).map unplus = [b] := by
  obtain ⟨inside, code⟩ := inside_of_isPlain plain
  have kept : unplus b = b := by
    refine if_neg ?_
    rintro rfl
    revert plain
    decide
  rw [Text.encode_cons, encode_ascii inside.1, code, UInt8.ofNat_toNat]
  show [unplus b] = [b]
  rw [kept]

theorem encode_escape {high low : Nat} (first : high < 16) (second : low < 16) :
    (Text.encode ['%', hexDigit high, hexDigit low]).map unplus
      = [0x25, UInt8.ofNat (hexDigit high).toNat, UInt8.ofNat (hexDigit low).toNat] := by
  rw [Text.encode_cons, Text.encode_cons, Text.encode_cons, encode_ascii (by decide),
    encode_ascii (inside_hexDigit _ first).1, encode_ascii (inside_hexDigit _ second).1]
  show [_, unplus _, unplus _] = _
  rw [unplus_hexDigit _ first, unplus_hexDigit _ second]
  rfl

theorem unescape_encodeByte (b : UInt8) (rest : List UInt8) :
    unescape ((Text.encode (encodeByte b)).map unplus ++ rest) = b :: unescape rest := by
  unfold encodeByte
  split
  · rename_i blank
    rw [blank]
    exact unescape_cons_of_ne (by decide) rest
  split
  · rename_i plain
    have other : b ≠ 0x25 := by
      rintro rfl
      revert plain
      decide
    rw [encode_plain plain]
    exact unescape_cons_of_ne other rest
  · obtain ⟨high, low⟩ := digits_lt b
    rw [encode_escape high low]
    refine (unescape_percent (hexValue?_hexDigit _ high) (hexValue?_hexDigit _ low) rest).trans ?_
    rw [halves]

theorem unescape_encoded (bytes rest : List UInt8) :
    unescape ((Text.encode (bytes.flatMap encodeByte)).map unplus ++ rest)
      = bytes ++ unescape rest := by
  induction bytes with
  | nil => rfl
  | cons b bytes ih =>
    rw [List.flatMap_cons, Text.encode_append, List.map_append, List.append_assoc,
      unescape_encodeByte, ih, List.cons_append]

/-- **A name or a value is read from its text.** -/
theorem decodeText_encodeText (s : String) : decodeText (Text.encode (encodeText s)) = s := by
  have bytes := unescape_encoded (Text.encode s.toList) []
  rw [List.append_nil, show unescape [] = [] from rfl, List.append_nil] at bytes
  show String.ofList (Text.decode (unescape ((Text.encode (encodeText s)).map unplus))) = s
  unfold encodeText
  rw [bytes, Text.decode_encode, String.ofList_toList]

/-! ## Pairs -/

/-- A pair as it is written. -/
def encodePair (pair : String × String) : List Char :=
  encodeText pair.1 ++ '=' :: encodeText pair.2

theorem encode_equals (front back : List Char) :
    Text.encode (front ++ '=' :: back) = Text.encode front ++ 0x3D :: Text.encode back := by
  rw [Text.encode_append, Text.encode_cons]
  rfl

/-- A byte that is written for an ASCII character stands for no other one. -/
theorem not_mem_encode {cs : List Char} (ascii : ∀ c ∈ cs, c.toNat < 0x80) {mark : Char}
    (low : mark.toNat < 0x80) (apart : mark ∉ cs) : UInt8.ofNat mark.toNat ∉ Text.encode cs := by
  intro member
  obtain ⟨c, there, member⟩ := List.mem_flatMap.1 member
  rw [encode_ascii (ascii c there), List.mem_singleton, ← UInt8.toNat_inj,
    Text.toNat_byte (by omega), Text.toNat_byte (Nat.lt_trans (ascii c there) (by decide))]
    at member
  have same : mark = c := by
    rw [← Char.ofNat_toNat mark, member, Char.ofNat_toNat]
  exact apart (same ▸ there)

section Mark

variable {mark : UInt8} {front : List UInt8} (back : List UInt8)

theorem takeWhile_append_mark (absent : mark ∉ front) :
    (front ++ mark :: back).takeWhile (· != mark) = front := by
  have goesOn : ∀ b ∈ front, (b != mark) = true :=
    fun b member => bne_iff_ne.2 fun same => absent (same ▸ member)
  rw [List.takeWhile_append_of_pos goesOn, List.takeWhile_cons, bne_self_eq_false]
  exact List.append_nil front

theorem dropWhile_append_mark (absent : mark ∉ front) :
    (front ++ mark :: back).dropWhile (· != mark) = mark :: back := by
  have goesOn : ∀ b ∈ front, (b != mark) = true :=
    fun b member => bne_iff_ne.2 fun same => absent (same ▸ member)
  rw [List.dropWhile_append_of_pos goesOn, List.dropWhile_cons, bne_self_eq_false]
  rfl

end Mark

/-- **A pair is read from its text.** -/
theorem decodePair_encodePair (pair : String × String) :
    decodePair (Text.encode (encodePair pair)) = pair := by
  have name : 0x3D ∉ Text.encode (encodeText pair.1) :=
    not_mem_encode (fun c member => (inside_of_mem_encodeText member).1) (by decide)
      fun member => (inside_of_mem_encodeText member).2.2.1 rfl
  unfold decodePair encodePair
  rw [encode_equals, takeWhile_append_mark _ name, dropWhile_append_mark _ name, List.drop_one,
    List.tail_cons, decodeText_encodeText, decodeText_encodeText]

/-- Between its name and its value, a pair has an equals sign. -/
theorem mem_encodePair {pair : String × String} {c : Char} (member : c ∈ encodePair pair) :
    c = '=' ∨ Inside c := by
  rcases List.mem_append.1 member with member | member
  · exact .inr (inside_of_mem_encodeText member)
  · rcases List.mem_cons.1 member with same | member
    · exact .inl same
    · exact .inr (inside_of_mem_encodeText member)

theorem not_mem_encodePair {mark : Char} (other : mark ≠ '=') (outside : ¬ Inside mark)
    (pair : String × String) : mark ∉ encodePair pair :=
  fun member => (mem_encodePair member).elim other outside

theorem ampersand_not_mem_encodePair (pair : String × String) :
    0x26 ∉ Text.encode (encodePair pair) := by
  have ascii : ∀ c ∈ encodePair pair, c.toNat < 0x80 := by
    intro c member
    rcases mem_encodePair member with rfl | inside
    · decide
    · exact inside.1
  have apart : '&' ∉ encodePair pair := not_mem_encodePair (by decide) (by decide) pair
  exact not_mem_encode ascii (by decide) apart

theorem encode_intercalate (pieces : List (List Char)) :
    Text.encode (['&'].intercalate pieces) = [0x26].intercalate (pieces.map Text.encode) := by
  cases pieces with
  | nil => rfl
  | cons piece pieces =>
    induction pieces generalizing piece with
    | nil => rw [List.intercalate_singleton, List.map_singleton, List.intercalate_singleton]
    | cons next pieces ih =>
      rw [List.intercalate_cons_cons, Text.encode_append, Text.encode_append, ih, List.map_cons,
        List.map_cons, List.map_cons, List.intercalate_cons_cons]
      rfl

theorem mem_intercalate {α : Type} {separator : List α} {pieces : List (List α)} {a : α}
    (member : a ∈ separator.intercalate pieces) :
    a ∈ separator ∨ ∃ piece ∈ pieces, a ∈ piece := by
  induction pieces with
  | nil => cases member
  | cons piece pieces ih =>
    cases pieces with
    | nil =>
      rw [List.intercalate_singleton] at member
      exact .inr ⟨piece, List.mem_cons_self, member⟩
    | cons next pieces =>
      rw [List.intercalate_cons_cons, List.mem_append, List.mem_append] at member
      rcases member with (member | member) | member
      · exact .inr ⟨piece, List.mem_cons_self, member⟩
      · exact .inl member
      · rcases ih member with member | ⟨other, there, member⟩
        · exact .inl member
        · exact .inr ⟨other, List.mem_cons_of_mem piece there, member⟩

theorem toList_encode (pairs : List (String × String)) :
    (encode pairs).toList = ['&'].intercalate (pairs.map encodePair) := String.toList_ofList

/-- No question mark comes up in what is written. -/
theorem question_not_mem_encode (pairs : List (String × String)) :
    '?' ∉ (encode pairs).toList := by
  rw [toList_encode]
  intro member
  rcases mem_intercalate member with member | ⟨piece, there, member⟩
  · exact absurd member (by decide)
  · obtain ⟨pair, -, rfl⟩ := List.mem_map.1 there
    exact not_mem_encodePair (by decide) (by decide) pair member

theorem splitOn_encode {pairs : List (String × String)} (some : pairs ≠ []) :
    (Text.encode (encode pairs).toList).splitOn 0x26
      = pairs.map fun pair => Text.encode (encodePair pair) := by
  have apart : ∀ piece ∈ pairs.map fun pair => Text.encode (encodePair pair), 0x26 ∉ piece :=
    List.forall_mem_map.2 fun pair _ => ampersand_not_mem_encodePair pair
  rw [toList_encode, encode_intercalate, List.map_map]
  exact List.splitOn_intercalate _ apart (mt List.map_eq_nil_iff.1 some)

/-- **Pairs are read from their text**, with question marks in front of it or without. -/
theorem decode_encode (marks : Nat) (pairs : List (String × String)) :
    decode (String.ofList (List.replicate marks '?') ++ encode pairs) = pairs := by
  have stops : Stops (fun c => decide (c = '?')) (encode pairs).toList :=
    Text.stops_of_all fun c member =>
      decide_eq_false fun same => question_not_mem_encode pairs (same ▸ member)
  have questions : ∀ c ∈ List.replicate marks '?', decide (c = '?') = true :=
    fun c member => decide_eq_true (List.eq_of_mem_replicate member)
  unfold decode
  rw [String.toList_append, String.toList_ofList, Text.dropWhile_append_stops questions stops]
  by_cases none : pairs = []
  · subst none
    rfl
  · have pieces : ∀ piece ∈ pairs.map fun pair => Text.encode (encodePair pair),
        (!piece.isEmpty) = true := by
      refine List.forall_mem_map.2 fun pair _ => ?_
      unfold encodePair
      rw [encode_equals]
      cases Text.encode (encodeText pair.1) <;> rfl
    dsimp only
    rw [splitOn_encode none, List.filter_eq_self.2 pieces, List.map_map]
    exact (List.map_congr_left fun pair _ => decodePair_encodePair pair).trans (List.map_id pairs)

end RequestParams.Query
