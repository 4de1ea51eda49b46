import RequestParams.Text.Utf8

/-!
# Text comes back from its bytes

A character is written in one to four bytes. Its first byte tells how many there are, and the
reader takes them together if each of the others is of the kind that may stand there. For each
width there is one lemma about the reader (`decodeFirst_two` and so on) and one about the bytes
that a code of this width is written in (`decodeFirst_code_two` and so on). So a character is read
from its bytes (`decode_utf8EncodeChar_append`), and a text from its own (`decode_encode`).
-/

set_option autoImplicit false

namespace RequestParams.Text

theorem seconds_of {lead second : UInt8} (low : 0x80 ≤ second.toNat) (high : second.toNat < 0xC0)
    (e0 : lead.toNat = 0xE0 → 0xA0 ≤ second.toNat) (ed : lead.toNat = 0xED → second.toNat < 0xA0)
    (f0 : lead.toNat = 0xF0 → 0x90 ≤ second.toNat) (f4 : lead.toNat = 0xF4 → second.toNat < 0x90) :
    seconds lead second = true := by
  unfold seconds continues
  simp only [← UInt8.toNat_inj, UInt8.reduceToNat]
  split
  · rename_i h
    simp [e0 h, high]
  split
  · rename_i h
    simp [ed h, low]
  split
  · rename_i h
    simp [f0 h, high]
  split
  · rename_i h
    simp [f4 h, low]
  simp [low, high]

theorem continues_of {b : UInt8} (low : 0x80 ≤ b.toNat) (high : b.toNat < 0xC0) :
    continues b = true := by
  simp [continues, low, high]


theorem decodeFirst_one {lead : UInt8} (one : width lead = 1) (rest : List UInt8) :
    decodeFirst lead rest = (Char.ofNat lead.toNat, rest) := by
  unfold decodeFirst
  rw [one]
  cases rest <;> rfl

theorem decodeFirst_two {lead b : UInt8} (two : width lead = 2) (second : seconds lead b = true)
    (rest : List UInt8) :
    decodeFirst lead (b :: rest) = (Char.ofNat (lead.toNat % 32 * 64 + payload b), rest) := by
  unfold decodeFirst
  rw [two]
  exact if_pos second

theorem decodeFirst_three {lead b c : UInt8} (three : width lead = 3)
    (second : seconds lead b = true) (third : continues c = true) (rest : List UInt8) :
    decodeFirst lead (b :: c :: rest)
      = (Char.ofNat ((lead.toNat % 16 * 64 + payload b) * 64 + payload c), rest) := by
  unfold decodeFirst
  rw [three]
  exact (if_pos second).trans (if_pos third)

theorem decodeFirst_four {lead b c d : UInt8} (four : width lead = 4)
    (second : seconds lead b = true) (third : continues c = true) (fourth : continues d = true)
    (rest : List UInt8) :
    decodeFirst lead (b :: c :: d :: rest)
      = (Char.ofNat (((lead.toNat % 8 * 64 + payload b) * 64 + payload c) * 64 + payload d),
          rest) := by
  unfold decodeFirst
  rw [four]
  exact (if_pos second).trans ((if_pos third).trans (if_pos fourth))

theorem toNat_byte {n : Nat} (h : n < 256) : (UInt8.ofNat n).toNat = n :=
  UInt8.toNat_ofNat_of_lt' h

theorem width_two {lead : UInt8} (low : 0xC2 ≤ lead.toNat) (high : lead.toNat < 0xE0) :
    width lead = 2 := by
  unfold width
  rw [if_neg (by omega), if_pos ⟨low, high⟩]

theorem width_three {lead : UInt8} (low : 0xE0 ≤ lead.toNat) (high : lead.toNat < 0xF0) :
    width lead = 3 := by
  unfold width
  rw [if_neg (by omega), if_neg (by omega), if_pos ⟨low, high⟩]

theorem width_four {lead : UInt8} (low : 0xF0 ≤ lead.toNat) (high : lead.toNat < 0xF5) :
    width lead = 4 := by
  unfold width
  rw [if_neg (by omega), if_neg (by omega), if_neg (by omega), if_pos ⟨low, high⟩]

section Code

variable {n : Nat} (rest : List UInt8)

/-- The last six bits of a code, in a byte that continues a character. -/
theorem continues_sixBits (n : Nat) : continues (UInt8.ofNat (n % 64 + 128)) = true := by
  have byte := toNat_byte (show n % 64 + 128 < 256 by omega)
  exact continues_of (by omega) (by omega)

theorem payload_sixBits (n : Nat) : payload (UInt8.ofNat (n % 64 + 128)) = n % 64 := by
  unfold payload
  rw [toNat_byte (by omega)]
  omega

theorem decodeFirst_code_two (low : 0x80 ≤ n) (high : n < 0x800) :
    decodeFirst (UInt8.ofNat (n / 64 % 32 + 192)) (UInt8.ofNat (n % 64 + 128) :: rest)
      = (Char.ofNat n, rest) := by
  have lead := toNat_byte (show n / 64 % 32 + 192 < 256 by omega)
  have b := toNat_byte (show n % 64 + 128 < 256 by omega)
  rw [decodeFirst_two (width_two (by omega) (by omega)) (seconds_of (by omega) (by omega)
    (by omega) (by omega) (by omega) (by omega)), payload_sixBits, lead]
  congr 2
  omega

theorem decodeFirst_code_three (low : 0x800 ≤ n) (high : n < 0x10000)
    (valid : n < 0xD800 ∨ 0xDFFF < n) :
    decodeFirst (UInt8.ofNat (n / 4096 % 16 + 224))
      (UInt8.ofNat (n / 64 % 64 + 128) :: UInt8.ofNat (n % 64 + 128) :: rest)
      = (Char.ofNat n, rest) := by
  have lead := toNat_byte (show n / 4096 % 16 + 224 < 256 by omega)
  have b := toNat_byte (show n / 64 % 64 + 128 < 256 by omega)
  rw [decodeFirst_three (width_three (by omega) (by omega)) (seconds_of (by omega) (by omega)
    (by omega) (by omega) (by omega) (by omega)) (continues_sixBits n), payload_sixBits,
    payload_sixBits, lead]
  congr 2
  omega

theorem decodeFirst_code_four (low : 0x10000 ≤ n) (high : n < 0x110000) :
    decodeFirst (UInt8.ofNat (n / 262144 % 8 + 240))
      (UInt8.ofNat (n / 4096 % 64 + 128) :: UInt8.ofNat (n / 64 % 64 + 128) ::
        UInt8.ofNat (n % 64 + 128) :: rest)
      = (Char.ofNat n, rest) := by
  have lead := toNat_byte (show n / 262144 % 8 + 240 < 256 by omega)
  have b := toNat_byte (show n / 4096 % 64 + 128 < 256 by omega)
  rw [decodeFirst_four (width_four (by omega) (by omega)) (seconds_of (by omega) (by omega)
    (by omega) (by omega) (by omega) (by omega)) (continues_sixBits _) (continues_sixBits n),
    payload_sixBits, payload_sixBits, payload_sixBits, lead]
  congr 2
  omega

end Code

/-- **A character is read from its bytes**, whatever comes after them. -/
theorem decode_utf8EncodeChar_append (c : Char) (rest : List UInt8) :
    decode (String.utf8EncodeChar c ++ rest) = c :: decode rest := by
  have valid : c.toNat < 0xD800 ∨ 0xDFFF < c.toNat ∧ c.toNat < 0x110000 := c.valid
  have code : c.val.toNat = c.toNat := rfl
  have back : Char.ofNat c.toNat = c := Char.ofNat_toNat c
  unfold String.utf8EncodeChar
  dsimp only
  rw [code]
  split
  · rename_i high
    have byte := toNat_byte (show c.toNat < 256 by omega)
    have one : width (UInt8.ofNat c.toNat) = 1 := by
      unfold width
      exact if_pos (by omega)
    rw [List.singleton_append, decode, decodeFirst_one one, byte, back]
  split
  · rename_i low high
    rw [List.cons_append, List.singleton_append, decode,
      decodeFirst_code_two rest (by omega) (by omega), back]
  split
  · rename_i low high
    rw [List.cons_append, List.cons_append, List.singleton_append, decode,
      decodeFirst_code_three rest (by omega) (by omega) (by omega), back]
  · rename_i low
    rw [List.cons_append, List.cons_append, List.cons_append, List.singleton_append, decode,
      decodeFirst_code_four rest (by omega) (by omega), back]

theorem encode_cons (c : Char) (cs : List Char) :
    encode (c :: cs) = String.utf8EncodeChar c ++ encode cs := List.flatMap_cons

theorem encode_append (cs ds : List Char) : encode (cs ++ ds) = encode cs ++ encode ds :=
  List.flatMap_append

/-- **A text is read from its bytes.** -/
theorem decode_encode (cs : List Char) : decode (encode cs) = cs := by
  induction cs with
  | nil => exact decode.eq_1
  | cons c cs ih => rw [encode_cons, decode_utf8EncodeChar_append, ih]

end RequestParams.Text
