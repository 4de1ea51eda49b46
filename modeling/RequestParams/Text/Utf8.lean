/-!
# UTF-8

* `Text.encode`: the bytes of a text.
* `Text.decode`: the text of any bytes. Where they are no UTF-8, one replacement character stands
  for each longest run of bytes that begins some character and does not complete it.
-/

set_option autoImplicit false

namespace RequestParams.Text

/-- The bytes of a text. -/
def encode (cs : List Char) : List UInt8 := cs.flatMap String.utf8EncodeChar

/-- What is shown in place of bytes that are no text. -/
def replacement : Char := '\ufffd'

/-- A byte that only continues a character. -/
def continues (b : UInt8) : Bool := 0x80 ≤ b.toNat && b.toNat < 0xC0

/-- The payload of a byte that continues a character. -/
def payload (b : UInt8) : Nat := b.toNat % 64

/-- A byte that may stand second after `lead`. The narrower ranges keep out longer forms of shorter
characters, halves of surrogate pairs, and numbers beyond the last character. -/
def seconds (lead second : UInt8) : Bool :=
  if lead = 0xE0 then 0xA0 ≤ second.toNat && second.toNat < 0xC0
  else if lead = 0xED then 0x80 ≤ second.toNat && second.toNat < 0xA0
  else if lead = 0xF0 then 0x90 ≤ second.toNat && second.toNat < 0xC0
  else if lead = 0xF4 then 0x80 ≤ second.toNat && second.toNat < 0x90
  else continues second

/-- How many bytes a character has that begins with this byte; none for a byte that begins no
character. -/
def width (lead : UInt8) : Nat :=
  if lead.toNat < 0x80 then 1
  else if 0xC2 ≤ lead.toNat ∧ lead.toNat < 0xE0 then 2
  else if 0xE0 ≤ lead.toNat ∧ lead.toNat < 0xF0 then 3
  else if 0xF0 ≤ lead.toNat ∧ lead.toNat < 0xF5 then 4
  else 0

/-- The first character of a non-empty run of bytes, and the bytes after it. -/
def decodeFirst (lead : UInt8) (rest : List UInt8) : Char × List UInt8 :=
  match width lead, rest with
  | 1, _ => (Char.ofNat lead.toNat, rest)
  | 2, b :: after =>
    if seconds lead b then (Char.ofNat (lead.toNat % 32 * 64 + payload b), after)
    else (replacement, rest)
  | 3, b :: after =>
    if seconds lead b then
      match after with
      | c :: after' =>
        if continues c then
          (Char.ofNat ((lead.toNat % 16 * 64 + payload b) * 64 + payload c), after')
        else (replacement, after)
      | [] => (replacement, [])
    else (replacement, rest)
  | 4, b :: after =>
    if seconds lead b then
      match after with
      | c :: after' =>
        if continues c then
          match after' with
          | d :: after'' =>
            if continues d then
              (Char.ofNat (((lead.toNat % 8 * 64 + payload b) * 64 + payload c) * 64 + payload d),
                after'')
            else (replacement, after')
          | [] => (replacement, [])
        else (replacement, after)
      | [] => (replacement, [])
    else (replacement, rest)
  | _, _ => (replacement, rest)

theorem length_decodeFirst_le (lead : UInt8) (rest : List UInt8) :
    (decodeFirst lead rest).2.length ≤ rest.length := by
  unfold decodeFirst
  repeat' split
  all_goals simp only [List.length_cons, List.length_nil]
  all_goals omega

/-- The text of any bytes. -/
def decode : List UInt8 → List Char
  | [] => []
  | lead :: rest => (decodeFirst lead rest).1 :: decode (decodeFirst lead rest).2
termination_by bytes => bytes.length
decreasing_by
  have := length_decodeFirst_le lead rest
  simp only [List.length_cons]
  omega

end RequestParams.Text
