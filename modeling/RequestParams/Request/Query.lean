import RequestParams.Text.Utf8

/-!
# Query text

The form `application/x-www-form-urlencoded`: pairs of texts, `name=value`, with `&` between them.
In names and values a space is written `+`, and every byte of UTF-8 that is neither an ASCII letter
or digit nor one of `*-._` is written as `%` and two hexadecimal digits.

`Query.decode` is more generous than `Query.encode`: a pair may lack its `=`, empty pieces are
passed over, a `%` that no two digits follow stands for itself, and bytes that are no UTF-8 become
replacement characters.
-/

set_option autoImplicit false

namespace RequestParams.Query

/-! ## Writing -/

/-- A byte that stands for itself. -/
def isPlain (b : UInt8) : Bool :=
  let c := Char.ofNat b.toNat
  b.toNat < 0x80 && (c.isAlphanum || c = '*' || c = '-' || c = '.' || c = '_')

/-- The upper case hexadecimal digit of a number below 16. -/
def hexDigit (n : Nat) : Char := (Nat.digitChar n).toUpper

/-- One byte as it is written. -/
def encodeByte (b : UInt8) : List Char :=
  if b = 0x20 then ['+']
  else if isPlain b then [Char.ofNat b.toNat]
  else ['%', hexDigit (b.toNat / 16), hexDigit (b.toNat % 16)]

/-- A name or a value as it is written. -/
def encodeText (s : String) : List Char := (Text.encode s.toList).flatMap encodeByte

/-- Pairs as query text. -/
def encode (pairs : List (String × String)) : String :=
  String.ofList (['&'].intercalate (pairs.map fun p => encodeText p.1 ++ '=' :: encodeText p.2))

/-! ## Reading -/

/-- The value of a hexadecimal digit in a byte. -/
def hexValue? (b : UInt8) : Option UInt8 :=
  if 0x30 ≤ b ∧ b ≤ 0x39 then some (b - 0x30)
  else if 0x41 ≤ b ∧ b ≤ 0x46 then some (b - 0x37)
  else if 0x61 ≤ b ∧ b ≤ 0x66 then some (b - 0x57)
  else none

/-- Replaces every `%` and two hexadecimal digits by the byte they name. -/
def unescape : List UInt8 → List UInt8
  | [] => []
  | [b] => [b]
  | [b, c] => [b, c]
  | b :: h :: l :: rest =>
    match hexValue? h, hexValue? l with
    | some high, some low =>
      if b = 0x25 then (high * 16 + low) :: unescape rest else b :: unescape (h :: l :: rest)
    | _, _ => b :: unescape (h :: l :: rest)

/-- A name or a value from its bytes. -/
def decodeText (bytes : List UInt8) : String :=
  String.ofList (Text.decode (unescape (bytes.map fun b => if b = 0x2B then 0x20 else b)))

/-- A piece between two `&`: the name ends at the first `=`. -/
def decodePair (piece : List UInt8) : String × String :=
  (decodeText (piece.takeWhile (· != 0x3D)), decodeText ((piece.dropWhile (· != 0x3D)).drop 1))

/-- The pairs of a query text, question marks in front of it apart. -/
def decode (query : String) : List (String × String) :=
  let bytes := Text.encode (query.toList.dropWhile (· = '?'))
  ((bytes.splitOn 0x26).filter (!·.isEmpty)).map decodePair

end RequestParams.Query
