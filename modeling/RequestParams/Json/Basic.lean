import RequestParams.Binary64.Numeral
import RequestParams.ByName

/-!
# JSON values and their text

Declarations may be given in JSON, and replies and documentation are written in it.

* `Json`: values. The members of an object stand in the order in which they are written;
  `Json.objectByName` is the object of a file of values, in name order.
* `Json.Number`: an integer that was written as one, or a binary64 number.
* `Json.chars`: compact text, without blanks. Characters beyond ASCII stand for themselves.
-/

set_option autoImplicit false

namespace RequestParams

/-- A JSON number. Integers keep their digits; everything else is held as binary64. -/
inductive Json.Number where
  | integer (z : Int)
  | real (x : Binary64)
deriving DecidableEq, Inhabited

inductive Json where
  | null
  | boolean (b : Bool)
  | number (n : Json.Number)
  | string (s : String)
  | array (items : List Json)
  | object (members : List (String × Json))
deriving Inhabited

namespace Json

/-! ## Numbers -/

namespace Number

def toBinary64 : Number → Binary64
  | integer z => Binary64.ofInt z
  | real x => x

/-- The magnitude of a binary64 number in JSON. From 10⁻⁵ up to below 10¹⁶ it is written out with a
point; beyond, with one digit before the point and a signed exponent. There is always a point or an
exponent, so that it does not look like an integer. The digits are the fewest that read back; of two
equally near choices the even one is taken. -/
def realMagnitude (steps : Nat) : List Char :=
  if steps = 0 then "0.0".toList
  else
    let d := Decimal.shortest .toEven false steps
    let digits := digitsOf d.digits
    let point : Int := digits.length + d.exponent
    if -5 < point ∧ point ≤ 16 then
      let numeral := d.positional
      if numeral.fraction = [] then numeral.whole ++ ".0".toList else numeral.plain
    else
      let power := point - 1
      let sign := if power < 0 then '-' else '+'
      Numeral.plain ⟨digits.take 1, digits.drop 1, 0⟩ ++ 'e' :: sign :: digitsOf power.natAbs

/-- The text of a JSON number. Only finite numbers have one; the others are written `null`. -/
def chars : Number → List Char
  | integer z => signOf (decide (z < 0)) ++ digitsOf z.natAbs
  | real (.finite negative steps _) => signOf negative ++ realMagnitude steps
  | real _ => "null".toList

end Number

/-- A binary64 number as JSON: an integer where binary64 holds every integer, `null` where JSON has
no such number, and otherwise the number itself. -/
def ofBinary64 (x : Binary64) : Json :=
  match x.safeInteger? with
  | some z => number (.integer z)
  | none => if x.isFinite then number (.real x) else null

/-- The object of a file, its members in name order. -/
def objectByName {α : Type} (value : α → Json) (d : ByName α) : Json :=
  object (d.entries.map fun e => (e.1, value e.2))

/-! ## Strings -/

/-- The letter that stands for a character behind a backslash. -/
def shortEscape? (c : Char) : Option Char :=
  if c = '"' then some '"'
  else if c = '\\' then some '\\'
  else if c = '\x08' then some 'b'
  else if c = '\x0c' then some 'f'
  else if c = '\n' then some 'n'
  else if c = '\r' then some 'r'
  else if c = '\t' then some 't'
  else none

def hexDigit (n : Nat) : Char := Nat.digitChar n

/-- One character inside quotes. Quotes, backslashes and control characters are escaped. -/
def escapeChar (c : Char) : List Char :=
  match shortEscape? c with
  | some letter => ['\\', letter]
  | none =>
    if c.toNat < 0x20 then
      ['\\', 'u', '0', '0', hexDigit (c.toNat / 16), hexDigit (c.toNat % 16)]
    else [c]

def quote (s : String) : List Char := '"' :: (s.toList.flatMap escapeChar ++ ['"'])

/-! ## Text -/

mutual

def chars : Json → List Char
  | null => "null".toList
  | boolean b => (if b then "true" else "false").toList
  | number n => n.chars
  | string s => quote s
  | array items => '[' :: itemsChars items
  | object members => '\x7b' :: membersChars members

/-- The items of an array and its closing bracket. -/
def itemsChars : List Json → List Char
  | [] => [']']
  | [item] => item.chars ++ [']']
  | item :: next :: rest => item.chars ++ ',' :: itemsChars (next :: rest)

/-- The members of an object and its closing brace. -/
def membersChars : List (String × Json) → List Char
  | [] => ['\x7d']
  | [(name, value)] => quote name ++ ':' :: (value.chars ++ ['\x7d'])
  | (name, value) :: next :: rest =>
    quote name ++ ':' :: (value.chars ++ ',' :: membersChars (next :: rest))

end

def text (j : Json) : String := String.ofList j.chars

end Json
end RequestParams
