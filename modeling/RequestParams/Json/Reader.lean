import RequestParams.Binary64.Scaled
import RequestParams.Json.Basic

/-!
# Reading JSON text

`Json.read` reads one value that takes up a whole text. The pieces are shared with the reading of
records (`Json/Record`), which looks at one value at a time and stops at the first thing wrong, in
text order.

Text goes wrong in two ways: it ends too early (`truncated`), or it has something that cannot stand
where it stands (`malformed`). The second includes numbers beyond binary64, halves of surrogate
pairs, and brackets nested more than 127 deep.

A value that nobody asks for is skipped, not read (`Json.skip`). Skipping checks the form of the
text only: depth, the size of numbers and the halves of surrogate pairs do not matter there.

Every function takes the text that is left and answers with what it found and the text left after
it. The loops count down from the length of the text, which they cannot outlive, since every turn
takes at least one character.
-/

set_option autoImplicit false

namespace RequestParams.Json

inductive Fault where
  | truncated
  | malformed
deriving DecidableEq, Repr

/-- How deep brackets may nest. -/
def maxDepth : Nat := 127

/-- The four characters that may stand between the parts of JSON text. -/
def isSpace (c : Char) : Bool := c = ' ' || c = '\n' || c = '\t' || c = '\r'

/-- The text from its first character on that is no space. -/
def skipSpace (cs : List Char) : List Char := cs.dropWhile isSpace

/-- The rest of a word of which the first letter has been read. -/
def readWord : List Char → List Char → Except Fault (List Char)
  | [], cs => .ok cs
  | _ :: _, [] => .error .truncated
  | w :: ws, c :: cs => if c = w then readWord ws cs else .error .malformed

/-! ## Strings -/

def hexValue? (c : Char) : Option Nat :=
  if c.isDigit then some (c.toNat - '0'.toNat)
  else if 'a' ≤ c ∧ c ≤ 'f' then some (c.toNat - 'a'.toNat + 10)
  else if 'A' ≤ c ∧ c ≤ 'F' then some (c.toNat - 'A'.toNat + 10)
  else none

/-- Four hexadecimal digits. With fewer than four bytes of UTF-8 left the text has ended too early,
whatever those bytes are. -/
def readHex (cs : List Char) : Except Fault (Nat × List Char) :=
  if (String.ofList (cs.take 4)).utf8ByteSize < 4 then .error .truncated
  else match cs with
    | a :: b :: c :: d :: rest =>
      match hexValue? a, hexValue? b, hexValue? c, hexValue? d with
      | some a, some b, some c, some d => .ok (((a * 16 + b) * 16 + c) * 16 + d, rest)
      | _, _, _, _ => .error .malformed
    | _ => .error .malformed

/-- The character that a letter behind a backslash stands for. -/
def unescape? (letter : Char) : Option Char :=
  if letter = '"' then some '"'
  else if letter = '\\' then some '\\'
  else if letter = '/' then some '/'
  else if letter = 'b' then some '\x08'
  else if letter = 'f' then some '\x0c'
  else if letter = 'n' then some '\n'
  else if letter = 'r' then some '\r'
  else if letter = 't' then some '\t'
  else none

/-- The second half of a surrogate pair, escaped like the first. -/
def readLowHalf (high : Nat) : List Char → Except Fault (Char × List Char)
  | [] => .error .truncated
  | ['\\'] => .error .truncated
  | '\\' :: 'u' :: rest => do
    let (low, rest) ← readHex rest
    if 0xDC00 ≤ low ∧ low ≤ 0xDFFF then
      .ok (Char.ofNat (0x10000 + (high - 0xD800) * 0x400 + (low - 0xDC00)), rest)
    else .error .malformed
  | _ => .error .malformed

/-- The character of an escape, after its backslash. -/
def readEscape : List Char → Except Fault (Char × List Char)
  | [] => .error .truncated
  | 'u' :: rest => do
    let (unit, rest) ← readHex rest
    if 0xDC00 ≤ unit ∧ unit ≤ 0xDFFF then .error .malformed
    else if 0xD800 ≤ unit ∧ unit ≤ 0xDBFF then readLowHalf unit rest
    else .ok (Char.ofNat unit, rest)
  | letter :: rest =>
    match unescape? letter with
    | some c => .ok (c, rest)
    | none => .error .malformed

/-- The form of an escape, after its backslash; what it stands for is not looked at. -/
def skipEscape : List Char → Except Fault (Char × List Char)
  | [] => .error .truncated
  | 'u' :: rest => do
    let (_, rest) ← readHex rest
    .ok ('\ufffd', rest)
  | letter :: rest => if (unescape? letter).isSome then .ok (letter, rest) else .error .malformed

/-- The characters up to the closing quote. -/
def readChars (escape : List Char → Except Fault (Char × List Char)) :
    Nat → List Char → Except Fault (List Char × List Char)
  | 0, _ => .error .truncated
  | _ + 1, [] => .error .truncated
  | fuel + 1, c :: rest =>
    if c = '"' then .ok ([], rest)
    else if c = '\\' then do
      let (d, rest) ← escape rest
      let (ds, rest) ← readChars escape fuel rest
      .ok (d :: ds, rest)
    else if c.toNat < 0x20 then .error .malformed
    else do
      let (ds, rest) ← readChars escape fuel rest
      .ok (c :: ds, rest)

def readString (cs : List Char) : Except Fault (String × List Char) := do
  let (ds, rest) ← readChars readEscape (cs.length + 1) cs
  .ok (String.ofList ds, rest)

/-- The rest of a string that nobody asks for. -/
def skipString (cs : List Char) : Except Fault (List Char) := do
  let (_, rest) ← readChars skipEscape (cs.length + 1) cs
  .ok rest

/-! ## Numbers -/

structure Written where
  negative : Bool
  numeral : Numeral
  /-- There is neither a point nor an exponent. -/
  whole : Bool
deriving Repr

/-- The number that was written. Integers that fit 64 bits, with or without a sign, are kept as they
are; anything else is computed in binary64, and must not be beyond it. -/
def Written.number? (w : Written) : Option Number :=
  let magnitude := Nat.ofDigitChars 10 w.numeral.whole 0
  if w.whole = true ∧ w.negative = false ∧ magnitude < wordLimit then some (.integer magnitude)
  else if w.whole = true ∧ w.negative = true ∧ 0 < magnitude ∧ magnitude ≤ wordLimit / 2 then
    some (.integer (-magnitude))
  else
    let (significand, exponent) := w.numeral.significand
    let x := Binary64.scaled w.negative significand exponent
    if x.isFinite then some (.real x) else none

def readDigits (cs : List Char) : Except Fault (List Char × List Char) :=
  match cs with
  | [] => .error .truncated
  | c :: _ => if c.isDigit then .ok (Numeral.splitDigits cs) else .error .malformed

/-- The exponent after its letter: an optional sign and digits. -/
def readExponent (cs : List Char) : Except Fault (Int × List Char) := do
  let (negative, rest) := Numeral.splitSign cs
  let (digits, rest) ← readDigits rest
  let power : Int := Nat.ofDigitChars 10 digits 0
  .ok (if negative then -power else power, rest)

/-- The exponent, if there is one, after the digits of a number. -/
def readOptionalExponent (cs : List Char) : Except Fault (Option Int × List Char) :=
  match cs with
  | c :: rest =>
    if c = 'e' ∨ c = 'E' then do
      let (power, rest) ← readExponent rest
      .ok (some power, rest)
    else .ok (none, cs)
  | [] => .ok (none, cs)

/-- The digits before the point. A zero stands alone. -/
def readWhole (cs : List Char) : Except Fault (List Char × List Char) :=
  match cs with
  | '0' :: c :: rest => if c.isDigit then .error .malformed else .ok (['0'], c :: rest)
  | _ => readDigits cs

/-- A minus, if there is one, and the text after it. -/
def splitMinus : List Char → Bool × List Char
  | '-' :: rest => (true, rest)
  | cs => (false, cs)

/-- The digits behind the point, if there is one, after those before it. -/
def readFraction (cs : List Char) : Except Fault (Option (List Char) × List Char) :=
  match cs with
  | '.' :: rest => do
    let (fraction, rest) ← readDigits rest
    .ok (some fraction, rest)
  | _ => .ok (none, cs)

/-- A number, of any size. -/
def readWritten (cs : List Char) : Except Fault (Written × List Char) := do
  let (negative, rest) := splitMinus cs
  let (whole, rest) ← readWhole rest
  let (fraction, rest) ← readFraction rest
  let (power, rest) ← readOptionalExponent rest
  .ok
    (⟨negative, ⟨whole, fraction.getD [], power.getD 0⟩, fraction.isNone && power.isNone⟩, rest)

/-- A number that binary64 holds or rounds to a finite one. -/
def readNumber (cs : List Char) : Except Fault (Number × List Char) := do
  let (written, rest) ← readWritten cs
  match written.number? with
  | some n => .ok (n, rest)
  | none => .error .malformed

/-- The form of a number that nobody asks for. Where it breaks off is of no interest here: an
unfinished number is malformed. -/
def skipNumber (cs : List Char) : Except Fault (List Char) :=
  match readWritten cs with
  | .ok (_, rest) => .ok rest
  | .error _ => .error .malformed

/-- A character that a number may start with. -/
def startsNumber (c : Char) : Bool := c = '-' || c.isDigit

/-! ## Brackets -/

/-- Runs through the elements of an array or object, after its opening bracket: commas stand between
them, and the closing bracket behind them. Each element is read by `element`, which sees and changes
the state that is carried along. -/
def readElements {σ ε : Type} (fault : Fault → ε) (close : Char)
    (element : σ → List Char → Except ε (σ × List Char)) :
    Nat → Bool → σ → List Char → Except ε (σ × List Char)
  | 0, _, _, _ => .error (fault .truncated)
  | fuel + 1, first, state, cs =>
    match skipSpace cs with
    | [] => .error (fault .truncated)
    | c :: rest =>
      if c = close then .ok (state, rest)
      else if first then do
        let (state, rest) ← element state (c :: rest)
        readElements fault close element fuel false state rest
      else if c = ',' then
        match skipSpace rest with
        | [] => .error (fault .truncated)
        | c :: rest =>
          if c = close then .error (fault .malformed)
          else do
            let (state, rest) ← element state (c :: rest)
            readElements fault close element fuel false state rest
      else .error (fault .malformed)

/-- The colon between the name and the value of a member. -/
def readColon (cs : List Char) : Except Fault (List Char) :=
  match skipSpace cs with
  | [] => .error .truncated
  | c :: rest => if c = ':' then .ok rest else .error .malformed

/-- The name of a member and the colon behind it. -/
def readName (cs : List Char) : Except Fault (String × List Char) :=
  match cs with
  | '"' :: rest => do
    let (name, rest) ← readString rest
    .ok (name, ← readColon rest)
  | _ => .error .malformed

/-! ## Values -/

/-- A value at most `depth` brackets deep. Of two members with one name the later one counts, and
the members are put in name order. -/
def readValue : Nat → Nat → List Char → Except Fault (Json × List Char)
  | 0, _, _ => .error .truncated
  | fuel + 1, depth, cs =>
    match skipSpace cs with
    | [] => .error .truncated
    | c :: rest =>
      if c = 'n' then do
        .ok (.null, ← readWord ['u', 'l', 'l'] rest)
      else if c = 't' then do
        .ok (.boolean true, ← readWord ['r', 'u', 'e'] rest)
      else if c = 'f' then do
        .ok (.boolean false, ← readWord ['a', 'l', 's', 'e'] rest)
      else if c = '"' then do
        let (s, rest) ← readString rest
        .ok (.string s, rest)
      else if c = '[' then
        if depth = 0 then .error .malformed
        else do
          let item := fun (items : List Json) cs => do
            let (value, rest) ← readValue fuel (depth - 1) cs
            .ok (value :: items, rest)
          let (items, rest) ← readElements id ']' item (rest.length + 1) true [] rest
          .ok (.array items.reverse, rest)
      else if c = '\x7b' then
        if depth = 0 then .error .malformed
        else do
          let member := fun (members : ByName Json) cs => do
            let (name, rest) ← readName cs
            let (value, rest) ← readValue fuel (depth - 1) rest
            .ok (members.insert name value, rest)
          let (members, rest) ←
            readElements id '\x7d' member (rest.length + 1) true ByName.empty rest
          .ok (objectByName id members, rest)
      else if startsNumber c then do
        let (n, rest) ← readNumber (c :: rest)
        .ok (.number n, rest)
      else .error .malformed

/-- A value that nobody asks for. -/
def skipValue : Nat → List Char → Except Fault (List Char)
  | 0, _ => .error .truncated
  | fuel + 1, cs =>
    match skipSpace cs with
    | [] => .error .truncated
    | c :: rest =>
      if c = 'n' then readWord ['u', 'l', 'l'] rest
      else if c = 't' then readWord ['r', 'u', 'e'] rest
      else if c = 'f' then readWord ['a', 'l', 's', 'e'] rest
      else if c = '"' then skipString rest
      else if c = '[' then do
        let item := fun (_ : Unit) cs => do .ok ((), ← skipValue fuel cs)
        let (_, rest) ← readElements id ']' item (rest.length + 1) true () rest
        .ok rest
      else if c = '\x7b' then do
        let member := fun (_ : Unit) cs => do
          match cs with
          | '"' :: rest => do
            let rest ← readColon (← skipString rest)
            .ok ((), ← skipValue fuel rest)
          | _ => .error .malformed
        let (_, rest) ← readElements id '\x7d' member (rest.length + 1) true () rest
        .ok rest
      else if startsNumber c then skipNumber (c :: rest)
      else .error .malformed

def skip (cs : List Char) : Except Fault (List Char) := skipValue (cs.length + 1) cs

/-- Reads a value that takes up the whole text, blanks around it apart. -/
def read (s : String) : Except Fault Json := do
  let cs := s.toList
  let (value, rest) ← readValue (cs.length + 1) maxDepth cs
  match skipSpace rest with
  | [] => .ok value
  | _ :: _ => .error .malformed

end RequestParams.Json
