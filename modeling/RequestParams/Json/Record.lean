import RequestParams.Json.Reader
import RequestParams.Json.Mismatch

/-!
# Reading records

A record is a structure with named fields that is written in JSON, either as an object or as an
array of its fields in order. Records are read straight from text, one field after the other, so
that what is reported is the first thing wrong in text order, whether it is the text or the shape of
a value.

* A field is read by a function from text to a change of the record.
* A member that is no field is skipped. A field that occurs twice is refused before its second value
  is looked at.
* In an array fields may be left out at the end; nothing may follow the last one.
* A field that the record cannot do without is `needed`.
-/

set_option autoImplicit false

namespace RequestParams.Json

inductive ReadError where
  | fault (f : Fault)
  | mismatch (m : Mismatch)
deriving Inhabited

namespace ReadError

/-- A fault of the text, as an error of reading a record. -/
def lift {α : Type} : Except Fault α → Except ReadError α
  | .ok a => .ok a
  | .error f => .error (fault f)

end ReadError

open ReadError

/-- The error for the value that stands here, where something else is expected. A value that is no
JSON is the greater error. -/
def refuse {α : Type} (expected : String) (cs : List Char) : Except ReadError α :=
  let wrong (found : Found) : Except ReadError α := .error (.mismatch (.wrongKind found expected))
  match skipSpace cs with
  | [] => .error (.fault .truncated)
  | c :: rest =>
    if c = 'n' then do
      let _ ← lift (readWord ['u', 'l', 'l'] rest)
      wrong .null
    else if c = 't' then do
      let _ ← lift (readWord ['r', 'u', 'e'] rest)
      wrong (.boolean true)
    else if c = 'f' then do
      let _ ← lift (readWord ['a', 'l', 's', 'e'] rest)
      wrong (.boolean false)
    else if c = '"' then do
      let (s, _) ← lift (readString rest)
      wrong (.string s)
    else if c = '[' then wrong .sequence
    else if c = '\x7b' then wrong .map
    else if startsNumber c then do
      let (n, _) ← lift (readNumber (c :: rest))
      wrong (.number n)
    else .error (.fault .malformed)

/-! ## Values of fields -/

def readText (cs : List Char) : Except ReadError (String × List Char) :=
  match skipSpace cs with
  | '"' :: rest => lift (readString rest)
  | _ => refuse "a string" cs

/-- A number, rounded to binary64. -/
def readReal (cs : List Char) : Except ReadError (Binary64 × List Char) :=
  match skipSpace cs with
  | c :: rest =>
    if startsNumber c then do
      let (n, rest) ← lift (readNumber (c :: rest))
      .ok (n.toBinary64, rest)
    else refuse "f64" cs
  | [] => refuse "f64" cs

def readTexts (depth : Nat) (cs : List Char) : Except ReadError (List String × List Char) :=
  match skipSpace cs with
  | '[' :: rest =>
    if depth = 0 then .error (.fault .malformed)
    else do
      let item := fun (items : List String) cs => do
        let (s, rest) ← readText cs
        .ok (s :: items, rest)
      let (items, rest) ← readElements ReadError.fault ']' item (rest.length + 1) true [] rest
      .ok (items.reverse, rest)
  | _ => refuse "a sequence" cs

def readAny (depth : Nat) (cs : List Char) : Except ReadError (Json × List Char) :=
  lift (readValue (cs.length + 1) depth cs)

/-- A value, or `null` for none. -/
def readOptional {α : Type} (read : List Char → Except ReadError (α × List Char))
    (cs : List Char) : Except ReadError (Option α × List Char) :=
  match skipSpace cs with
  | 'n' :: rest => do .ok (none, ← lift (readWord ['u', 'l', 'l'] rest))
  | cs => do
    let (a, rest) ← read cs
    .ok (some a, rest)

/-- One of several words: a string, or an object with the word as its only member and `null` as the
value. A member that does not begin with a string is no JSON, whatever else stands there. -/
def readChoice (choices : List String) (depth : Nat) (cs : List Char) :
    Except ReadError (String × List Char) :=
  let chosen (word : String) : Except ReadError Unit :=
    if word ∈ choices then .ok () else .error (.mismatch (.unknownChoice word choices))
  match skipSpace cs with
  | [] => .error (.fault .truncated)
  | c :: rest =>
    if c = '"' then do
      let (word, rest) ← lift (readString rest)
      chosen word
      .ok (word, rest)
    else if c = '\x7b' then
      if depth = 0 then .error (.fault .malformed)
      else
        match skipSpace rest with
        | '"' :: rest => do
          let (word, rest) ← lift (readString rest)
          chosen word
          let rest ← lift (readColon rest)
          match skipSpace rest with
          | 'n' :: rest => do
            let rest ← lift (readWord ['u', 'l', 'l'] rest)
            match skipSpace rest with
            | [] => .error (.fault .truncated)
            | c :: rest => if c = '\x7d' then .ok (word, rest) else .error (.fault .malformed)
          | _ => refuse "unit" rest
        | [] => .error (.fault .truncated)
        | _ :: _ => .error (.fault .malformed)
    else .error (.fault .malformed)

/-! ## Records -/

/-- A field of a record `ρ`: its name, and how to read its value at a depth that is left. -/
structure Field (ρ : Type) where
  name : String
  read : Nat → List Char → Except ReadError ((ρ → ρ) × List Char)
  needed : Bool := false

/-- How a record `ρ` is written. -/
structure Record (ρ : Type) where
  /-- What the record is called where it is expected and something else is found. -/
  title : String
  /-- The record with every field left out. -/
  blank : ρ
  fields : List (Field ρ)

namespace Record

variable {ρ : Type}

/-- One member of a record in object form. The state is the record so far and the names of the
fields that it was given. -/
def readMember (record : Record ρ) (depth : Nat) :
    List String × ρ → List Char → Except ReadError ((List String × ρ) × List Char)
  | (given, value), '"' :: rest => do
    let (name, rest) ← lift (readString rest)
    match record.fields.find? fun field => field.name == name with
    | none =>
      let rest ← lift (readColon rest)
      .ok ((given, value), ← lift (skip rest))
    | some field =>
      if name ∈ given then .error (.mismatch (.repeated name))
      else
        let rest ← lift (readColon rest)
        let (change, rest) ← field.read depth rest
        .ok ((name :: given, change value), rest)
  | _, _ => .error (.fault .malformed)

/-- The fields that are left, of a record in array form, and the closing bracket. `position` counts
the fields already read. -/
def readPositions (record : Record ρ) (depth : Nat) :
    List (Field ρ) → Nat → ρ → List Char → Except ReadError (ρ × List Char)
  | [], _, value, cs =>
    match skipSpace cs with
    | [] => .error (.fault .truncated)
    | c :: rest => if c = ']' then .ok (value, rest) else .error (.fault .malformed)
  | field :: more, position, value, cs => do
    let here (cs : List Char) : Except ReadError (ρ × List Char) := do
      let (change, rest) ← field.read depth cs
      readPositions record depth more (position + 1) (change value) rest
    match skipSpace cs with
    | [] => .error (.fault .truncated)
    | c :: rest =>
      if c = ']' then
        match (field :: more).findIdx? Field.needed with
        | some i =>
          .error (.mismatch (.tooShort (position + i)
            (record.title ++ " with " ++ String.ofList (digitsOf record.fields.length)
              ++ " elements")))
        | none => .ok (value, rest)
      else if position = 0 then here (c :: rest)
      else if c = ',' then
        match skipSpace rest with
        | [] => .error (.fault .truncated)
        | c :: rest => if c = ']' then .error (.fault .malformed) else here (c :: rest)
      else .error (.fault .malformed)

/-- A record in either form. -/
def readAt (record : Record ρ) (depth : Nat) (cs : List Char) :
    Except ReadError (ρ × List Char) :=
  match skipSpace cs with
  | [] => .error (.fault .truncated)
  | c :: rest =>
    if c = '[' then
      if depth = 0 then .error (.fault .malformed)
      else record.readPositions (depth - 1) record.fields 0 record.blank rest
    else if c = '\x7b' then
      if depth = 0 then .error (.fault .malformed)
      else do
        let ((given, value), rest) ←
          readElements ReadError.fault '\x7d' (record.readMember (depth - 1)) (rest.length + 1)
            true ([], record.blank) rest
        match record.fields.find? fun field => field.needed && !given.contains field.name with
        | some field => .error (.mismatch (.missing field.name))
        | none => .ok (value, rest)
    else refuse record.title cs

/-- Reads a record that takes up the whole text. -/
def read (record : Record ρ) (s : String) : Except ReadError ρ := do
  let (value, rest) ← record.readAt maxDepth s.toList
  match skipSpace rest with
  | [] => .ok value
  | _ :: _ => .error (.fault .malformed)

end Record
end RequestParams.Json
