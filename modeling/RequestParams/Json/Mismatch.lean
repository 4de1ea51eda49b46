import RequestParams.Json.Basic
import RequestParams.Text.Quoted

/-!
# JSON of the wrong shape

JSON text may be well formed and still not be the record that is asked for. `Json.Mismatch` says in
what way, and `Json.Mismatch.message` words it.
-/

set_option autoImplicit false

namespace RequestParams.Json

/-- What stands where something else was expected. -/
inductive Found where
  | null
  | boolean (b : Bool)
  | number (n : Number)
  | string (s : String)
  | sequence
  | map
deriving Inhabited

namespace Found

def ofJson : Json → Found
  | .null => null
  | .boolean b => boolean b
  | .number n => number n
  | .string s => string s
  | .array _ => sequence
  | .object _ => map

/-- The words for what was found. Numbers and truth values are shown as code, texts in quotes. -/
def describe : Found → String
  | null => "null"
  | boolean b => "boolean `" ++ (if b then "true" else "false") ++ "`"
  | number (.integer z) => "integer `" ++ String.ofList (Number.integer z).chars ++ "`"
  | number (.real x) => "floating point `" ++ String.ofList (Number.real x).chars ++ "`"
  | string s => "string " ++ Text.quoted s
  | sequence => "sequence"
  | map => "map"

end Found

/-- In what way JSON is not what was asked for. -/
inductive Mismatch where
  /-- A value of one kind where another is expected. -/
  | wrongKind (found : Found) (expected : String)
  /-- A word that is none of the choices. -/
  | unknownChoice (word : String) (choices : List String)
  /-- A record without a member that it needs. -/
  | missing (field : String)
  /-- A member of a record that occurs twice. -/
  | repeated (field : String)
  /-- A record given as an array that is too short. -/
  | tooShort (length : Nat) (expected : String)
deriving Inhabited

def Mismatch.message : Mismatch → String
  | wrongKind found expected => "invalid type: " ++ found.describe ++ ", expected " ++ expected
  | unknownChoice word choices =>
    "unknown variant `" ++ word ++ "`, expected "
      ++ " or ".intercalate (choices.map fun choice => "`" ++ choice ++ "`")
  | missing field => "missing field `" ++ field ++ "`"
  | repeated field => "duplicate field `" ++ field ++ "`"
  | tooShort length expected =>
    "invalid length " ++ String.ofList (digitsOf length) ++ ", expected " ++ expected

end RequestParams.Json
