import RequestParams.Declaration.Shorthand
import RequestParams.Json.Record
import RequestParams.Parameter

/-!
# Declarations

A parameter is declared in one of three forms: as shorthand text, as a record built in code
(`Blueprint`), or as a JSON value, which is one of the former two in writing. `DeclarationError`
says why a declaration does not compile.
-/

set_option autoImplicit false

namespace RequestParams

/-- A declaration as a record. What decides whether the parameter is required and whether it is a
list, and its default, are any JSON, so that `"no"`, `0` and `false` may mean the same. -/
structure Blueprint where
  token : String
  default : Option Json := none
  required : Option Json := none
  list : Option Json := none
  least : Option Binary64 := none
  greatest : Option Binary64 := none
  description : Option String := none
  callbacks : Callbacks := {}

/-- A declaration in any of its forms. -/
inductive Declaration where
  | shorthand (text : String)
  | blueprint (b : Blueprint)
  | json (value : Json)

namespace Declaration

/-- The declaration that a JSON value in a configuration stands for: a string is shorthand. -/
def ofJson : Json → Declaration
  | .string text => shorthand text
  | value => json value

end Declaration

/-! ## What can be wrong -/

/-- Why something has not even the form of a declaration. -/
inductive Misshape where
  /-- The text is not of the short form. -/
  | notShorthand (text : String)
  /-- The JSON object does not name a type. -/
  | untyped
  /-- A member of the JSON object is not what it should be. -/
  | badMember (mismatch : Json.Mismatch)
  /-- The JSON value is neither a string nor an object. -/
  | noDeclaration (value : Json)

/-- Why a declaration, or the registration that it is part of, is turned down. -/
inductive DeclarationError where
  /-- The type name is unknown. -/
  | unknownType (token : String)
  | misshapen (why : Misshape)
  /-- A default does not read as the declared type. -/
  | unusableDefault (type : ScalarType) (text : String)
  /-- The method of a registration is not one that a router accepts. -/
  | unsupportedMethod (method : String)

/-- The wording of what is wrong with the form. -/
def Misshape.message : Misshape → String
  | notShorthand text => "'" ++ text ++ "' is not a parameter shorthand"
  | untyped => "object declaration has no 'type'"
  | badMember mismatch => "malformed object declaration: " ++ mismatch.message
  | noDeclaration value => "expected shorthand string or object, found " ++ value.text

def DeclarationError.message : DeclarationError → String
  | unknownType token => "invalid parameter type '" ++ token ++ "'"
  | misshapen why => "invalid parameter declaration: " ++ why.message
  | unusableDefault type text =>
    "default '" ++ text ++ "' is not a valid " ++ type.name ++ " value"
  | unsupportedMethod method => "unsupported method '" ++ method ++ "'"

/-! ## Blueprints in writing -/

namespace Blueprint

open Json in
/-- How a blueprint is written in JSON text. -/
def record : Json.Record Blueprint where
  title := "struct ParamObject"
  blank := ⟨"", none, none, none, none, none, none, {}⟩
  fields :=
    [{ name := "type", needed := true
       read := fun _ cs => do
        let (token, rest) ← readText cs
        .ok (fun b => { b with token := token }, rest) },
     { name := "default"
       read := fun depth cs => do
        let (value, rest) ← readOptional (readAny depth) cs
        .ok (fun b => { b with default := value }, rest) },
     { name := "required"
       read := fun depth cs => do
        let (value, rest) ← readOptional (readAny depth) cs
        .ok (fun b => { b with required := value }, rest) },
     { name := "array"
       read := fun depth cs => do
        let (value, rest) ← readOptional (readAny depth) cs
        .ok (fun b => { b with list := value }, rest) },
     { name := "min"
       read := fun _ cs => do
        let (bound, rest) ← readOptional readReal cs
        .ok (fun b => { b with least := bound }, rest) },
     { name := "max"
       read := fun _ cs => do
        let (bound, rest) ← readOptional readReal cs
        .ok (fun b => { b with greatest := bound }, rest) },
     { name := "description"
       read := fun _ cs => do
        let (text, rest) ← readOptional readText cs
        .ok (fun b => { b with description := text }, rest) }]

def optionalJson : Json → Option Json
  | .null => none
  | value => some value

/-- A number, or nothing for `null`. -/
def optionalReal : Json → Except Json.Mismatch (Option Binary64)
  | .null => .ok none
  | .number n => .ok (some n.toBinary64)
  | value => .error (.wrongKind (.ofJson value) "f64")

/-- A text, or nothing for `null`. -/
def optionalText : Json → Except Json.Mismatch (Option String)
  | .null => .ok none
  | .string s => .ok (some s)
  | value => .error (.wrongKind (.ofJson value) "a string")

/-- Takes over one member of a JSON object; members that are no field are passed over. -/
def withMember (b : Blueprint) (name : String) (value : Json) : Except Json.Mismatch Blueprint :=
  if name = "type" then
    match value with
    | .string token => .ok { b with token := token }
    | _ => .error (.wrongKind (.ofJson value) "a string")
  else if name = "default" then .ok { b with default := optionalJson value }
  else if name = "required" then .ok { b with required := optionalJson value }
  else if name = "array" then .ok { b with list := optionalJson value }
  else if name = "min" then do .ok { b with least := ← optionalReal value }
  else if name = "max" then do .ok { b with greatest := ← optionalReal value }
  else if name = "description" then do .ok { b with description := ← optionalText value }
  else .ok b

/-- The blueprint of a JSON object. Members are taken over in the order in which they stand. -/
def ofMembers (members : List (String × Json)) : Except Json.Mismatch Blueprint :=
  members.foldlM (fun b member => b.withMember member.1 member.2) record.blank

end Blueprint
end RequestParams
