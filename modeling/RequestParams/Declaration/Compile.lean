import RequestParams.Declaration.Basic

/-!
# Compiling declarations

`Declaration.compile` turns a declaration into a parameter, or says what is wrong with it. The type
is looked at before the default, and the default is read by the same function that reads requests,
so that a compiled default is a value that a request could have supplied.
-/

set_option autoImplicit false

namespace RequestParams

namespace Json

def saysYes : Json → Bool
  | boolean b => b
  | number n => !n.toBinary64.isZero
  | string s => truth? s == some true
  | _ => false

/-- A value that stands for no. `null` does. -/
def saysNo : Json → Bool
  | null => true
  | boolean b => !b
  | number n => n.toBinary64.isZero
  | string s => truth? s == some false
  | _ => false

end Json

/-- The text of a default, or of one item of it: a string is its own text, numbers and truth values
are written as in JSON, and other values have none. -/
def defaultText (type : ScalarType) : Json → Except DeclarationError String
  | .string s => .ok s
  | .number n => .ok (String.ofList n.chars)
  | .boolean b => .ok (Value.truthWord b)
  | value => .error (.unusableDefault type value.text)

/-- Reads a declared default, which must read as the declared type. -/
def Shape.readDefault (shape : Shape) (supplied : Supplied) : Except DeclarationError Value :=
  match shape.read? supplied with
  | some value => .ok value
  | none =>
    .error (.unusableDefault shape.type
      (match supplied with
        | .single s => s
        | .many items => ",".intercalate items))

/-- The default that a JSON value declares: an array supplies its items one by one, anything else
supplies one text, and the empty text declares nothing. -/
def Shape.defaultOfJson (shape : Shape) (value : Json) :
    Except DeclarationError (Option Value) := do
  match value with
  | .array items =>
    let texts ← items.mapM (defaultText shape.type)
    .ok (some (← shape.readDefault (.many texts)))
  | value =>
    let text ← defaultText shape.type value
    if text = "" then .ok none
    else .ok (some (← shape.readDefault (.single text)))

/-- The default of a shorthand declaration: no parentheses, or empty ones, declare nothing. -/
def Shape.defaultOfText (shape : Shape) : Option String → Except DeclarationError (Option Value)
  | none => .ok none
  | some text => if text = "" then .ok none else some <$> shape.readDefault (.single text)

/-- The default of a blueprint: no value, or `null`, declares nothing. -/
def Shape.defaultOfMember (shape : Shape) : Option Json → Except DeclarationError (Option Value)
  | none => .ok none
  | some .null => .ok none
  | some value => shape.defaultOfJson value

/-- The parts of a shorthand declaration. -/
def Shorthand.parse (declaration : String) : Except DeclarationError Shorthand :=
  match parse? declaration with
  | some parts => .ok parts
  | none => .error (.misshapen (.notShorthand declaration))

def ScalarType.ofToken (token : String) : Except DeclarationError ScalarType :=
  match ofToken? token with
  | some type => .ok type
  | none => .error (.unknownType token)

/-- The parameter of a blueprint whose type and default have been read. It is required unless it has
a default or is expressly not required; truth values have no bounds. -/
def Blueprint.parameter (b : Blueprint) (shape : Shape) (default : Option Value) : Parameter where
  rule :=
    { shape := shape
      default := default
      required := !b.required.any Json.saysNo && default.isNone
      least := if shape.type = .boolean then none else b.least
      greatest := if shape.type = .boolean then none else b.greatest
      description := b.description }
  callbacks := b.callbacks

namespace Declaration

def compileShorthand (text : String) : Except DeclarationError Parameter := do
  let parts ← Shorthand.parse text
  let type ← ScalarType.ofToken parts.token
  let shape : Shape := ⟨type, parts.list⟩
  let default ← shape.defaultOfText parts.default
  .ok { rule := { shape := shape, default := default, required := !parts.isOptional } }

def compileBlueprint (b : Blueprint) : Except DeclarationError Parameter := do
  let type ← ScalarType.ofToken b.token
  let shape : Shape := ⟨type, b.list.any Json.saysYes⟩
  let default ← shape.defaultOfMember b.default
  .ok (b.parameter shape default)

/-- Compiles a JSON value: a string as shorthand, an object that names a type as a blueprint. -/
def compileJson : Json → Except DeclarationError Parameter
  | .string text => compileShorthand text
  | .object members =>
    match members.lookup "type" with
    | some (.string _) =>
      match Blueprint.ofMembers members with
      | .ok b => compileBlueprint b
      | .error mismatch => .error (.misshapen (.badMember mismatch))
    | _ => .error (.misshapen .untyped)
  | value => .error (.misshapen (.noDeclaration value))

def compile : Declaration → Except DeclarationError Parameter
  | shorthand text => compileShorthand text
  | blueprint b => compileBlueprint b
  | json value => compileJson value

end Declaration
end RequestParams
