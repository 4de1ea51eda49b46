import RequestParams.Text.Blank

/-!
# Shorthand declarations

The short form of a declaration is a type name, `[]` for a list, and a default in parentheses:
`number[](1,2)`. Blanks may stand around each part and between the brackets. Parentheses, even empty
ones, make the parameter optional; what stands in them may be any text, parentheses and line breaks
included, since the group ends at the last closing parenthesis of the declaration.

* `Shorthand.parse?`: the parts of a declaration.
* `Shorthand.Spelling`: what a declaration looks like, as a relation between text and parts.
* `Shorthand.render`: the shortest spelling of the parts.
-/

set_option autoImplicit false

namespace RequestParams

/-- The parts of a shorthand declaration. -/
structure Shorthand where
  token : String
  list : Bool
  /-- What stands in the parentheses, if there are any. -/
  default : Option String
deriving DecidableEq, Repr, Inhabited

namespace Shorthand

/-- A parameter with parentheses may be left out. -/
def isOptional (s : Shorthand) : Bool := s.default.isSome

/-- An ASCII letter, with which a type name starts. -/
def startsToken (c : Char) : Bool := c.isAlpha

/-- A character with which a type name goes on. -/
def continuesToken (c : Char) : Bool := c.isAlpha || c = '_' || c = '-'

/-! ## Parsing -/

/-- Whether the list mark comes next, and what follows it. -/
def takeMark (cs : List Char) : Bool × List Char :=
  match cs with
  | '[' :: rest =>
    match Text.trimStart rest with
    | ']' :: rest => (true, rest)
    | _ => (false, cs)
  | _ => (false, cs)

/-- The group that makes up the rest of a declaration: nothing, or a text in parentheses. The text
runs to the last closing parenthesis, and only blanks may follow that. -/
def group? (cs : List Char) : Option (Option (List Char)) :=
  match cs with
  | [] => some none
  | '(' :: rest =>
    match (Text.trimEnd rest).reverse with
    | ')' :: inside => some (some inside.reverse)
    | _ => none
  | _ => none

/-- The parts of a declaration, if it is one. -/
def parse? (declaration : String) : Option Shorthand :=
  match Text.trimStart declaration.toList with
  | [] => none
  | c :: rest =>
    if startsToken c then
      let token := c :: rest.takeWhile continuesToken
      let (list, rest) := takeMark (Text.trimStart (rest.dropWhile continuesToken))
      (group? (Text.trimStart rest)).map fun group =>
        ⟨String.ofList token, list, group.map String.ofList⟩
    else none

/-! ## Spelling -/

/-- Nothing but blanks. -/
def Blanks (cs : List Char) : Prop := ∀ c ∈ cs, Text.isBlank c = true

/-- A type name: a letter, then letters, underscores and hyphens. -/
def IsToken (cs : List Char) : Prop :=
  ∃ c rest, cs = c :: rest ∧ startsToken c = true ∧ ∀ d ∈ rest, continuesToken d = true

/-- How a list is marked: brackets with nothing but blanks between them. -/
inductive Mark : Bool → List Char → Prop where
  | absent : Mark false []
  | present (inside : List Char) (blanks : Blanks inside) : Mark true ('[' :: (inside ++ [']']))

/-- How a default is given: in parentheses. -/
inductive Group : Option String → List Char → Prop where
  | absent : Group none []
  | present (text : String) : Group (some text) ('(' :: (text.toList ++ [')']))

/-- A declaration that spells the given parts: the token, the mark and the group in this order, with
blanks around each. -/
def Spelling (s : Shorthand) (declaration : String) : Prop :=
  ∃ before after mark behind group last,
    Blanks before ∧ Blanks after ∧ Blanks behind ∧ Blanks last ∧
    IsToken s.token.toList ∧ Mark s.list mark ∧ Group s.default group ∧
    declaration.toList
      = before ++ s.token.toList ++ after ++ mark ++ behind ++ group ++ last

/-- The parts without any blanks between them. -/
def render (s : Shorthand) : String :=
  s.token ++ (if s.list then "[]" else "")
    ++ match s.default with
      | some text => "(" ++ text ++ ")"
      | none => ""

end Shorthand
end RequestParams
