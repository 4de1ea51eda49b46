import RequestParams.Declaration.Basic
import RequestParams.Roster

/-!
# Plans

A plan is an endpoint as its author writes it down: the declarations of its parameters in order, and
whatever it wants to have different from the settings of the router.
-/

set_option autoImplicit false

namespace RequestParams

structure Plan where
  description : Option String := none
  /-- The declarations in order, each under the name of its parameter. -/
  parameters : List (String × Declaration) := []
  order : Option (List String) := none
  slot : Option String := none
  callbacks : Callbacks := {}

namespace Plan

/-- Declares a parameter. A name that is declared already is declared anew, in its old place. -/
def declare (plan : Plan) (name : String) (declaration : Declaration) : Plan :=
  { plan with parameters := Roster.put name declaration plan.parameters }

open Json in
/-- The declarations of an object: its members in text order, later ones in place of earlier ones of
the same name. -/
def readDeclarations (depth : Nat) (cs : List Char) :
    Except ReadError (List (String × Declaration) × List Char) :=
  match skipSpace cs with
  | [] => .error (.fault .truncated)
  | c :: rest =>
    if c = '\x7b' then
      if depth = 0 then .error (.fault .malformed)
      else
        let member := fun (roster : List (String × Declaration)) cs => do
          let (name, rest) ← ReadError.lift (readName cs)
          let (value, rest) ← readAny (depth - 1) rest
          .ok (Roster.put name (Declaration.ofJson value) roster, rest)
        readElements ReadError.fault '\x7d' member (rest.length + 1) true [] rest
    else refuse "a map of parameter names to declarations" cs

open Json in
/-- How a plan is written in JSON text. -/
def record : Json.Record Plan where
  title := "struct EndpointDecl"
  blank := {}
  fields :=
    [{ name := "description"
       read := fun _ cs => do
        let (text, rest) ← readOptional readText cs
        .ok (fun p => { p with description := text }, rest) },
     { name := "params"
       read := fun depth cs => do
        let (roster, rest) ← readDeclarations depth cs
        .ok (fun p => { p with parameters := roster }, rest) },
     { name := "paramOrder"
       read := fun depth cs => do
        let (order, rest) ← readOptional (readTexts depth) cs
        .ok (fun p => { p with order := order }, rest) },
     { name := "paramMap"
       read := fun _ cs => do
        let (slot, rest) ← readOptional readText cs
        .ok (fun p => { p with slot := slot }, rest) }]

def read (text : String) : Except Json.ReadError Plan := record.read text

end Plan
end RequestParams
