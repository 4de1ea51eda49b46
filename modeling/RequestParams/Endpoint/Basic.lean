import RequestParams.Declaration.Compile
import RequestParams.Endpoint.Plan
import RequestParams.Endpoint.Settings

/-!
# Endpoints

An endpoint is a plan with every declaration compiled and every open question settled: what the plan
leaves open is taken from the settings, and what they leave open has a fixed answer.

A validator is handed down to every parameter that has none of its own. Handlers are not: those of a
parameter stay with it, and those of the endpoint come after them.
-/

set_option autoImplicit false

namespace RequestParams

structure Endpoint where
  description : Option String
  /-- The parameters in the order of their declaration. -/
  parameters : List (String × Parameter)
  order : List String
  slot : String
  callbacks : Callbacks

namespace Endpoint

def parameter? (e : Endpoint) (name : String) : Option Parameter := e.parameters.lookup name

def declares (e : Endpoint) (name : String) : Bool := (e.parameter? name).isSome

/-- Hands a validator down to a parameter that has none. -/
def handDown (validate : Option Validator) (p : Parameter) : Parameter :=
  { p with callbacks := { p.callbacks with validate := p.callbacks.validate <|> validate } }

/-- Compiles a plan under the settings of its router. The first declaration that does not compile
decides the error. -/
def ofPlan (settings : Settings) (plan : Plan) : Except DeclarationError Endpoint := do
  let callbacks := plan.callbacks.orElse settings.callbacks
  let parameters ← plan.parameters.mapM fun (name, declaration) => do
    let p ← declaration.compile
    .ok (name, handDown callbacks.validate p)
  .ok
    { description := plan.description
      parameters := parameters
      order := (plan.order <|> settings.order).getD defaultOrder
      slot := (plan.slot <|> settings.slot).getD defaultSlot
      callbacks := callbacks }

end Endpoint
end RequestParams
