import RequestParams.Endpoint.Verification
import RequestParams.Event

/-!
# Outcomes

What becomes of a request at an endpoint. If it is refused, the failures go to a handler, or the
fixed refusal is the answer. If it is verified, its values are attached, and then go to a handler,
or the next one has its turn.

The handler of a refused request is that of the first parameter at fault that has one; the handler
of a verified request is that of the first parameter that has one. Where no parameter has one, it is
that of the endpoint.
-/

set_option autoImplicit false

namespace RequestParams

/-- What becomes of a request: the verdict, the request with everything attached to it, and what was
logged. -/
structure Outcome where
  verdict : Verdict
  request : Request
  events : List Event

/-- The outcome of an answer: its attachments are made before the verdict counts. -/
def Answer.outcome (answer : Answer) (request : Request) (events : List Event) : Outcome :=
  ⟨answer.verdict, request.attachAll answer.attachments, events⟩

namespace Endpoint

def failureHandler? (e : Endpoint) (failures : Failures) : Option FailureHandler :=
  (e.parameters.findSome? fun (name, p) =>
      if failures.contains name then p.callbacks.onFailure else none)
    <|> e.callbacks.onFailure

def successHandler? (e : Endpoint) : Option SuccessHandler :=
  (e.parameters.findSome? fun (_, p) => p.callbacks.onSuccess) <|> e.callbacks.onSuccess

/-- Verifies a request and decides what becomes of it. -/
def handle (e : Endpoint) (diagnostics : Diagnostics) (request : Request) : Outcome :=
  let event (level : Level) (message : String) : Event :=
    ⟨level, request.method, request.path, message⟩
  match e.verify request with
  | .error failures =>
    let refused := event .debug ("rejected parameters: " ++ ", ".intercalate failures.names)
    match e.failureHandler? failures with
    | some handler =>
      (handler failures request).outcome request
        [refused, event .trace "dispatching to error handler"]
    | none => ⟨.respond (refusal failures diagnostics), request, [refused]⟩
  | .ok values =>
    let request := request.attach e.slot values
    match e.successHandler? with
    | some handler =>
      (handler values request).outcome request [event .trace "dispatching to success handler"]
    | none => ⟨.proceed, request, []⟩

end Endpoint

/-- An endpoint that stands in front of the handlers of a route. -/
structure Guard where
  endpoint : Endpoint
  diagnostics : Diagnostics

/-- Decides what becomes of a request before the handlers of its route have their turn. -/
def Guard.check (guard : Guard) (request : Request) : Outcome :=
  guard.endpoint.handle guard.diagnostics request

end RequestParams
