import RequestParams.Router.Basic

/-!
# Histories of registrations

How a router and a route table come about. `Router.after` is one registration, asked for by a call,
and `Router.afterAll` is one after the other. A table is `Built` if nothing but registrations made
it, through one router or through several that took the table over from one another.

What a call comes to is a matter of the settings, not of what was registered before: `Call.route?`
is the route that it adds, and `Call.Adds` how it comes about; `Call.filed?` is the endpoint that it
files, and `Call.Refused` says why it is turned down.
-/

set_option autoImplicit false

namespace RequestParams

/-- A registration as it is asked for. -/
structure Call where
  method : String
  path : String
  registration : Registration

/-- A router as a call leaves it, be it that the call succeeds or that it fails. -/
def Router.after (r : Router) (call : Call) : Router :=
  ((Router.registering call.method call.path call.registration).run.run r).2

/-- A router after calls, one after the other. -/
def Router.afterAll (r : Router) (calls : List Call) : Router := calls.foldl Router.after r

/-- Route tables made by nothing but registrations. -/
inductive RouteTable.Built : RouteTable → Prop where
  | empty : Built []
  | after {r : Router} (built : Built r.table) (call : Call) : Built (r.after call).table

namespace Call

/-- The route that a call adds, if it succeeds: its method is in upper case, its path is as asked
for, and it has a guard exactly if there is a plan. -/
def route? (settings : Settings) (call : Call) : Option Route :=
  if String.ofList (Text.lower call.method.toList) ∈ methods then
    match call.registration with
    | .plain handlers => some ⟨Text.upper call.method, call.path, none, handlers⟩
    | .planned plan handlers =>
      match Endpoint.ofPlan settings plan with
      | .ok e => some ⟨Text.upper call.method, call.path, some ⟨e, settings.diagnostics⟩, handlers⟩
      | .error _ => none
  else none

/-- Whether a call succeeds. -/
def succeeds (settings : Settings) (call : Call) : Bool := (call.route? settings).isSome

/-- The endpoint that a call files under a path and a method, in any case: that of the guard of its
route, if the route below the mount has that path and that method. -/
def filed? (settings : Settings) (path method : String) (call : Call) : Option Endpoint :=
  (call.route? settings).bind fun route =>
    if path = Path.join (settings.mountedAt.getD "") route.path ∧
        Text.upper method = route.method then
      route.guard.map Guard.endpoint
    else none

/-- The route that a call adds to a table. It has a guard exactly if there is a plan, and then the
guard stands for that plan as compiled under the settings. -/
inductive Adds (settings : Settings) (call : Call) : Route → Prop where
  | plain {method : String} {handlers : List Handler}
      (accepted : Router.methodName call.method = .ok method)
      (asked : call.registration = .plain handlers) :
      Adds settings call ⟨method, call.path, none, handlers⟩
  | planned {method : String} {plan : Plan} {handlers : List Handler} {e : Endpoint}
      (accepted : Router.methodName call.method = .ok method)
      (asked : call.registration = .planned plan handlers)
      (compiled : Endpoint.ofPlan settings plan = .ok e) :
      Adds settings call ⟨method, call.path, some ⟨e, settings.diagnostics⟩, handlers⟩

/-- Why a call is turned down: routers do not accept the method, or else the plan does not
compile. -/
inductive Refused (settings : Settings) (call : Call) : DeclarationError → Prop where
  | unsupported (unknown : String.ofList (Text.lower call.method.toList) ∉ methods) :
      Refused settings call (.unsupportedMethod call.method)
  | uncompiled {plan : Plan} {handlers : List Handler} {error : DeclarationError}
      (known : String.ofList (Text.lower call.method.toList) ∈ methods)
      (asked : call.registration = .planned plan handlers)
      (fails : Endpoint.ofPlan settings plan = .error error) : Refused settings call error

end Call
end RequestParams
