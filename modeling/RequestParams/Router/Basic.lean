import RequestParams.Endpoint.Documentation
import RequestParams.Router.Table

/-!
# Routers

A router takes registrations. Each adds a route to the table of the host; a registration with a plan
also compiles the plan, files the endpoint under its path and method, and puts a guard in front of
the handlers. The path of an endpoint starts with the one at which the router is mounted; the route
in the table keeps the path as registered.
-/

set_option autoImplicit false

namespace RequestParams

def methods : List String :=
  ["get", "post", "put", "head", "delete", "options", "trace", "copy", "lock", "mkcol", "move",
   "purge", "propfind", "proppatch", "unlock", "report", "mkactivity", "checkout", "merge",
   "m-search", "notify", "subscribe", "unsubscribe", "patch", "search", "connect"]

/-- What is registered for a route. -/
inductive Registration where
  | plain (handlers : List Handler)
  /-- Handlers behind the guard of a plan. -/
  | planned (plan : Plan) (handlers : List Handler)

/-- Settings, compiled endpoints by path and method, and the routes of the host. -/
structure Router where
  settings : Settings
  endpoints : Endpoints := ByName.empty
  table : RouteTable := []

/-- A registration that went through: the router after it, the index of the new route, and what was
logged. -/
structure Registered where
  router : Router
  index : Nat
  events : List Event

namespace Router

/-- The upper case form of a method that routers accept. -/
def methodName (method : String) : Except DeclarationError String :=
  if String.ofList (Text.lower method.toList) ∈ methods then .ok (Text.upper method)
  else .error (.unsupportedMethod method)

/-- The path of an endpoint whose route has the given path. -/
def endpointPath (r : Router) (path : String) : String :=
  Path.join (r.settings.mountedAt.getD "") path

def addRoute (r : Router) (route : Route) : Router :=
  { r with table := r.table ++ [route] }

/-- Files an endpoint under a path and a method, in place of the one that was there. -/
def file (r : Router) (path method : String) (endpoint : Endpoint) : Router :=
  { r with
    endpoints :=
      r.endpoints.insert path
        (((r.endpoints.get? path).getD ByName.empty).insert method endpoint) }

/-- A registration step by step, on the router at hand: the index of the new route and what was
logged. What a step has changed stays changed if a later one fails. -/
def registering (method path : String) (registration : Registration) :
    ExceptT DeclarationError (StateM Router) (Nat × List Event) := do
  let method ← methodName method
  let r ← get
  let key := r.endpointPath path
  match registration with
  | .plain handlers =>
    let index ← modifyGet fun r => (r.table.length, r.addRoute ⟨method, path, none, handlers⟩)
    return (index, [⟨.trace, method, key, "registered without parameter schema"⟩])
  | .planned plan handlers =>
    let endpoint ← Endpoint.ofPlan r.settings plan
    let count := String.ofList (digitsOf endpoint.parameters.length)
    modify fun r => r.file key method endpoint
    let index ← modifyGet fun r =>
      (r.table.length,
        r.addRoute ⟨method, path, some ⟨endpoint, r.settings.diagnostics⟩, handlers⟩)
    return (index, [⟨.debug, method, key, "compiled endpoint with " ++ count ++ " parameter(s)"⟩])

/-- Registers a route. -/
def register (r : Router) (method path : String) (registration : Registration) :
    Except DeclarationError Registered :=
  match (registering method path registration).run.run r with
  | (.ok (index, events), r) => .ok ⟨r, index, events⟩
  | (.error error, _) => .error error

/-- The endpoint of a path and a method, in any case. -/
def endpoint? (r : Router) (path method : String) : Option Endpoint :=
  (r.endpoints.get? path).bind (·.get? (Text.upper method))

/-- Verifies a request at the endpoint of its route, if there is one, without sending it through the
table. -/
def verifyRequest (r : Router) (request : Request) : Option Outcome :=
  (r.endpoint? (r.endpointPath request.path) request.method).map
    (·.handle r.settings.diagnostics request)

/-- What the paths of endpoints are joined to in documentation. A router that knows where it is
mounted ignores the mount given here: its own is part of the paths already. -/
def docBase (r : Router) (mount : Option String) : String :=
  match r.settings.mountedAt with
  | some _ => ""
  | none => mount.getD ""

/-- The documentation of all endpoints. -/
def apiDoc (r : Router) (mount : Option String) : ApiDoc :=
  ApiDoc.ofEndpoints (r.docBase mount) r.endpoints

/-- The documentation of all endpoints as a reply. -/
def apiReply (r : Router) (mount : Option String) : Reply :=
  ⟨200, some (r.apiDoc mount).toJson⟩

end Router
end RequestParams
