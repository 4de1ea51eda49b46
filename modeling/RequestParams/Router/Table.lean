import RequestParams.Endpoint.Outcome

/-!
# Route tables

A route table is the list of a host's routes in the order of their registration. A request goes to
the first route with its method, in any case, and its very path. There the guard comes first, and
then the handlers have their turn until one of them responds.
-/

set_option autoImplicit false

namespace RequestParams

/-- A handler of a route. It sees the request with everything attached to it. -/
abbrev Handler := Request → Verdict

/-- A route: what it answers to, and who answers. -/
structure Route where
  method : String
  path : String
  guard : Option Guard
  handlers : List Handler

/-- Routes in the order of their registration. -/
abbrev RouteTable := List Route

/-- A handler that had its turn, and the request as it saw it. -/
structure Turn where
  handler : Handler
  request : Request

/-- What comes of a request that was sent through a route table: a reply, if somebody responded, the
request as it was left, what was logged, and the turns that handlers of the route had. -/
structure Dispatch where
  reply : Option Reply
  request : Request
  events : List Event
  turns : List Turn

namespace Route

/-- A route answers to its method, in any case, and to its path. -/
def answersTo (route : Route) (request : Request) : Bool :=
  Text.sameIgnoringCase route.method request.method && route.path == request.path

/-- Gives handlers their turn until one of them responds. -/
def takeTurns (request : Request) : List Handler → Option Reply × List Turn
  | [] => (none, [])
  | handler :: others =>
    match (handler request).reply? with
    | some reply => (some reply, [⟨handler, request⟩])
    | none =>
      let (reply, turns) := takeTurns request others
      (reply, ⟨handler, request⟩ :: turns)

/-- Leaves a request to handlers. -/
def leave (request : Request) (handlers : List Handler) (events : List Event) : Dispatch :=
  let (reply, turns) := takeTurns request handlers
  ⟨reply, request, events, turns⟩

/-- Sends a request through a route. -/
def serve (route : Route) (request : Request) : Dispatch :=
  match route.guard with
  | none => leave request route.handlers []
  | some guard =>
    let outcome := guard.check request
    match outcome.verdict with
    | .respond reply => ⟨some reply, outcome.request, outcome.events, []⟩
    | .proceed => leave outcome.request route.handlers outcome.events

end Route

namespace RouteTable

/-- Whether the route of an index has a guard. -/
def isGuarded (table : RouteTable) (index : Nat) : Bool :=
  (table[index]?).any fun route => route.guard.isSome

def dispatch (table : RouteTable) (request : Request) : Dispatch :=
  match table.find? (·.answersTo request) with
  | some route => route.serve request
  | none => ⟨none, request, [], []⟩

end RouteTable
end RequestParams
