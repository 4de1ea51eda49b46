import RequestParams.Endpoint.Basic
import RequestParams.Path

/-!
# Documentation

What hosts and clients can learn about endpoints: the rules of their parameters, without the
functions that hosts supply. The documentation of an endpoint in JSON is a plan that compiles to the
same rules again.
-/

set_option autoImplicit false

namespace RequestParams

/-- A member of a JSON object, if there is a value for it. -/
def Json.member {α : Type} (name : String) (value : α → Json) (a : Option α) :
    List (String × Json) :=
  match a with
  | some a => [(name, value a)]
  | none => []

theorem Json.names_append_member {α : Type} {members : List (String × Json)} {names : List String}
    (known : (members.map Prod.fst).Sublist names) (name : String) (value : α → Json)
    (a : Option α) :
    ((members ++ Json.member name value a).map Prod.fst).Sublist (names ++ [name]) := by
  rw [List.map_append]
  refine known.append ?_
  cases a with
  | none => exact List.nil_sublist _
  | some a => exact List.Sublist.refl _

theorem Json.lookup_member {α : Type} (name other : String) (value : α → Json) (a : Option α) :
    (Json.member name value a).lookup other = if other = name then a.map value else none := by
  cases a with
  | none => simp [Json.member]
  | some a => rw [Json.member, ByName.lookup_cons_ite, Option.map_some, List.lookup_nil]

theorem Json.mem_member {α : Type} {name : String} {value : α → Json} {a : Option α}
    {member : String × Json} (h : member ∈ Json.member name value a) :
    ∃ x, a = some x ∧ member = (name, value x) := by
  cases a with
  | none => cases h
  | some x => exact ⟨x, rfl, List.mem_singleton.1 h⟩

/-- The members of a rule in documentation. -/
def Rule.members (rule : Rule) : List (String × Json) :=
  [("type", .string rule.shape.type.name),
    ("array", .boolean rule.shape.list),
    ("required", .boolean rule.required)]
    ++ Json.member "default" Value.toJson rule.default
    ++ Json.member "min" Json.ofBinary64 rule.least
    ++ Json.member "max" Json.ofBinary64 rule.greatest
    ++ Json.member "description" .string rule.description

def Rule.toJson (rule : Rule) : Json := .object rule.members

/-- What is made known about an endpoint. -/
structure EndpointDoc where
  description : Option String
  order : List String
  slot : String
  /-- The rules in the order of declaration. -/
  rules : List (String × Rule)

namespace EndpointDoc

def rule? (doc : EndpointDoc) (name : String) : Option Rule := doc.rules.lookup name

def toJson (doc : EndpointDoc) : Json :=
  .object
    (Json.member "description" .string doc.description
      ++ [("paramOrder", .array (doc.order.map .string)),
        ("paramMap", .string doc.slot),
        ("params", .object (doc.rules.map fun e => (e.1, e.2.toJson)))])

end EndpointDoc

def Endpoint.doc (e : Endpoint) : EndpointDoc where
  description := e.description
  order := e.order
  slot := e.slot
  rules := e.parameters.map fun p => (p.1, p.2.rule)

/-- Compiled endpoints by path and method. -/
abbrev Endpoints := ByName (ByName Endpoint)

/-- The documentation of many endpoints by path and method. -/
abbrev ApiDoc := ByName (ByName EndpointDoc)

namespace ApiDoc

/-- The documentation of endpoints that are reached below a base, in the order of a listing: of two
paths that come to the same the one listed later is documented. -/
def ofListing (base : String) (listing : List (String × ByName Endpoint)) : ApiDoc :=
  ByName.ofList (listing.map fun e =>
    (Path.join base e.1, e.2.map fun _ endpoint => endpoint.doc))

/-- The documentation of endpoints that are reached below a base. -/
def ofEndpoints (base : String) (endpoints : Endpoints) : ApiDoc :=
  ofListing base endpoints.entries

def endpoint? (doc : ApiDoc) (path method : String) : Option EndpointDoc :=
  (doc.get? path).bind (·.get? method)

def toJson (doc : ApiDoc) : Json := Json.objectByName (Json.objectByName EndpointDoc.toJson) doc

end ApiDoc
end RequestParams
