import RequestParams.Endpoint.Basic

/-!
# Verification

A request is verified in three steps: its values are gathered, every parameter is checked, and
defaults are filled in. Gathering takes for every key the first bag that holds it, in the order of
the endpoint; what that bag supplies counts, even if it does not read.
-/

set_option autoImplicit false

namespace RequestParams.Endpoint

/-! ## Gathering -/

/-- What a bag supplies, key by key in the order of its listing. -/
def offers (bag : Bag) : List (String × Supplied) :=
  bag.keys.filterMap fun key => (bag.get? key).map fun supplied => (key, supplied)

/-- What a request supplies in the bags of an endpoint, bag by bag. -/
def allOffers (e : Endpoint) (request : Request) : List (String × Supplied) :=
  e.order.flatMap fun name =>
    match request.bag? name with
    | some bag => offers bag
    | none => []

def claimed (e : Endpoint) (request : Request) : ByName Supplied :=
  (e.allOffers request).foldl (fun claims offer => claims.insertNew offer.1 offer.2) ByName.empty

/-- What a supplied key comes to: a declared one is read by its rule, another one is kept as it
is. -/
def readKey (e : Endpoint) (key : String) (supplied : Supplied) : Option Value :=
  match e.parameter? key with
  | some p => p.rule.shape.read? supplied
  | none => some supplied.asText

/-- The values of a request. A declared parameter whose text does not read has none. -/
def gather (e : Endpoint) (request : Request) : Values :=
  (e.claimed request).filterMap e.readKey

/-! ## Checking -/

mutual

/-- The first bound that a value breaks: the greatest is tried before the least, and the items of a
list are tried in order. -/
def outOfBounds (rule : Rule) : Value → Option Violation
  | .list items => firstOutOfBounds rule items
  | scalar =>
    match scalar.measure? with
    | none => none
    | some measure =>
      match rule.greatest.filter (·.lt measure) with
      | some bound => some (.aboveGreatest bound)
      | none => (rule.least.filter (measure.lt ·)).map .belowLeast

/-- The first bound that the items of a list break. -/
def firstOutOfBounds (rule : Rule) : List Value → Option Violation
  | [] => none
  | item :: rest => outOfBounds rule item <|> firstOutOfBounds rule rest

end

/-- What is wrong with a parameter. A validator takes the place of all other rules; a list without
items counts as no value. -/
def violation? (p : Parameter) (value : Option Value) : Option Violation :=
  match p.callbacks.validate with
  | some validate => (Validator.judge validate p.rule value).map .turnedDown
  | none =>
    match value.filter (!·.isEmptyList) with
    | some value => outOfBounds p.rule value
    | none => if p.rule.required then some .missing else none

def check (e : Endpoint) (values : Values) : Failures :=
  e.parameters.foldl
    (fun failures (name, p) =>
      match violation? p (values.get? name) with
      | some violation => failures.record name ⟨p.rule.shape.type, violation⟩
      | none => failures)
    ByName.empty

/-! ## Filling in -/

def fill (e : Endpoint) (values : Values) : Values :=
  e.parameters.foldl
    (fun values (name, p) =>
      match p.rule.default with
      | some default => values.insertNew name default
      | none => values)
    values

/-- Verifies a request: all failures, or all values. -/
def verify (e : Endpoint) (request : Request) : Except Failures Values :=
  let values := e.gather request
  let failures := e.check values
  if failures.isEmpty then .ok (e.fill values) else .error failures

end RequestParams.Endpoint
