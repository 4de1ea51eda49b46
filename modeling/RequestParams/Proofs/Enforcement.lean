import RequestParams.Proofs.Checking
import RequestParams.Proofs.Outcome
import RequestParams.Proofs.Registering

/-!
# What documentation promises

The documentation of an endpoint and its verification read the same compiled parameters, and neither
looks at the other. Here one is held against the other: with nothing but the documentation and a
request at hand, a client can tell which parameters will be reported as missing and what will be
delivered in place of those that it left out (`doc_enforced`).

What a client has to find out of its own request is whether it offers a usable value under a name.
`EndpointDoc.Lacks` says so in terms of the documented order and the documented type, and
`usable?_eq_none_iff` is the bridge to what verification computes.

A validator may let anything pass, so there must be none: not where a parameter is declared, not in
its plan, and not in the settings of the router (`Call.Unvalidated`).
-/

set_option autoImplicit false

namespace RequestParams

/-! ## What a request leaves out -/

/-- The bag of a name, if the request has one, does not hold a key. -/
def Request.Withholds (request : Request) (source key : String) : Prop :=
  ∀ bag, request.bag? source = some bag → ¬ bag.Holds key

/-- A request offers no usable value for a documented parameter: no bag in the documented order holds
its name, or the first one that does supplies something that the documented type does not read. -/
inductive EndpointDoc.Lacks (doc : EndpointDoc) (request : Request) (name : String) (rule : Rule) :
    Prop where
  | unheld (nowhere : ∀ source ∈ doc.order, request.Withholds source name) :
      Lacks doc request name rule
  | unread {before after : List String} {source : String} {bag : Bag} {supplied : Supplied}
      (order : doc.order = before ++ source :: after)
      (first : ∀ earlier ∈ before, request.Withholds earlier name)
      (here : request.bag? source = some bag) (holds : bag.Holds name)
      (supplies : bag.get? name = some supplied)
      (unusable : rule.shape.read? supplied = none) : Lacks doc request name rule

namespace Request

variable {request : Request} {source key : String}

theorem held?_eq_none_iff : request.held? source key = none ↔ request.Withholds source key := by
  unfold held?
  constructor
  · intro none bag found holds
    obtain ⟨supplied, answer⟩ := Option.isSome_iff_exists.1 holds.2
    rw [found, Option.bind_some, Bag.held?_of_holds holds, answer] at none
    cases none
  · intro withholds
    cases found : request.bag? source with
    | none => rfl
    | some bag => exact Bag.held?_of_not_holds (withholds bag found)

theorem held?_eq_some_iff {supplied : Supplied} :
    request.held? source key = some supplied ↔
      ∃ bag, request.bag? source = some bag ∧ bag.Holds key ∧ bag.get? key = some supplied := by
  unfold held?
  constructor
  · intro found
    obtain ⟨bag, here, held⟩ := Option.bind_eq_some_iff.1 found
    by_cases holds : bag.Holds key
    · rw [Bag.held?_of_holds holds] at held
      exact ⟨bag, here, holds, held⟩
    · rw [Bag.held?_of_not_holds holds] at held
      cases held
  · rintro ⟨bag, here, holds, answer⟩
    rw [here, Option.bind_some, Bag.held?_of_holds holds, answer]

end Request

namespace Endpoint

variable {e : Endpoint} {request : Request} {name : String}

theorem supplied?_eq_none_iff :
    e.supplied? request name = none ↔ ∀ source ∈ e.order, request.Withholds source name := by
  rw [supplied?_eq_findSome?, List.findSome?_eq_none_iff]
  exact forall₂_congr fun _ _ => Request.held?_eq_none_iff

/-- What verification finds unusable is what the documentation lets a client see as such. -/
theorem usable?_eq_none_iff {p : Parameter} :
    e.usable? request name p = none ↔ e.doc.Lacks request name p.rule := by
  unfold usable?
  constructor
  · intro unusable
    cases supplies : e.supplied? request name with
    | none => exact .unheld (supplied?_eq_none_iff.1 supplies)
    | some supplied =>
      rw [supplies, Option.bind_some] at unusable
      rw [supplied?_eq_findSome?] at supplies
      -- What is supplied but does not read comes from the first bag that holds the name.
      obtain ⟨before, source, after, order, held, first⟩ := List.findSome?_eq_some_iff.1 supplies
      obtain ⟨bag, here, holds, answer⟩ := Request.held?_eq_some_iff.1 held
      exact .unread order (fun earlier member => Request.held?_eq_none_iff.1 (first earlier member))
        here holds answer unusable
  · intro lacks
    cases lacks with
    | unheld nowhere => rw [supplied?_eq_none_iff.2 nowhere, Option.bind_none]
    | unread order first here holds supplies unusable =>
      have held := Request.held?_eq_some_iff.2 ⟨_, here, holds, supplies⟩
      have unheld := fun earlier member => Request.held?_eq_none_iff.2 (first earlier member)
      have found := List.findSome?_eq_some_iff.2 ⟨_, _, _, order, held, unheld⟩
      have supplied := (supplied?_eq_findSome? e request name).trans found
      rw [supplied, Option.bind_some, unusable]

/-- The documentation lists the rule of every parameter, and no other. -/
theorem doc_rule?_eq_some (distinct : (e.parameters.map Prod.fst).Nodup) {rule : Rule} :
    e.doc.rule? name = some rule ↔ ∃ p, (name, p) ∈ e.parameters ∧ p.rule = rule := by
  have listed : e.doc.rule? name = (e.parameter? name).map Parameter.rule :=
    ByName.lookup_map Parameter.rule e.parameters name
  rw [listed, Option.map_eq_some_iff]
  exact exists_congr fun p => and_congr_left' (parameter?_eq_some distinct)

/-! ## What is reported as missing -/

/-- A name is reported if the parameter that it declares is at fault. -/
theorem reported_iff (distinct : (e.parameters.map Prod.fst).Nodup) {type : ScalarType}
    {violation : Violation} :
    (∃ failures, e.verify request = .error failures ∧
      failures.get? name = some ⟨type, violation⟩) ↔
    ∃ p, (name, p) ∈ e.parameters ∧ p.rule.shape.type = type ∧
      violation? p (e.usable? request name p) = some violation := by
  constructor
  · rintro ⟨failures, refused, found⟩
    obtain ⟨-, rfl⟩ := verify_eq_error.1 refused
    rw [get?_check distinct] at found
    obtain ⟨p, known, found⟩ := Option.bind_eq_some_iff.1 found
    obtain ⟨violation, broken, same⟩ := Option.map_eq_some_iff.1 found
    cases same
    rw [get?_gather_declared known] at broken
    exact ⟨p, (parameter?_eq_some distinct).1 known, rfl, broken⟩
  · rintro ⟨p, declared, rfl, broken⟩
    exact refused_of_violation distinct declared broken

theorem outOfBounds_ne_missing (rule : Rule) (v : Value) : outOfBounds rule v ≠ some .missing := by
  intro missing
  obtain ⟨-, measure, -, -, -, broken⟩ := outOfBounds_eq_some.1 missing
  cases broken

/-- Without a validator, what is missing is what is required and not usable. -/
theorem violation?_eq_missing {p : Parameter} (builtIn : p.callbacks.validate = none) :
    violation? p (e.usable? request name p) = some .missing ↔
      p.rule.required = true ∧ e.usable? request name p = none := by
  rw [violation?_usable builtIn]
  cases e.usable? request name p with
  | some v =>
    dsimp only
    constructor
    · exact fun missing => absurd missing (outOfBounds_ne_missing p.rule v)
    · rintro ⟨-, unusable⟩
      cases unusable
  | none =>
    dsimp only
    constructor
    · intro missing
      split at missing
      · rename_i required
        exact ⟨required, rfl⟩
      · cases missing
    · rintro ⟨required, -⟩
      exact if_pos required

end Endpoint

/-! ## Registrations without validators -/

/-- A call brings no validator along, and none is handed down to what it registers. -/
def Call.Unvalidated (settings : Settings) (call : Call) : Prop :=
  ∀ plan handlers, call.registration = .planned plan handlers →
    Endpoint.Unvalidated settings plan

/-- What a call files is compiled from its plan. -/
theorem Call.compiled_of_filed {settings : Settings} {call : Call} {path method : String}
    {e : Endpoint} (filed : call.filed? settings path method = some e) :
    ∃ plan handlers, call.registration = .planned plan handlers ∧
      Endpoint.ofPlan settings plan = .ok e := by
  unfold Call.filed? at filed
  obtain ⟨route, adds, filed⟩ := Option.bind_eq_some_iff.1 filed
  split at filed
  · obtain ⟨guard, there, rfl⟩ := Option.map_eq_some_iff.1 filed
    cases Call.adds_of_route adds with
    | plain => cases there
    | planned accepted asked compiled =>
      obtain rfl := Option.some.inj there
      exact ⟨_, _, asked, compiled⟩
  · cases filed

namespace Router

/-- No parameter of a filed endpoint has a validator. -/
theorem Reflects.builtIn {settings : Settings} {start : RouteTable} {calls : List Call} {r : Router}
    (h : r.Reflects settings start calls) (unvalidated : ∀ call ∈ calls, call.Unvalidated settings)
    {path method : String} {file : ByName Endpoint} {e : Endpoint}
    (there : r.endpoints.get? path = some file) (filed : file.get? method = some e) {name : String}
    {p : Parameter} (declared : (name, p) ∈ e.parameters) : p.callbacks.validate = none := by
  -- What is on file was filed by the last of the calls that filed something there.
  have last := h.endpoint path method
  rw [h.wellFiled.endpoint? there filed] at last
  obtain ⟨call, member, files⟩ := List.mem_filterMap.1 (List.mem_of_getLast? last.symm)
  obtain ⟨plan, handlers, asked, compiled⟩ := Call.compiled_of_filed files
  exact (unvalidated call member plan handlers asked).builtIn (Endpoint.ofPlan_layers compiled)
    declared

/-! ## Documentation and verification -/

/-- **What is documented is what is enforced.** Take a router after whatever registrations without
validators, and an endpoint that it has on file. Of any request the names reported as missing are
those that the documentation calls required and for which the request offers no usable value, each
with its documented type. If the request is verified, what is delivered for a documented parameter
without a usable value is the documented default, and nothing if there is none; and what is delivered
is attached under the documented slot before anybody else has the request. -/
theorem doc_enforced {settings : Settings} {start : RouteTable} {calls : List Call}
    (unvalidated : ∀ call ∈ calls, call.Unvalidated settings) {path method : String}
    {file : ByName Endpoint} {e : Endpoint}
    (there : (Router.afterAll { settings := settings, table := start } calls).endpoints.get? path
      = some file)
    (filed : file.get? method = some e) (distinct : (e.parameters.map Prod.fst).Nodup)
    (request : Request) :
    (∀ name type,
      (∃ failures, e.verify request = .error failures ∧
        failures.get? name = some ⟨type, .missing⟩) ↔
      ∃ rule, e.doc.rule? name = some rule ∧ rule.required = true ∧
        e.doc.Lacks request name rule ∧ rule.shape.type = type) ∧
    ∀ values, e.verify request = .ok values →
      (∀ name rule, e.doc.rule? name = some rule → e.doc.Lacks request name rule →
        values.get? name = rule.default) ∧
      ∃ ready : Request, ready.attached.get? e.doc.slot = some values ∧
        ∀ diagnostics,
          match e.successHandler? with
          | some handler =>
            (e.handle diagnostics request).verdict = (handler values ready).verdict ∧
            (e.handle diagnostics request).request
              = ready.attachAll (handler values ready).attachments
          | none =>
            (e.handle diagnostics request).verdict = .proceed ∧
            (e.handle diagnostics request).request = ready := by
  have reflects := (reflects_start settings start).afterAll calls
  rw [List.nil_append] at reflects
  have builtIn : ∀ {name p}, (name, p) ∈ e.parameters → p.callbacks.validate = none :=
    fun declared => reflects.builtIn unvalidated there filed declared
  refine ⟨fun name type => ?_, fun values verified => ⟨fun name rule documented lacks => ?_, ?_⟩⟩
  · rw [Endpoint.reported_iff distinct]
    constructor
    · rintro ⟨p, declared, type, missing⟩
      obtain ⟨required, unusable⟩ := (Endpoint.violation?_eq_missing (builtIn declared)).1 missing
      have documented := (Endpoint.doc_rule?_eq_some distinct).2 ⟨p, declared, rfl⟩
      exact ⟨p.rule, documented, required, Endpoint.usable?_eq_none_iff.1 unusable, type⟩
    · rintro ⟨rule, documented, required, lacks, type⟩
      obtain ⟨p, declared, rfl⟩ := (Endpoint.doc_rule?_eq_some distinct).1 documented
      have unusable := Endpoint.usable?_eq_none_iff.2 lacks
      exact ⟨p, declared, type,
        (Endpoint.violation?_eq_missing (builtIn declared)).2 ⟨required, unusable⟩⟩
  · obtain ⟨p, declared, rfl⟩ := (Endpoint.doc_rule?_eq_some distinct).1 documented
    rw [Endpoint.get?_of_verified distinct declared verified,
      Endpoint.usable?_eq_none_iff.2 lacks, Option.none_or]
  · refine ⟨request.attach e.slot values, ?_, fun diagnostics => ?_⟩
    · show (request.attach e.slot values).attached.get? e.slot = some values
      rw [Request.get?_attach, if_pos rfl]
    · obtain ⟨events, handled⟩ := @Endpoint.handle_verified e diagnostics _ _ verified
      rw [handled]
      cases e.successHandler? with
      | some handler => exact ⟨rfl, rfl⟩
      | none => exact ⟨rfl, rfl⟩

/-- What the query says about exactness does not read, so what the body says is of no use. Without a
title the request is refused, and not for that; with one, the documented default is delivered. -/
theorem doc_enforced_sample :
    let plan : Plan :=
      { parameters :=
          [("title", .shorthand "string"), ("exact", .shorthand "bool(false)"),
            ("lang", .shorthand "string()")]
        order := some ["query", "body"]
        slot := some "search" }
    let exact : Rule :=
      { shape := ⟨.boolean, false⟩, default := some (.boolean false), required := false }
    let e : Endpoint :=
      ⟨none, [("title", ⟨{ shape := ⟨.text, false⟩ }, {}⟩), ("exact", ⟨exact, {}⟩),
        ("lang", ⟨{ shape := ⟨.text, false⟩, required := false }, {}⟩)],
        ["query", "body"], "search", {}⟩
    let calls : List Call := [⟨"get", "/find", .planned plan []⟩, ⟨"get", "/", .plain []⟩]
    let r := ({ settings := {} } : Router).afterAll calls
    let body : Bag := .ofPairs ["exact"] [("exact", .single "true")]
    let untitled : Request :=
      .ofBags "GET" "/find"
        [("query", .ofPairs ["exact"] [("exact", .single "maybe")]), ("body", body)]
    let titled : Request :=
      .ofBags "GET" "/find"
        [("query", .ofPairs ["title", "exact"]
            [("title", .single "lean"), ("exact", .single "maybe")]),
          ("body", body)]
    (∀ call ∈ calls, call.Unvalidated {}) ∧
    (∃ file, r.endpoints.get? "/find" = some file ∧ file.get? "GET" = some e) ∧
    (e.parameters.map Prod.fst).Nodup ∧
    (∃ failures, e.verify untitled = .error failures ∧
      failures.get? "title" = some ⟨.text, .missing⟩) ∧
    (∀ type, ¬ ∃ failures, e.verify untitled = .error failures ∧
      failures.get? "exact" = some ⟨type, .missing⟩) ∧
    ∃ values, e.verify titled = .ok values ∧ values.get? "exact" = some (.boolean false) ∧
      values.get? "lang" = none ∧
      (e.handle .disabled titled).request.attached.get? "search" = some values := by
  intro plan exact e calls r body untitled titled
  have unvalidated : ∀ call ∈ calls, call.Unvalidated {} := by
    intro call member plan' handlers asked
    rcases List.mem_pair.1 member with rfl | rfl
    · cases asked
      exact ⟨rfl, rfl, List.forall_mem_cons.2 ⟨rfl, List.forall_mem_cons.2 ⟨rfl,
        List.forall_mem_singleton.2 rfl⟩⟩⟩
    · cases asked
  have there : r.endpoints.get? "/find" = some (ByName.empty.insert "GET" e) := by
    subst r calls plan
    rfl
  have filed : (ByName.empty.insert "GET" e).get? "GET" = some e := by
    rw [ByName.get?_insert, if_pos rfl]
  have distinct : (e.parameters.map Prod.fst).Nodup := by decide
  have verified : e.verify titled = .ok (e.fill (e.gather titled)) :=
    Endpoint.verify_eq_ok.2 ⟨by decide, rfl⟩
  have unread : e.doc.Lacks titled "exact" exact :=
    @EndpointDoc.Lacks.unread _ _ _ _ [] ["body"] "query" _ (.single "maybe") rfl
      (List.forall_mem_nil _) rfl ⟨List.mem_of_elem_eq_true rfl, rfl⟩ rfl rfl
  have unheld : e.doc.Lacks titled "lang" { shape := ⟨.text, false⟩, required := false } :=
    .unheld (Endpoint.supplied?_eq_none_iff.1 (show e.supplied? titled "lang" = none by decide))
  have withheld : e.doc.Lacks untitled "title" { shape := ⟨.text, false⟩ } :=
    .unheld (Endpoint.supplied?_eq_none_iff.1 (show e.supplied? untitled "title" = none by decide))
  obtain ⟨missing, -⟩ := doc_enforced unvalidated there filed distinct untitled
  obtain ⟨-, delivered⟩ := doc_enforced unvalidated there filed distinct titled
  obtain ⟨filled, ready, attached, handled⟩ := delivered _ verified
  refine ⟨unvalidated, ⟨_, there, filed⟩, distinct, (missing _ _).2 ?_, fun type found => ?_,
    _, verified, ?_, ?_, ?_⟩
  · exact ⟨_, rfl, rfl, withheld, rfl⟩
  · obtain ⟨rule, documented, required, -⟩ := (missing _ _).1 found
    cases documented
    cases required
  · exact filled _ _ rfl unread
  · exact filled _ _ rfl unheld
  · rw [(handled .disabled).2]
    exact attached

end Router
end RequestParams
