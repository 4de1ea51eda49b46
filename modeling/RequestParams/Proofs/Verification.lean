import RequestParams.Proofs.Checking
import RequestParams.Proofs.Gathering
import RequestParams.Proofs.Merging

/-!
# What verification comes to

Verification makes three passes over a request: it gathers values, checks them, and fills in
defaults. Here the passes are put together and stated of the request itself. `usable?` is the value
that a request offers for a parameter; everything else is said in terms of it.

* `verify_end_to_end`: which parameters are at fault, and what is delivered under which key if none
  is. No failure is lost or reported by halves, and nothing else is delivered.
* `verify_delivers_shape`: what is delivered for a parameter is a value of its shape, and only
  parameters that may stay away do.

Checking and filling in disagree about an empty list: the check takes it for unset, filling in takes
it for a value. It never comes up, because nothing that reads is an empty list (`usable?_isEmptyList`).
-/

set_option autoImplicit false

namespace RequestParams.Endpoint

variable {e : Endpoint} {request : Request}

/-- The value that a request offers for a parameter: what is supplied under its name, read by its
rule. -/
def usable? (e : Endpoint) (request : Request) (name : String) (p : Parameter) : Option Value :=
  (e.supplied? request name).bind p.rule.shape.read?

/-- The parameter of a name is at fault, and how. -/
inductive Faulty (e : Endpoint) (request : Request) (name : String) : Failure → Prop where
  | missing {p : Parameter} (declared : (name, p) ∈ e.parameters)
      (builtIn : p.callbacks.validate = none) (lacks : e.usable? request name p = none)
      (required : p.rule.required = true) :
      Faulty e request name ⟨p.rule.shape.type, .missing⟩
  | outOfRange {p : Parameter} {v : Value} {violation : Violation}
      (declared : (name, p) ∈ e.parameters) (builtIn : p.callbacks.validate = none)
      (offers : e.usable? request name p = some v) (breaks : p.rule.BrokenFirst v violation) :
      Faulty e request name ⟨p.rule.shape.type, violation⟩
  | turnedDown {p : Parameter} {validate : Validator} {message : String}
      (declared : (name, p) ∈ e.parameters) (own : p.callbacks.validate = some validate)
      (answers : validate p.rule (e.usable? request name p) = some message)
      (worded : message ≠ "") : Faulty e request name ⟨p.rule.shape.type, .turnedDown message⟩

/-- What is delivered under a key if no parameter is at fault, and where it comes from. -/
inductive Delivered (e : Endpoint) (request : Request) (key : String) : Value → Prop where
  | offered {p : Parameter} {v : Value} (declared : (key, p) ∈ e.parameters)
      (offers : e.usable? request key p = some v) : Delivered e request key v
  | filledIn {p : Parameter} {v : Value} (declared : (key, p) ∈ e.parameters)
      (lacks : e.usable? request key p = none) (default : p.rule.default = some v) :
      Delivered e request key v
  | passedOn {s : String} (undeclared : key ∉ e.parameters.map Prod.fst)
      (supplies : e.supplied? request key = some (.single s)) : Delivered e request key (.text s)
  | passedOnAll {texts : List String} (undeclared : key ∉ e.parameters.map Prod.fst)
      (supplies : e.supplied? request key = some (.many texts)) :
      Delivered e request key (.list (texts.map .text))

/-! ## The passes, name by name -/

theorem get?_gather_declared {name : String} {p : Parameter} (h : e.parameter? name = some p) :
    (e.gather request).get? name = e.usable? request name p := by
  rw [get?_gather]
  unfold readKey
  rw [h]
  rfl

theorem get?_gather_undeclared {name : String} (h : e.parameter? name = none) :
    (e.gather request).get? name = (e.supplied? request name).map Supplied.asText := by
  rw [get?_gather]
  unfold readKey
  rw [h]
  cases e.supplied? request name <;> rfl

/-- A value stays, and where there is none the first default for its name takes its place. -/
theorem get?_fill_first (values : Values) (name : String) :
    (e.fill values).get? name
      = (values.get? name).or
        ((e.parameters.filterMap fun d => d.2.rule.default.map fun v => (d.1, v)).lookup name) := by
  unfold fill
  rw [ByName.get?_foldl_first (fun _ p => p.rule.default)
    (fun values ⟨name, p⟩ => by
      dsimp only
      cases p.rule.default <;> rfl)]

/-- A value stays; where there is none, the default of the parameter takes its place. -/
theorem get?_fill (distinct : (e.parameters.map Prod.fst).Nodup) (values : Values)
    (name : String) :
    (e.fill values).get? name
      = (values.get? name).or ((e.parameter? name).bind fun p => p.rule.default) := by
  rw [get?_fill_first, ByName.lookup_filterMap (fun _ p => p.rule.default) distinct]
  rfl

/-- A request is verified if no parameter is at fault, and then its values are filled in. -/
theorem verify_eq_ok {values : Values} :
    e.verify request = .ok values ↔
      (e.check (e.gather request)).isEmpty = true ∧ e.fill (e.gather request) = values := by
  unfold verify
  by_cases empty : (e.check (e.gather request)).isEmpty = true <;> simp [empty]

theorem verify_eq_error {failures : Failures} :
    e.verify request = .error failures ↔
      (e.check (e.gather request)).isEmpty = false ∧ e.check (e.gather request) = failures := by
  unfold verify
  by_cases empty : (e.check (e.gather request)).isEmpty = true <;> simp [empty]

/-! ## One parameter at a time -/

/-- What reads is never an empty list, so that checking and filling in agree on what is unset. -/
theorem usable?_isEmptyList {name : String} {p : Parameter} {v : Value}
    (h : e.usable? request name p = some v) : v.isEmptyList = false := by
  obtain ⟨supplied, _, reads⟩ := Option.bind_eq_some_iff.1 h
  exact (Shape.read?_admits reads).isEmptyList

/-- Without a validator the built-in rules hold: a usable value is held against the bounds, and only
a required parameter may not do without one. -/
theorem violation?_usable {name : String} {p : Parameter} (builtIn : p.callbacks.validate = none) :
    violation? p (e.usable? request name p) =
      match e.usable? request name p with
      | some v => outOfBounds p.rule v
      | none => if p.rule.required then some .missing else none := by
  cases offers : e.usable? request name p with
  | none => exact violation?_unset builtIn (.inl rfl)
  | some v => exact violation?_some builtIn (usable?_isEmptyList offers)

theorem get?_gather_of_mem (distinct : (e.parameters.map Prod.fst).Nodup) {name : String}
    {p : Parameter} (declared : (name, p) ∈ e.parameters) :
    (e.gather request).get? name = e.usable? request name p :=
  get?_gather_declared ((parameter?_eq_some distinct).2 declared)

theorem get?_check_gather (distinct : (e.parameters.map Prod.fst).Nodup) {name : String}
    {p : Parameter} (declared : (name, p) ∈ e.parameters) :
    (e.check (e.gather request)).get? name =
      (violation? p (e.usable? request name p)).map (Failure.mk p.rule.shape.type) := by
  rw [get?_check distinct, (parameter?_eq_some distinct).2 declared, Option.bind_some,
    get?_gather_of_mem distinct declared]

theorem get?_fill_gather (distinct : (e.parameters.map Prod.fst).Nodup) {name : String}
    {p : Parameter} (declared : (name, p) ∈ e.parameters) :
    (e.fill (e.gather request)).get? name = (e.usable? request name p).or p.rule.default := by
  rw [get?_fill distinct, (parameter?_eq_some distinct).2 declared, Option.bind_some,
    get?_gather_of_mem distinct declared]

/-- Nobody fills in what nobody declared. -/
theorem get?_fill_undeclared (distinct : (e.parameters.map Prod.fst).Nodup) {name : String}
    (undeclared : name ∉ e.parameters.map Prod.fst) :
    (e.fill (e.gather request)).get? name = (e.supplied? request name).map Supplied.asText := by
  have known := parameter?_eq_none.2 undeclared
  rw [get?_fill distinct, get?_gather_undeclared known, known, Option.bind_none, Option.or_none]

/-! ## What a verdict says about a parameter -/

theorem get?_of_refused (distinct : (e.parameters.map Prod.fst).Nodup) {name : String}
    {p : Parameter} (declared : (name, p) ∈ e.parameters) {failures : Failures}
    (refused : e.verify request = .error failures) :
    failures.get? name =
      (violation? p (e.usable? request name p)).map (Failure.mk p.rule.shape.type) := by
  obtain ⟨-, rfl⟩ := verify_eq_error.1 refused
  exact get?_check_gather distinct declared

theorem get?_of_verified (distinct : (e.parameters.map Prod.fst).Nodup) {name : String}
    {p : Parameter} (declared : (name, p) ∈ e.parameters) {values : Values}
    (verified : e.verify request = .ok values) :
    values.get? name = (e.usable? request name p).or p.rule.default := by
  obtain ⟨-, rfl⟩ := verify_eq_ok.1 verified
  exact get?_fill_gather distinct declared

theorem violation?_of_verified (distinct : (e.parameters.map Prod.fst).Nodup) {name : String}
    {p : Parameter} (declared : (name, p) ∈ e.parameters) {values : Values}
    (verified : e.verify request = .ok values) :
    violation? p (e.usable? request name p) = none := by
  obtain ⟨none, -⟩ := verify_eq_ok.1 verified
  have absent := (ByName.isEmpty_iff _).1 none name
  rw [get?_check_gather distinct declared] at absent
  exact Option.map_eq_none_iff.1 absent

/-- One parameter at fault is enough, and the others do not hide it. -/
theorem refused_of_violation (distinct : (e.parameters.map Prod.fst).Nodup) {name : String}
    {p : Parameter} (declared : (name, p) ∈ e.parameters) {violation : Violation}
    (broken : violation? p (e.usable? request name p) = some violation) :
    ∃ failures, e.verify request = .error failures ∧
      failures.get? name = some ⟨p.rule.shape.type, violation⟩ := by
  cases verdict : e.verify request with
  | error failures =>
    refine ⟨failures, rfl, ?_⟩
    rw [get?_of_refused distinct declared verdict, broken]
    rfl
  | ok values =>
    rw [violation?_of_verified distinct declared verdict] at broken
    cases broken

/-! ## All parameters -/

/-- The check finds every fault, and nothing but faults. -/
theorem check_gather_eq_some (distinct : (e.parameters.map Prod.fst).Nodup) {name : String}
    {failure : Failure} :
    (e.check (e.gather request)).get? name = some failure ↔ e.Faulty request name failure := by
  rw [check_eq_some distinct]
  constructor
  · rintro ⟨p, violation, declared, fault, rfl⟩
    rw [get?_gather_of_mem distinct declared] at fault
    cases fault with
    | turnedDown own answers worded => exact .turnedDown declared own answers worded
    | missing builtIn unset required =>
      rcases unset with lacks | empty
      · exact .missing declared builtIn lacks required
      · -- The check would take an empty list for unset, but none is ever read.
        cases usable?_isEmptyList empty
    | outOfBounds builtIn set filled broken => exact .outOfRange declared builtIn set broken
  · intro faulty
    cases faulty with
    | missing declared builtIn lacks required =>
      rw [← get?_gather_of_mem distinct declared] at lacks
      exact ⟨_, _, declared, .missing builtIn (.inl lacks) required, rfl⟩
    | outOfRange declared builtIn offers breaks =>
      have filled := Value.isEmptyList_eq_false_iff.1 (usable?_isEmptyList offers)
      rw [← get?_gather_of_mem distinct declared] at offers
      exact ⟨_, _, declared, .outOfBounds builtIn offers filled breaks, rfl⟩
    | turnedDown declared own answers worded =>
      rw [← get?_gather_of_mem distinct declared] at answers
      exact ⟨_, _, declared, .turnedDown own answers worded, rfl⟩

theorem fill_gather_eq_some (distinct : (e.parameters.map Prod.fst).Nodup) {key : String}
    {v : Value} :
    (e.fill (e.gather request)).get? key = some v ↔ e.Delivered request key v := by
  constructor
  · -- Whether the key is declared decides who speaks for it.
    intro found
    cases known : e.parameter? key with
    | some p =>
      have declared := (parameter?_eq_some distinct).1 known
      rw [get?_fill_gather distinct declared, Option.or_eq_some_iff] at found
      rcases found with offers | ⟨lacks, default⟩
      · exact .offered declared offers
      · exact .filledIn declared lacks default
    | none =>
      have undeclared := parameter?_eq_none.1 known
      rw [get?_fill_undeclared distinct undeclared] at found
      obtain ⟨supplied, supplies, rfl⟩ := Option.map_eq_some_iff.1 found
      cases supplied with
      | single s => exact .passedOn undeclared supplies
      | many texts => exact .passedOnAll undeclared supplies
  · intro delivered
    cases delivered with
    | offered declared offers =>
      rw [get?_fill_gather distinct declared, offers, Option.some_or]
    | filledIn declared lacks default =>
      rw [get?_fill_gather distinct declared, lacks, Option.none_or, default]
    | passedOn undeclared supplies =>
      rw [get?_fill_undeclared distinct undeclared, supplies]
      rfl
    | passedOnAll undeclared supplies =>
      rw [get?_fill_undeclared distinct undeclared, supplies]
      rfl

theorem exists_faulty (distinct : (e.parameters.map Prod.fst).Nodup) {failures : Failures}
    (refused : e.verify request = .error failures) :
    ∃ name failure, e.Faulty request name failure := by
  obtain ⟨some, -⟩ := verify_eq_error.1 refused
  by_contra blameless
  have none : (e.check (e.gather request)).isEmpty = true := by
    refine (ByName.isEmpty_iff _).2 fun name => Option.eq_none_iff_forall_ne_some.2 ?_
    intro failure found
    exact blameless ⟨name, failure, (check_gather_eq_some distinct).1 found⟩
  rw [none] at some
  cases some

/-! ## What is reported and what is delivered -/

/-- **Verification, end to end.** A parameter without a validator falls under exactly one of three
cases: it is offered a usable value, which is held against its bounds and otherwise delivered as it
is; it is offered none and is required, and is reported as missing; or it is offered none and is
optional, and its default is delivered, if it has one. Over all parameters, either every fault is
reported, and there is one, or there is none, and everything that is `Delivered` is.

Checking and filling in agree on what is unset: a declared parameter is never gathered as an empty
list. -/
theorem verify_end_to_end {settings : Settings} {plan : Plan}
    (distinct : (plan.parameters.map Prod.fst).Nodup) (compiled : ofPlan settings plan = .ok e)
    (request : Request) :
    (∀ name p, (name, p) ∈ e.parameters → p.callbacks.validate = none →
      match e.usable? request name p, p.rule.required with
      | some v, _ =>
        (∀ failures, e.verify request = .error failures → ∀ failure,
          failures.get? name = some failure ↔
            ∃ violation, p.rule.BrokenFirst v violation ∧
              failure = ⟨p.rule.shape.type, violation⟩) ∧
        ∀ values, e.verify request = .ok values →
          (∀ violation, ¬ p.rule.BrokenFirst v violation) ∧ values.get? name = some v
      | none, true =>
        ∃ failures, e.verify request = .error failures ∧
          failures.get? name = some ⟨p.rule.shape.type, .missing⟩
      | none, false =>
        (∀ failures, e.verify request = .error failures → failures.get? name = none) ∧
        ∀ values, e.verify request = .ok values → values.get? name = p.rule.default) ∧
    (match e.verify request with
      | .error failures =>
        (∃ name failure, e.Faulty request name failure) ∧
        ∀ name failure, failures.get? name = some failure ↔ e.Faulty request name failure
      | .ok values =>
        (∀ name failure, ¬ e.Faulty request name failure) ∧
        ∀ key v, values.get? key = some v ↔ e.Delivered request key v) ∧
    ∀ name p v, (name, p) ∈ e.parameters → (e.gather request).get? name = some v →
      v.isEmptyList = false := by
  have distinct := (ofPlan_layers compiled).nodup_names distinct
  refine ⟨fun name p declared builtIn => ?_, ?_, fun name p v declared gathered => ?_⟩
  · cases offers : e.usable? request name p with
    | some v =>
      have bounds : violation? p (some v) = outOfBounds p.rule v := by
        rw [← offers, violation?_usable builtIn, offers]
      refine ⟨fun failures refused failure => ?_, fun values verified => ⟨?_, ?_⟩⟩
      · rw [get?_of_refused distinct declared refused, offers, bounds, Option.map_eq_some_iff]
        exact exists_congr fun violation => and_congr outOfBounds_eq_some eq_comm
      · rw [← outOfBounds_eq_none, ← bounds, ← offers,
          violation?_of_verified distinct declared verified]
      · rw [get?_of_verified distinct declared verified, offers, Option.some_or]
    | none =>
      cases required : p.rule.required with
      | true =>
        refine refused_of_violation distinct declared ?_
        rw [violation?_usable builtIn, offers, required]
        rfl
      | false =>
        have fine : violation? p none = none := by
          rw [← offers, violation?_usable builtIn, offers, required]
          rfl
        refine ⟨fun failures refused => ?_, fun values verified => ?_⟩
        · rw [get?_of_refused distinct declared refused, offers, fine, Option.map_none]
        · rw [get?_of_verified distinct declared verified, offers, Option.none_or]
  · cases verdict : e.verify request with
    | error failures =>
      refine ⟨exists_faulty distinct verdict, fun name failure => ?_⟩
      rw [← (verify_eq_error.1 verdict).2]
      exact check_gather_eq_some distinct
    | ok values =>
      obtain ⟨none, rfl⟩ := verify_eq_ok.1 verdict
      refine ⟨fun name failure faulty => ?_, fun key v => fill_gather_eq_some distinct⟩
      rw [← check_gather_eq_some distinct, (ByName.isEmpty_iff _).1 none] at faulty
      cases faulty
  · rw [get?_gather_of_mem distinct declared] at gathered
    exact usable?_isEmptyList gathered

/-- A search is refused for the lack of a query, for a limit that is too great and for a code that
is too short, each on its own, but not for the page that it does not give either. Within the bounds
limit and codes are delivered as they are, the page is filled in, the language stays away, and what
nobody declared is passed on, be it one text or several. -/
theorem verify_end_to_end_sample :
    let plan : Plan :=
      { parameters :=
          [("q", .shorthand "string"), ("page", .shorthand "string(first)"),
            ("limit", .blueprint
              { token := "integer", required := some (.boolean false)
                greatest := some (.ofNat 100) }),
            ("codes", .blueprint
              { token := "string", required := some (.boolean false)
                list := some (.boolean true), least := some (.ofNat 2) }),
            ("lang", .shorthand "string()")] }
    let text : Shape := ⟨.text, false⟩
    let limit : Parameter :=
      ⟨{ shape := ⟨.integer, false⟩, required := false, greatest := some (.ofNat 100) }, {}⟩
    let codes : Parameter :=
      ⟨{ shape := ⟨.text, true⟩, required := false, least := some (.ofNat 2) }, {}⟩
    let e : Endpoint :=
      ⟨none, [("q", ⟨{ shape := text }, {}⟩),
        ("page", ⟨{ shape := text, default := some (.text "first"), required := false }, {}⟩),
        ("limit", limit), ("codes", codes), ("lang", ⟨{ shape := text, required := false }, {}⟩)],
        defaultOrder, defaultSlot, {}⟩
    let request (pairs : List (String × Supplied)) : Request :=
      .ofBags "GET" "/find" [("query", .ofPairs (pairs.map Prod.fst) pairs)]
    let wrong := request [("limit", .single "101"), ("codes", .many ["ab", "c"])]
    let right := request
      [("sort", .many ["a", ""]), ("q", .single "b"), ("limit", .single "100"),
        ("codes", .single "ab,cde"), ("note", .single " as is ")]
    (plan.parameters.map Prod.fst).Nodup ∧ ofPlan {} plan = .ok e ∧
      (∃ failures, e.verify wrong = .error failures ∧
        failures.get? "q" = some ⟨.text, .missing⟩ ∧
        failures.get? "limit" = some ⟨.integer, .aboveGreatest (.ofNat 100)⟩ ∧
        failures.get? "codes" = some ⟨.text, .belowLeast (.ofNat 2)⟩ ∧
        failures.get? "page" = none) ∧
      ∃ values, e.verify right = .ok values ∧
        values.get? "q" = some (.text "b") ∧ values.get? "page" = some (.text "first") ∧
        values.get? "limit" = some (.number (.ofNat 100)) ∧
        values.get? "codes" = some (.list [.text "ab", .text "cde"]) ∧
        values.get? "lang" = none ∧ values.get? "note" = some (.text " as is ") ∧
        values.get? "sort" = some (.list [.text "a", .text ""]) := by
  intro plan text limit codes e request wrong right
  have distinct : (plan.parameters.map Prod.fst).Nodup := by decide
  have compiled : ofPlan {} plan = .ok e := rfl
  have first : ("q", _) ∈ e.parameters := .head _
  have second : ("page", _) ∈ e.parameters := .tail _ (.head _)
  have third : ("limit", limit) ∈ e.parameters := .tail _ (.tail _ (.head _))
  have fourth : ("codes", codes) ∈ e.parameters := .tail _ (.tail _ (.tail _ (.head _)))
  have fifth : ("lang", _) ∈ e.parameters := .tail _ (.tail _ (.tail _ (.tail _ (.head _))))
  refine ⟨distinct, compiled, ?_, ?_⟩
  · obtain ⟨each, -, -⟩ := verify_end_to_end distinct compiled wrong
    obtain ⟨failures, refused, missing⟩ := each "q" _ first rfl
    have great : e.usable? wrong "limit" limit = some (.number (.ofNat 101)) := by decide +kernel
    have short : e.usable? wrong "codes" codes = some (.list [.text "ab", .text "c"]) := rfl
    have above := great ▸ each "limit" limit third rfl
    have below := short ▸ each "codes" codes fourth rfl
    refine ⟨failures, refused, missing, (above.1 failures refused _).2 ⟨_, ?_, rfl⟩,
      (below.1 failures refused _).2 ⟨_, ?_, rfl⟩, (each "page" _ second rfl).1 failures refused⟩
    · exact ⟨[], .ofNat 101, [], rfl, List.forall_mem_nil _, .above rfl (by decide +kernel)⟩
    · refine ⟨[.ofNat 2], .ofNat 1, [], rfl, fun earlier member => ?_, .below ?_ rfl ?_⟩
      · rw [List.mem_singleton.1 member]
        exact Rule.broken?_eq_none.1 (by decide +kernel)
      · intro greatest set
        cases set
      · decide +kernel
  · obtain ⟨each, rest⟩ := verify_end_to_end distinct compiled right
    have verified : e.verify right = .ok (e.fill (e.gather right)) :=
      verify_eq_ok.2 ⟨by decide +kernel, rfl⟩
    rw [verified] at rest
    obtain ⟨all, -⟩ := rest
    have within : e.usable? right "limit" limit = some (.number (.ofNat 100)) := by decide +kernel
    have limited := within ▸ each "limit" limit third rfl
    have long : e.usable? right "codes" codes = some (.list [.text "ab", .text "cde"]) := rfl
    have coded := long ▸ each "codes" codes fourth rfl
    have noted : e.Delivered right "note" (.text " as is ") := .passedOn (by decide) rfl
    have sorted : e.Delivered right "sort" (.list (["a", ""].map .text)) :=
      .passedOnAll (by decide) rfl
    exact ⟨_, verified, ((each "q" _ first rfl).2 _ verified).2,
      (each "page" _ second rfl).2 _ verified, (limited.2 _ verified).2, (coded.2 _ verified).2,
      (each "lang" _ fifth rfl).2 _ verified, (all.2 _ _).2 noted, (all.2 _ _).2 sorted⟩

/-- **What is delivered for a parameter is a value of its shape**, wherever it comes from: supplied as
one text or as several, or filled in from a default in any form. A parameter for which nothing is
delivered has no default, and it is optional unless its own validator let it pass. -/
theorem verify_delivers_shape {settings : Settings} {plan : Plan}
    (distinct : (plan.parameters.map Prod.fst).Nodup) (compiled : ofPlan settings plan = .ok e)
    {values : Values} (verified : e.verify request = .ok values) {name : String} {p : Parameter}
    (declared : (name, p) ∈ e.parameters) :
    match values.get? name with
    | some v => p.rule.shape.Admits v
    | none => p.rule.default = none ∧
      (p.rule.required = false ∨ p.callbacks.validate.isSome = true) := by
  have layers := ofPlan_layers compiled
  have distinct := layers.nodup_names distinct
  rw [get?_of_verified distinct declared verified]
  cases offers : e.usable? request name p with
  | some v =>
    obtain ⟨supplied, -, reads⟩ := Option.bind_eq_some_iff.1 offers
    exact Shape.read?_admits reads
  | none =>
    rw [Option.none_or]
    cases filled : p.rule.default with
    | some v => exact layers.default_admits declared v filled
    | none =>
      refine ⟨rfl, ?_⟩
      -- Nothing is offered and nothing filled in, so only the check can speak for the parameter.
      cases own : p.callbacks.validate with
      | some validate => exact .inr rfl
      | none =>
        have unbroken := violation?_of_verified distinct declared verified
        rw [violation?_usable own, offers] at unbroken
        cases required : p.rule.required with
        | true =>
          rw [required] at unbroken
          cases unbroken
        | false => exact .inl rfl

/-- A list without its empty texts, a default, and a required parameter whose validator lets it stay
away. -/
theorem verify_delivers_shape_sample :
    let plan : Plan :=
      { parameters :=
          [("tags", .shorthand "string[]()"), ("page", .json (.string "string(first)")),
            ("key", .blueprint
              { token := "string", callbacks := { validate := some fun _ _ => none } })] }
    let text : Shape := ⟨.text, false⟩
    let texts : Shape := ⟨.text, true⟩
    let e : Endpoint :=
      ⟨none, [("tags", ⟨{ shape := texts, required := false }, {}⟩),
        ("page", ⟨{ shape := text, default := some (.text "first"), required := false }, {}⟩),
        ("key", ⟨{ shape := text }, { validate := some fun _ _ => none }⟩)],
        defaultOrder, defaultSlot, {}⟩
    let request : Request :=
      .ofBags "GET" "/find" [("query", .ofPairs ["tags"] [("tags", .many ["", "a"])])]
    (plan.parameters.map Prod.fst).Nodup ∧ ofPlan {} plan = .ok e ∧
      ∃ values, e.verify request = .ok values ∧
        values.get? "tags" = some (.list [.text "a"]) ∧ texts.Admits (.list [.text "a"]) ∧
        values.get? "page" = some (.text "first") ∧ text.Admits (.text "first") ∧
        values.get? "key" = none := by
  intro plan text texts e request
  have distinct : (plan.parameters.map Prod.fst).Nodup := by decide
  have compiled : ofPlan {} plan = .ok e := rfl
  have verified : e.verify request = .ok (e.fill (e.gather request)) :=
    verify_eq_ok.2 ⟨by decide, rfl⟩
  have tags : (e.fill (e.gather request)).get? "tags" = some (.list [.text "a"]) := by decide
  have page : (e.fill (e.gather request)).get? "page" = some (.text "first") := by decide
  have first : ("tags", _) ∈ e.parameters := List.mem_cons_self
  have second : ("page", _) ∈ e.parameters := List.mem_cons_of_mem _ List.mem_cons_self
  have list := verify_delivers_shape distinct compiled verified first
  have filledIn := verify_delivers_shape distinct compiled verified second
  rw [tags] at list
  rw [page] at filledIn
  exact ⟨distinct, compiled, _, verified, tags, list, page, filledIn, by decide⟩

end RequestParams.Endpoint
