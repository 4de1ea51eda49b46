import Mathlib.Data.List.Nodup
import RequestParams.Proofs.Checking
import RequestParams.Proofs.Dispatching

/-!
# What a refusal gives away

A refused request has values that did not pass, and these must not come back to whoever reads the
reply or the log. So two requests are compared that are refused, one by one endpoint and one by
another, and it is said how much the endpoints and the failures have to have in common for the
replies and the events to be the same (`refusals_alike`). Whatever they need not have in common
cannot be read off.

The reply without diagnostics needs nothing, and the events need the names that failed. The reply
with diagnostics lists bounds, which are the declared ones as long as no validator has a say: the
violation of a parameter is made up from its rule and the kind of the violation
(`Parameter.AtFault.eq_of_kind`).
-/

set_option autoImplicit false

namespace RequestParams

/-! ## Kinds of violations -/

/-- What is wrong, without the bound that is broken and without the words of a validator. -/
inductive Violation.Kind where
  | missing
  | aboveGreatest
  | belowLeast
  | turnedDown
deriving DecidableEq

def Violation.kind : Violation → Kind
  | missing => .missing
  | aboveGreatest _ => .aboveGreatest
  | belowLeast _ => .belowLeast
  | turnedDown _ => .turnedDown

/-- Two rules declare the same type and the same bounds. -/
structure Rule.DeclaredLike (rule other : Rule) : Prop where
  type : rule.shape.type = other.shape.type
  greatest : rule.greatest = other.greatest
  least : rule.least = other.least

theorem Rule.BrokenBy.eq_of_kind {rule other : Rule} (alike : rule.DeclaredLike other)
    {measure measure' : Binary64} {violation violation' : Violation}
    (h : rule.BrokenBy measure violation) (h' : other.BrokenBy measure' violation')
    (kind : violation.kind = violation'.kind) : violation = violation' := by
  cases h with
  | above set exceeds =>
    cases h' with
    | above set' exceeds' =>
      rw [alike.greatest, set'] at set
      rw [Option.some.inj set]
    | below => cases kind
  | below within set short =>
    cases h' with
    | above => cases kind
    | below within' set' short' =>
      rw [alike.least, set'] at set
      rw [Option.some.inj set]

theorem Rule.BrokenBy.kind_ne_missing {rule : Rule} {measure : Binary64} {violation : Violation}
    (h : rule.BrokenBy measure violation) : violation.kind ≠ .missing := by
  intro kind
  cases h with
  | above => cases kind
  | below => cases kind

/-- Without a validator a value is missing, or it breaks a bound. -/
theorem Parameter.AtFault.missing_or_broken {p : Parameter} (builtIn : p.callbacks.validate = none)
    {offered : Option Value} {violation : Violation} (h : p.AtFault offered violation) :
    violation = .missing ∨ ∃ measure, p.rule.BrokenBy measure violation := by
  cases h with
  | turnedDown own =>
    rw [builtIn] at own
    cases own
  | missing => exact .inl rfl
  | outOfBounds _ _ _ broken =>
    obtain ⟨-, measure, -, -, -, broken⟩ := broken
    exact .inr ⟨measure, broken⟩

/-- Without a validator the kind of a violation and the rule tell all about it. -/
theorem Parameter.AtFault.eq_of_kind {p p' : Parameter} (builtIn : p.callbacks.validate = none)
    (builtIn' : p'.callbacks.validate = none) (alike : p.rule.DeclaredLike p'.rule)
    {offered offered' : Option Value} {violation violation' : Violation}
    (h : p.AtFault offered violation) (h' : p'.AtFault offered' violation')
    (kind : violation.kind = violation'.kind) : violation = violation' := by
  rcases h.missing_or_broken builtIn with rfl | ⟨measure, broken⟩
  · rcases h'.missing_or_broken builtIn' with rfl | ⟨measure', broken'⟩
    · rfl
    · exact absurd kind.symm broken'.kind_ne_missing
  · rcases h'.missing_or_broken builtIn' with rfl | ⟨measure', broken'⟩
    · exact absurd kind broken.kind_ne_missing
    · exact broken.eq_of_kind alike broken' kind

namespace Endpoint

variable {e e' : Endpoint} {request other : Request} {failures failures' : Failures}

/-! ## One refusal -/

/-- What is logged of a refused request. -/
def refusedEvent (request : Request) (failures : Failures) : Event :=
  ⟨.debug, request.method, request.path,
    "rejected parameters: " ++ ", ".intercalate failures.names⟩

theorem handle_unhandled (unhandled : e.Unhandled) (refused : e.verify request = .error failures)
    (diagnostics : Diagnostics) :
    e.handle diagnostics request
      = ⟨.respond (refusal failures diagnostics), request, [refusedEvent request failures]⟩ := by
  unfold handle
  rw [refused]
  dsimp only
  rw [unhandled.failureHandler?]
  rfl

/-- A failure on file is that of a declared parameter. -/
theorem atFault_of_refused (distinct : (e.parameters.map Prod.fst).Nodup)
    (refused : e.verify request = .error failures) {name : String} {failure : Failure}
    (found : failures.get? name = some failure) :
    ∃ p violation, (name, p) ∈ e.parameters ∧
      p.AtFault ((e.gather request).get? name) violation ∧
      failure = ⟨p.rule.shape.type, violation⟩ := by
  obtain ⟨-, rfl⟩ := verify_eq_error.1 refused
  exact (check_eq_some distinct).1 found

/-! ## Two refusals -/

/-- An endpoint declares nothing twice under one name. -/
theorem declaredLike_self (distinct : (e.parameters.map Prod.fst).Nodup) {name : String}
    {p p' : Parameter} (declared : (name, p) ∈ e.parameters) (declared' : (name, p') ∈ e.parameters) :
    p.rule.DeclaredLike p'.rule := by
  have known := (parameter?_eq_some distinct).2 declared
  rw [(parameter?_eq_some distinct).2 declared'] at known
  obtain rfl := Option.some.inj known
  exact ⟨rfl, rfl, rfl⟩

/-- What the failures of two refusals have to have in common for the replies to be the same: the
kinds, name by name, and what is declared under the names that failed. -/
theorem failures_eq (distinct : (e.parameters.map Prod.fst).Nodup)
    (distinct' : (e'.parameters.map Prod.fst).Nodup)
    (builtIn : ∀ declared ∈ e.parameters, declared.2.callbacks.validate = none)
    (builtIn' : ∀ declared ∈ e'.parameters, declared.2.callbacks.validate = none)
    (refused : e.verify request = .error failures) (refused' : e'.verify other = .error failures')
    (alike : ∀ name p p', failures.contains name = true → (name, p) ∈ e.parameters →
      (name, p') ∈ e'.parameters → p.rule.DeclaredLike p'.rule)
    (kinds : ∀ name, (failures.get? name).map (·.violation.kind)
      = (failures'.get? name).map (·.violation.kind)) : failures = failures' := by
  refine ByName.ext_get? fun name => ?_
  have kind := kinds name
  cases found : failures.get? name with
  | none =>
    rw [found, Option.map_none] at kind
    exact (Option.map_eq_none_iff.1 kind.symm).symm
  | some failure =>
    rw [found, Option.map_some] at kind
    obtain ⟨failure', found', kind⟩ := Option.map_eq_some_iff.1 kind.symm
    have failed : failures.contains name = true := Option.isSome_iff_exists.2 ⟨failure, found⟩
    obtain ⟨p, violation, declared, fault, rfl⟩ := atFault_of_refused distinct refused found
    obtain ⟨p', violation', declared', fault', rfl⟩ := atFault_of_refused distinct' refused' found'
    have same := alike name p p' failed declared declared'
    have violations :=
      fault.eq_of_kind (builtIn _ declared) (builtIn' _ declared') same fault' kind.symm
    rw [found', same.type, violations]

/-- **What two refusals have in common.** Let two requests of one method and path be refused, each by
an endpoint without failure handlers; it may be one endpoint for both. Without diagnostics the reply
is the same 422, whatever the requests and the endpoints are. The events are the same if the same
names failed, whatever the values and whatever validators say of them. With diagnostics, and where no
validator has a say, the replies are the same if the same names failed in the same way and if the
endpoints declare the same types and bounds under these names, as every endpoint does with itself
(`declaredLike_self`). And nothing is attached to either request. -/
theorem refusals_alike (distinct : (e.parameters.map Prod.fst).Nodup)
    (distinct' : (e'.parameters.map Prod.fst).Nodup) (unhandled : e.Unhandled)
    (unhandled' : e'.Unhandled) (method : request.method = other.method)
    (path : request.path = other.path) (refused : e.verify request = .error failures)
    (refused' : e'.verify other = .error failures') :
    ((e.handle .disabled request).verdict = .respond ⟨422, none⟩ ∧
      (e'.handle .disabled other).verdict = .respond ⟨422, none⟩) ∧
    ((∀ name, failures.contains name = failures'.contains name) →
      ∀ diagnostics diagnostics', (e.handle diagnostics request).events
        = (e'.handle diagnostics' other).events) ∧
    ((∀ declared ∈ e.parameters, declared.2.callbacks.validate = none) →
      (∀ declared ∈ e'.parameters, declared.2.callbacks.validate = none) →
      (∀ name p p', failures.contains name = true → (name, p) ∈ e.parameters →
        (name, p') ∈ e'.parameters → p.rule.DeclaredLike p'.rule) →
      (∀ name, (failures.get? name).map (·.violation.kind)
        = (failures'.get? name).map (·.violation.kind)) →
      (e.handle .enabled request).verdict = (e'.handle .enabled other).verdict) ∧
    ∀ diagnostics, (e.handle diagnostics request).request = request ∧
      (e'.handle diagnostics other).request = other := by
  have handled := handle_unhandled unhandled refused
  have handled' := handle_unhandled unhandled' refused'
  refine ⟨⟨?_, ?_⟩, fun names diagnostics diagnostics' => ?_,
    fun builtIn builtIn' alike kinds => ?_, fun diagnostics => ⟨?_, ?_⟩⟩
  · rw [handled]
    rfl
  · rw [handled']
    rfl
  · rw [handled, handled']
    unfold refusedEvent
    rw [method, path, ByName.names_eq_of_contains names]
  · rw [handled, handled']
    rw [failures_eq distinct distinct' builtIn builtIn' refused refused' alike kinds]
  · rw [handled]
  · rw [handled']

/-- Two secrets that are refused for their length, by one endpoint: the replies and the events are
the same. And a validator that repeats a secret: of two of them the replies without diagnostics and
the events are the same, and no more than the name of the parameter is logged. -/
theorem refusals_alike_sample :
    let brief : Parameter := ⟨{ shape := ⟨.text, false⟩, greatest := some (.ofNat 3) }, {}⟩
    let e : Endpoint := ⟨none, [("key", brief)], defaultOrder, defaultSlot, {}⟩
    let repeats : Validator := fun _ value => (value.map Value.display).map ("no: " ++ ·)
    let e' : Endpoint :=
      ⟨none, [("key", { brief with callbacks := { validate := some repeats } })],
        defaultOrder, defaultSlot, {}⟩
    let request (secret : String) : Request :=
      .ofBags "GET" "/x" [("query", .ofPairs ["key"] [("key", .single secret)])]
    (e.handle .enabled (request "hunter2")).verdict
        = (e.handle .enabled (request "letmein")).verdict ∧
      (e.handle .enabled (request "hunter2")).events
        = (e.handle .disabled (request "letmein")).events ∧
      (e'.handle .disabled (request "hunter2")).verdict = .respond ⟨422, none⟩ ∧
      (e'.handle .enabled (request "hunter2")).events
        = (e'.handle .enabled (request "letmein")).events ∧
      (e'.handle .enabled (request "hunter2")).request = request "hunter2" ∧
      (e'.handle .enabled (request "hunter2")).events
        = [⟨.debug, "GET", "/x", "rejected parameters: key"⟩] := by
  intro brief e repeats e' request
  have long : ∀ secret ∈ ["hunter2", "letmein"], e.verify (request secret)
      = .error (ByName.ofList [("key", ⟨.text, .aboveGreatest (.ofNat 3)⟩)]) := by
    intro secret member
    rcases List.mem_pair.1 member with rfl | rfl
    · exact verify_eq_error.2 ⟨by decide +kernel, by decide +kernel⟩
    · exact verify_eq_error.2 ⟨by decide +kernel, by decide +kernel⟩
  have repeated : ∀ secret ∈ ["hunter2", "letmein"], e'.verify (request secret)
      = .error (ByName.ofList [("key", ⟨.text, .turnedDown ("no: " ++ secret)⟩)]) := by
    intro secret member
    rcases List.mem_pair.1 member with rfl | rfl
    · exact verify_eq_error.2 ⟨by decide +kernel, by decide +kernel⟩
    · exact verify_eq_error.2 ⟨by decide +kernel, by decide +kernel⟩
  have distinct : (e.parameters.map Prod.fst).Nodup := List.nodup_singleton _
  have distinct' : (e'.parameters.map Prod.fst).Nodup := List.nodup_singleton _
  have unhandled : e.Unhandled := ⟨List.forall_mem_singleton.2 rfl, rfl⟩
  have unhandled' : e'.Unhandled := ⟨List.forall_mem_singleton.2 rfl, rfl⟩
  obtain ⟨-, logged, replied, -⟩ := refusals_alike distinct distinct unhandled unhandled
    (by rfl) (by rfl) (long "hunter2" (by decide)) (long "letmein" (by decide))
  obtain ⟨⟨silent, -⟩, logged', -, untouched⟩ := refusals_alike distinct' distinct' unhandled'
    unhandled' (by rfl) (by rfl) (repeated "hunter2" (by decide)) (repeated "letmein" (by decide))
  have builtIn : ∀ declared ∈ e.parameters, declared.2.callbacks.validate = none :=
    List.forall_mem_singleton.2 rfl
  have reply := replied builtIn builtIn (fun _ _ _ _ => declaredLike_self distinct) fun _ => rfl
  refine ⟨reply, logged (fun _ => rfl) _ _, silent, logged' ?_ _ _, (untouched _).1, ?_⟩
  · intro name
    refine Bool.eq_iff_iff.2 ?_
    rw [ByName.contains_iff_mem_names, ByName.contains_iff_mem_names]
    exact Iff.rfl
  · rw [handle_unhandled unhandled' (repeated "hunter2" (by decide))]
    rfl

end Endpoint
end RequestParams
