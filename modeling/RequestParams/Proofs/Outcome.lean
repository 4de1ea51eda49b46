import RequestParams.Endpoint.Outcome
import RequestParams.Proofs.Verification

/-!
# Who answers a request

Three layers may supply handlers: a parameter, its endpoint, and the settings around it. Compiling
merges the last two and leaves the first alone, so which handler answers has to be said of the plan
and the settings as they were written, and not of the compiled endpoint. `Chosen` does so, and
`handle_by_layers` is the statement: which handler is called, with what, on which request, and what
happens where nobody has a handler.

A handler is an arbitrary function here. That the outcome is what it answers, whatever it answers,
is how it is said that it is called, once, and with these arguments.
-/

set_option autoImplicit false

namespace RequestParams

/-! ## Who has the say -/

/-- The choice among layers: the first parameter, in the order of declaration, that has something of
its `own`; if there is none, the plan has the say, then the settings, and then nobody. -/
inductive Chosen {α : Type} (settings : Settings) (plan : Plan)
    (own : String × Declaration → Option α) (layer : Callbacks → Option α) : Option α → Prop where
  | ofParameter {before after : List (String × Declaration)} {declared : String × Declaration}
      {a : α} (order : plan.parameters = before ++ declared :: after) (has : own declared = some a)
      (first : ∀ earlier ∈ before, own earlier = none) : Chosen settings plan own layer (some a)
  | ofPlan {a : α} (silent : ∀ declared ∈ plan.parameters, own declared = none)
      (has : layer plan.callbacks = some a) : Chosen settings plan own layer (some a)
  | ofSettings {a : α} (silent : ∀ declared ∈ plan.parameters, own declared = none)
      (lacks : layer plan.callbacks = none) (has : layer settings.callbacks = some a) :
      Chosen settings plan own layer (some a)
  | nobody (silent : ∀ declared ∈ plan.parameters, own declared = none)
      (lacks : layer plan.callbacks = none) (lack : layer settings.callbacks = none) :
      Chosen settings plan own layer none

/-- The choice can be computed layer by layer, so there is exactly one. -/
theorem chosen_iff {α : Type} {settings : Settings} {plan : Plan}
    {own : String × Declaration → Option α} {layer : Callbacks → Option α} {a : Option α} :
    Chosen settings plan own layer a ↔
      a = (plan.parameters.findSome? own).or
        ((layer plan.callbacks).or (layer settings.callbacks)) := by
  constructor
  · intro chosen
    cases chosen with
    | ofParameter order has first =>
      rw [List.findSome?_eq_some_iff.2 ⟨_, _, _, order, has, first⟩, Option.some_or]
    | ofPlan silent has =>
      rw [List.findSome?_eq_none_iff.2 silent, has, Option.none_or, Option.some_or]
    | ofSettings silent lacks has =>
      rw [List.findSome?_eq_none_iff.2 silent, lacks, has, Option.none_or, Option.none_or]
    | nobody silent lacks lack =>
      rw [List.findSome?_eq_none_iff.2 silent, lacks, lack, Option.none_or, Option.none_or]
  · rintro rfl
    cases found : plan.parameters.findSome? own with
    | some a =>
      obtain ⟨before, declared, after, order, has, first⟩ := List.findSome?_eq_some_iff.1 found
      exact .ofParameter order has first
    | none =>
      have silent := List.findSome?_eq_none_iff.1 found
      rw [Option.none_or]
      cases ofPlan : layer plan.callbacks with
      | some a => exact .ofPlan silent ofPlan
      | none =>
        rw [Option.none_or]
        cases ofSettings : layer settings.callbacks with
        | some a => exact .ofSettings silent ofPlan ofSettings
        | none => exact .nobody silent ofPlan ofSettings

def ownSuccessHandler? (declared : String × Declaration) : Option SuccessHandler :=
  declared.2.callbacks.onSuccess

namespace Endpoint

variable {settings : Settings} {plan : Plan} {e : Endpoint}

/-- Compiling a plan does not change who has the say. -/
theorem OfPlan.chosen_iff {α : Type} (h : OfPlan settings plan e)
    {own : String × Declaration → Option α} {compiledOwn : String × Parameter → Option α}
    {layer : Callbacks → Option α}
    (same : ∀ declared compiled,
      CompiledFrom (plan.callbacks.orElse settings.callbacks).validate declared compiled →
      own declared = compiledOwn compiled)
    (layered : ∀ inner outer, layer (Callbacks.orElse inner outer) = (layer inner).or (layer outer))
    {a : Option α} :
    Chosen settings plan own layer a ↔
      a = (e.parameters.findSome? compiledOwn).or (layer e.callbacks) := by
  have mapped := congrArg (List.findSome? id) (h.map_parameters same)
  rw [List.findSome?_map, List.findSome?_map] at mapped
  have searched : e.parameters.findSome? compiledOwn = plan.parameters.findSome? own := mapped
  rw [RequestParams.chosen_iff, searched, h.callbacks, layered]

/-- Handlers are not handed down, unlike validators. -/
theorem CompiledFrom.handlers {validate : Option Validator} {declared : String × Declaration}
    {compiled : String × Parameter} (h : CompiledFrom validate declared compiled) :
    compiled.2.callbacks.onFailure = declared.2.callbacks.onFailure ∧
      compiled.2.callbacks.onSuccess = declared.2.callbacks.onSuccess := by
  obtain ⟨_, p, own, handed⟩ := h
  rw [handed, onFailure_handDown, onSuccess_handDown, Declaration.compile_callbacks own]
  exact ⟨rfl, rfl⟩

theorem chosen_successHandler? (h : OfPlan settings plan e) (a : Option SuccessHandler) :
    Chosen settings plan ownSuccessHandler? Callbacks.onSuccess a ↔ a = e.successHandler? := by
  unfold successHandler?
  rw [Option.orElse_eq_orElse, Option.orElse_eq_or]
  exact h.chosen_iff (fun declared compiled one => one.handlers.2.symm) fun _ _ =>
    Option.orElse_eq_or

end Endpoint

/-! ## Numbers in a reply -/

/-- How a number is written in JSON: as an integer where it is one of magnitude at most 2⁵³ − 1, and
otherwise as itself. JSON has no infinite numbers, and writes `null` for them. -/
inductive Binary64.WrittenAs (x : Binary64) : Json → Prop where
  | integer {z : Int} (exactly : x.Denotes z) (small : z.natAbs ≤ maxSafeInteger) :
      WrittenAs x (.number (.integer z))
  | real (finite : x.isFinite = true) (other : ∀ z, x.Denotes z → maxSafeInteger < z.natAbs) :
      WrittenAs x (.number (.real x))
  | null (infinite : x.isFinite = false) : WrittenAs x .null

theorem Binary64.writtenAs_iff {x : Binary64} {written : Json} :
    x.WrittenAs written ↔ written = .ofBinary64 x := by
  constructor
  · intro form
    unfold Json.ofBinary64
    cases form with
    | integer exactly small => rw [safeInteger?_eq_some.2 ⟨exactly, small⟩]
    | real finite other =>
      rw [safeInteger?_eq_none.2 other, finite]
      rfl
    | null infinite =>
      cases x with
      | finite negative steps held => cases infinite
      | infinite negative => rfl
      | nan => rfl
  · rintro rfl
    unfold Json.ofBinary64
    cases safe : x.safeInteger? with
    | some z =>
      obtain ⟨exactly, small⟩ := safeInteger?_eq_some.1 safe
      exact .integer exactly small
    | none =>
      dsimp only
      split
      · rename_i finite
        exact .real finite (safeInteger?_eq_none.1 safe)
      · rename_i infinite
        exact .null (Bool.eq_false_iff.2 infinite)

/-- A number is written in one way. -/
theorem Binary64.WrittenAs.unique {x : Binary64} {written other : Json} (h : x.WrittenAs written)
    (h' : x.WrittenAs other) : written = other :=
  (writtenAs_iff.1 h).trans (writtenAs_iff.1 h').symm

/-! ## The fixed refusal -/

/-- The entry of a parameter at fault in the body of a refusal. -/
structure Reported (failure : Failure) (entry : List (String × Json)) : Prop where
  type : entry.lookup "type" = some (.string failure.type.name)
  message : entry.lookup "error" = some (.string failure.message)
  greatest :
    match failure.violation with
    | .aboveGreatest bound => ∃ written, entry.lookup "max" = some written ∧ bound.WrittenAs written
    | _ => entry.lookup "max" = none
  least :
    match failure.violation with
    | .belowLeast bound => ∃ written, entry.lookup "min" = some written ∧ bound.WrittenAs written
    | _ => entry.lookup "min" = none

/-- The entries in the body of a refusal: one for every parameter at fault, and no other. -/
structure ReportedAll (failures : Failures) (params : List (String × Json)) : Prop where
  distinct : (params.map Prod.fst).Nodup
  each : ∀ name,
    match failures.get? name with
    | some failure => ∃ entry, params.lookup name = some (.object entry) ∧ Reported failure entry
    | none => name ∉ params.map Prod.fst

theorem Failure.toJson_reported (failure : Failure) :
    ∃ entry, failure.toJson = .object entry ∧ Reported failure entry := by
  obtain ⟨type, violation⟩ := failure
  refine ⟨_, rfl, ?_⟩
  cases violation with
  | missing => exact ⟨rfl, rfl, rfl, rfl⟩
  | aboveGreatest bound => exact ⟨rfl, rfl, ⟨_, rfl, Binary64.writtenAs_iff.2 rfl⟩, rfl⟩
  | belowLeast bound => exact ⟨rfl, rfl, rfl, _, rfl, Binary64.writtenAs_iff.2 rfl⟩
  | turnedDown message => exact ⟨rfl, rfl, rfl, rfl⟩

theorem Failures.toJson_reported (failures : Failures) :
    ∃ params, failures.toJson = .object params ∧ ReportedAll failures params := by
  refine ⟨_, rfl, ?_, fun name => ?_⟩
  · rw [List.map_map]
    exact ByName.nodup_of_ascending failures.ascending
  · have filed := ByName.lookup_map Failure.toJson failures.entries name
    cases found : failures.get? name with
    | some failure =>
      obtain ⟨entry, written, reported⟩ := failure.toJson_reported
      refine ⟨entry, ?_, reported⟩
      rw [filed, ← written]
      exact congrArg (Option.map Failure.toJson) found
    | none =>
      refine ByName.lookup_eq_none_iff_not_mem.1 ?_
      rw [filed]
      exact congrArg (Option.map Failure.toJson) found

/-- The refusal of the library: 422, and a body only if diagnostics are wanted. -/
theorem refusal_reports (failures : Failures) (diagnostics : Diagnostics) :
    (refusal failures diagnostics).status = 422 ∧
      match diagnostics with
      | .disabled => (refusal failures diagnostics).body = none
      | .enabled => ∃ params, ReportedAll failures params ∧
        (refusal failures diagnostics).body = some (.object
          [("error", .string "Required parameters are missing"), ("params", .object params)]) := by
  cases diagnostics with
  | disabled => exact ⟨rfl, rfl⟩
  | enabled =>
    obtain ⟨params, written, reported⟩ := failures.toJson_reported
    refine ⟨rfl, params, reported, ?_⟩
    rw [← written]
    rfl

/-! ## Attaching -/

namespace Request

/-- A request with values attached under a slot. Nothing else about it is touched. -/
structure Attached (request : Request) (slot : String) (values : Values) (ready : Request) :
    Prop where
  here : ready.attached.get? slot = some values
  elsewhere : ∀ other, other ≠ slot → ready.attached.get? other = request.attached.get? other
  method : ready.method = request.method
  path : ready.path = request.path
  bags : ready.bag? = request.bag?

/-- A request with one attachment after another made to it. -/
inductive AttachedAll : Request → List (String × Values) → Request → Prop where
  | nil (request : Request) : AttachedAll request [] request
  | cons {request next last : Request} {slot : String} {values : Values}
      {others : List (String × Values)} (first : request.Attached slot values next)
      (rest : AttachedAll next others last) :
      AttachedAll request ((slot, values) :: others) last

theorem get?_attach (request : Request) (slot : String) (values : Values) (other : String) :
    (request.attach slot values).attached.get? other
      = if other = slot then some values else request.attached.get? other :=
  ByName.get?_insert request.attached slot other values

theorem attached_attach (request : Request) (slot : String) (values : Values) :
    request.Attached slot values (request.attach slot values) where
  here := by rw [get?_attach, if_pos rfl]
  elsewhere := fun other apart => by rw [get?_attach, if_neg apart]
  method := rfl
  path := rfl
  bags := rfl

theorem attached_iff {request ready : Request} {slot : String} {values : Values} :
    request.Attached slot values ready ↔ ready = request.attach slot values := by
  constructor
  · intro attached
    have stored : ready.attached = (request.attach slot values).attached := by
      refine ByName.ext_get? fun other => ?_
      rw [get?_attach]
      by_cases same : other = slot
      · rw [same, if_pos rfl, attached.here]
      · rw [if_neg same, attached.elsewhere other same]
    obtain ⟨-, -, method, path, bags⟩ := attached
    obtain ⟨_, _, _, _⟩ := ready
    cases method
    cases path
    cases bags
    cases stored
    rfl
  · rintro rfl
    exact attached_attach request slot values

theorem attachedAll_iff {request last : Request} {attachments : List (String × Values)} :
    request.AttachedAll attachments last ↔ last = request.attachAll attachments := by
  constructor
  · intro all
    induction all with
    | nil request => rfl
    | cons first rest ih =>
      rw [attached_iff.1 first] at ih
      exact ih
  · rintro rfl
    induction attachments generalizing request with
    | nil => exact .nil request
    | cons attachment others ih => exact .cons (attached_attach _ _ _) ih

end Request

/-! ## What becomes of a request -/

namespace Endpoint

variable {settings : Settings} {plan : Plan} {e : Endpoint}

theorem handle_refused {diagnostics : Diagnostics} {request : Request} {failures : Failures}
    (refused : e.verify request = .error failures) :
    ∃ events, e.handle diagnostics request =
      match e.failureHandler? failures with
      | some handler => (handler failures request).outcome request events
      | none => ⟨.respond (refusal failures diagnostics), request, events⟩ := by
  unfold handle
  rw [refused]
  dsimp only
  cases e.failureHandler? failures with
  | some handler => exact ⟨_, rfl⟩
  | none => exact ⟨_, rfl⟩

theorem handle_verified {diagnostics : Diagnostics} {request : Request} {values : Values}
    (verified : e.verify request = .ok values) :
    ∃ events, e.handle diagnostics request =
      match e.successHandler? with
      | some handler =>
        (handler values (request.attach e.slot values)).outcome (request.attach e.slot values) events
      | none => ⟨.proceed, request.attach e.slot values, events⟩ := by
  unfold handle
  rw [verified]
  dsimp only
  cases e.successHandler? with
  | some handler => exact ⟨_, rfl⟩
  | none => exact ⟨_, rfl⟩

end Endpoint
end RequestParams
