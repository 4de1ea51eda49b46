import Mathlib.Data.List.Forall2
import RequestParams.Endpoint.Basic
import RequestParams.Proofs.Compiling

/-!
# Where the parts of an endpoint come from

An endpoint is made of a plan and of settings. `OfPlan` lists, part by part, which of the two each
part is taken from, and `ofPlan_layers` says that compiling a plan gives nothing else. Proofs about
compiled endpoints start from these parts and never open the compiler again.

The asymmetry between the functions is the point of the list: a validator of the plan or of the
settings *becomes* the validator of a parameter that has none, while handlers stay with whoever
declared them.
-/

set_option autoImplicit false

namespace RequestParams

/-- A list is compiled item by item, and only as a whole. -/
theorem mapM_eq_ok {ε α β : Type} {f : α → Except ε β} {items : List α} {results : List β} :
    items.mapM f = .ok results ↔ List.Forall₂ (fun a b => f a = .ok b) items results := by
  induction items generalizing results with
  | nil =>
    rw [List.forall₂_nil_left_iff, eq_comm]
    exact ⟨Except.ok.inj, congrArg Except.ok⟩
  | cons a rest ih =>
    rw [List.mapM_cons, bind_eq_ok, List.forall₂_cons_left_iff]
    constructor
    · rintro ⟨b, first, done⟩
      obtain ⟨others, remaining, done⟩ := bind_eq_ok.1 done
      cases done
      exact ⟨b, others, first, ih.1 remaining, rfl⟩
    · rintro ⟨b, others, first, remaining, rfl⟩
      exact ⟨b, first, bind_eq_ok.2 ⟨others, ih.2 remaining, rfl⟩⟩

namespace Endpoint

/-- A compiled parameter beside its declaration: the validator of the layers around it fills a gap,
and everything else is its own. -/
def CompiledFrom (validate : Option Validator) (declared : String × Declaration)
    (compiled : String × Parameter) : Prop :=
  declared.1 = compiled.1 ∧
    ∃ p, declared.2.compile = .ok p ∧ compiled.2 = handDown validate p

/-- The parts of an endpoint, and the layer that each of them comes from. -/
structure OfPlan (settings : Settings) (plan : Plan) (e : Endpoint) : Prop where
  description : e.description = plan.description
  parameters : List.Forall₂ (CompiledFrom (plan.callbacks.orElse settings.callbacks).validate)
    plan.parameters e.parameters
  order : e.order = (plan.order <|> settings.order).getD defaultOrder
  slot : e.slot = (plan.slot <|> settings.slot).getD defaultSlot
  callbacks : e.callbacks = plan.callbacks.orElse settings.callbacks

variable {settings : Settings} {plan : Plan} {e : Endpoint}

/-- A compiled declaration keeps its name, and there is no more to it. -/
theorem compiledFrom_iff {validate : Option Validator} {declared : String × Declaration}
    {compiled : String × Parameter} :
    CompiledFrom validate declared compiled ↔
      (declared.2.compile >>= fun p => .ok (declared.1, handDown validate p)) = .ok compiled := by
  rw [bind_eq_ok]
  constructor
  · rintro ⟨name, p, own, result⟩
    exact ⟨p, own, congrArg Except.ok (Prod.ext name result.symm)⟩
  · rintro ⟨p, own, result⟩
    cases result
    exact ⟨rfl, p, own, rfl⟩

/-- **An endpoint comes of a plan exactly if every part of it comes from its layer.** -/
theorem ofPlan_eq_ok : ofPlan settings plan = .ok e ↔ OfPlan settings plan e := by
  unfold ofPlan
  rw [bind_eq_ok]
  simp only [mapM_eq_ok, ← compiledFrom_iff]
  constructor
  · rintro ⟨parameters, compiled, same⟩
    cases same
    exact ⟨rfl, compiled, rfl, rfl, rfl⟩
  · rintro ⟨description, compiled, order, slot, callbacks⟩
    refine ⟨e.parameters, compiled, ?_⟩
    rw [← description, ← order, ← slot, ← callbacks]

theorem ofPlan_layers (h : ofPlan settings plan = .ok e) : OfPlan settings plan e :=
  ofPlan_eq_ok.1 h

/-! ## Handing a validator down -/

@[simp] theorem rule_handDown (validate : Option Validator) (p : Parameter) :
    (handDown validate p).rule = p.rule := rfl

@[simp] theorem onFailure_handDown (validate : Option Validator) (p : Parameter) :
    (handDown validate p).callbacks.onFailure = p.callbacks.onFailure := rfl

@[simp] theorem onSuccess_handDown (validate : Option Validator) (p : Parameter) :
    (handDown validate p).callbacks.onSuccess = p.callbacks.onSuccess := rfl

/-! ## Plan and endpoint, parameter by parameter -/

namespace OfPlan

/-- What is the same for every declaration and its parameter is the same in order. -/
theorem map_parameters {β : Type} (h : OfPlan settings plan e) {f : String × Declaration → β}
    {g : String × Parameter → β}
    (same : ∀ declared compiled,
      CompiledFrom (plan.callbacks.orElse settings.callbacks).validate declared compiled →
      f declared = g compiled) :
    e.parameters.map g = plan.parameters.map f := by
  have related : List.Forall₂ Eq (plan.parameters.map f) (e.parameters.map g) :=
    List.forall₂_map_left_iff.2 (List.forall₂_map_right_iff.2 (h.parameters.imp same))
  rw [List.forall₂_eq_eq_eq] at related
  exact related.symm

theorem names (h : OfPlan settings plan e) :
    e.parameters.map Prod.fst = plan.parameters.map Prod.fst :=
  h.map_parameters fun _ _ one => one.1

theorem nodup_names (h : OfPlan settings plan e)
    (distinct : (plan.parameters.map Prod.fst).Nodup) : (e.parameters.map Prod.fst).Nodup := by
  rw [h.names]
  exact distinct

/-- Every parameter of the endpoint comes from a declaration of the plan. -/
theorem declared (h : OfPlan settings plan e) {compiled : String × Parameter}
    (member : compiled ∈ e.parameters) :
    ∃ declaration ∈ plan.parameters,
      CompiledFrom (plan.callbacks.orElse settings.callbacks).validate declaration compiled := by
  -- By induction over the two lists side by side, so both have to be variables.
  have related := h.parameters
  generalize plan.parameters = declarations at related
  generalize e.parameters = parameters at related member
  induction related with
  | nil => cases member
  | cons one _ ih =>
    rcases List.mem_cons.1 member with rfl | member
    · exact ⟨_, List.mem_cons_self, one⟩
    · obtain ⟨declaration, member, one⟩ := ih member
      exact ⟨declaration, List.mem_cons_of_mem _ member, one⟩

theorem default_admits (h : OfPlan settings plan e) {name : String} {p : Parameter}
    (member : (name, p) ∈ e.parameters) : ∀ v ∈ p.rule.default, p.rule.shape.Admits v := by
  obtain ⟨_, _, _, own, compiled, same⟩ := h.declared member
  obtain rfl : p = _ := same
  rw [rule_handDown]
  exact Declaration.compile_default_admits compiled

end OfPlan

/-- No layer has a validator: not the settings, not the plan, and no declaration. -/
structure Unvalidated (settings : Settings) (plan : Plan) : Prop where
  ofSettings : settings.callbacks.validate = none
  ofPlan : plan.callbacks.validate = none
  ofDeclaration : ∀ declared ∈ plan.parameters, declared.2.callbacks.validate = none

/-- Where no layer has a validator the built-in rules hold for every parameter. -/
theorem Unvalidated.builtIn (h : Unvalidated settings plan) (layers : OfPlan settings plan e)
    {name : String} {p : Parameter} (member : (name, p) ∈ e.parameters) :
    p.callbacks.validate = none := by
  obtain ⟨declaration, declared, -, own, compiled, same⟩ := layers.declared member
  obtain rfl : p = _ := same
  have around : (plan.callbacks.orElse settings.callbacks).validate = none := by
    unfold Callbacks.orElse
    rw [h.ofPlan, h.ofSettings]
    rfl
  have alone : own.callbacks.validate = none := by
    rw [Declaration.compile_callbacks compiled]
    exact h.ofDeclaration declaration declared
  unfold handDown
  rw [around, alone]
  rfl

end Endpoint
end RequestParams
