import RequestParams.Proofs.Merging
import RequestParams.Proofs.Misdeclaring

/-!
# Three layers come to one endpoint

What holds at an endpoint is said in three places: by the router in its settings, by the author of
the endpoint in its plan, and in the declaration of each parameter. Here is what the three come to,
option by option, without the compiler that puts them together (`ofPlan_by_layers`). For most
options the innermost layer that says something decides (`innermost?`), and two rules stand out:

* a validator reaches down into every parameter, while handlers stay with the layer that has them;
* descriptions are not handed down at all.

Either every declaration compiles and there is an endpoint with all of them, or one does not and
there is none: nothing is left of the declarations that did compile.
-/

set_option autoImplicit false

namespace RequestParams

/-- What the innermost of several layers says, of those that say something. The layers are listed
from the inside out. -/
def innermost? {α : Type} (layers : List (Option α)) : Option α := layers.findSome? id

theorem innermost?_cons {α : Type} (inner : Option α) (layers : List (Option α)) :
    innermost? (inner :: layers) = (inner <|> innermost? layers) := by
  unfold innermost?
  rw [List.findSome?_cons]
  cases inner <;> rfl

theorem innermost?_pair {α : Type} (inner outer : Option α) :
    innermost? [inner, outer] = (inner <|> outer) := by
  rw [innermost?_cons, innermost?_cons]
  cases outer <;> rfl

theorem Callbacks.eq_orElse_iff {given inner outer : Callbacks} :
    given = inner.orElse outer ↔
      given.validate = (inner.validate <|> outer.validate) ∧
      given.onFailure = (inner.onFailure <|> outer.onFailure) ∧
      given.onSuccess = (inner.onSuccess <|> outer.onSuccess) := by
  obtain ⟨validate, onFailure, onSuccess⟩ := given
  unfold orElse
  rw [Callbacks.mk.injEq]

/-- A parameter as it is declared, but for a validator from the layers around its declaration. -/
structure Parameter.Within (p : Parameter) (validators : List (Option Validator))
    (own : Parameter) : Prop where
  rule : p.rule = own.rule
  validate : p.callbacks.validate = innermost? (own.callbacks.validate :: validators)
  onFailure : p.callbacks.onFailure = own.callbacks.onFailure
  onSuccess : p.callbacks.onSuccess = own.callbacks.onSuccess

namespace Endpoint

/-- What settings and a plan come to, part by part. The parameters stand in the order of their
declarations, each compiled from its own. -/
structure Layered (settings : Settings) (plan : Plan) (e : Endpoint) : Prop where
  description : e.description = plan.description
  parameters : List.Forall₂ (fun declared compiled => compiled.1 = declared.1 ∧
      ∃ own, declared.2.compile = .ok own ∧
        compiled.2.Within [plan.callbacks.validate, settings.callbacks.validate] own)
    plan.parameters e.parameters
  order : e.order =
    (innermost? [plan.order, settings.order]).getD ["body", "query", "params", "cookies"]
  slot : e.slot = (innermost? [plan.slot, settings.slot]).getD "args"
  validate : e.callbacks.validate =
    innermost? [plan.callbacks.validate, settings.callbacks.validate]
  onFailure : e.callbacks.onFailure =
    innermost? [plan.callbacks.onFailure, settings.callbacks.onFailure]
  onSuccess : e.callbacks.onSuccess =
    innermost? [plan.callbacks.onSuccess, settings.callbacks.onSuccess]

variable {settings : Settings} {plan : Plan} {e : Endpoint} {err : DeclarationError}

/-! ## Validators reach down -/

theorem within_iff {validators : List (Option Validator)} {own p : Parameter} :
    p.Within validators own ↔ p = handDown (innermost? validators) own := by
  obtain ⟨rule, validate, onFailure, onSuccess⟩ := p
  constructor
  · rintro ⟨sameRule, sameValidate, sameFailure, sameSuccess⟩
    dsimp only at sameRule sameValidate sameFailure sameSuccess
    subst sameRule sameValidate sameFailure sameSuccess
    rw [innermost?_cons]
    rfl
  · intro same
    cases same
    exact ⟨rfl, (innermost?_cons _ _).symm, rfl, rfl⟩

theorem compiledFrom_iff_within {declared : String × Declaration} {compiled : String × Parameter} :
    CompiledFrom (plan.callbacks.orElse settings.callbacks).validate declared compiled ↔
      compiled.1 = declared.1 ∧ ∃ own, declared.2.compile = .ok own ∧
        compiled.2.Within [plan.callbacks.validate, settings.callbacks.validate] own := by
  unfold CompiledFrom
  rw [eq_comm]
  simp only [within_iff, innermost?_pair]
  rfl

/-! ## Part by part -/

theorem ofPlan_iff_layered : OfPlan settings plan e ↔ Layered settings plan e := by
  constructor
  · intro layers
    obtain ⟨validate, onFailure, onSuccess⟩ := Callbacks.eq_orElse_iff.1 layers.callbacks
    refine ⟨layers.description, layers.parameters.imp fun _ _ => compiledFrom_iff_within.1,
      ?_, ?_, ?_, ?_, ?_⟩
    all_goals rw [innermost?_pair]
    · exact layers.order
    · exact layers.slot
    · exact validate
    · exact onFailure
    · exact onSuccess
  · rintro ⟨description, parameters, order, slot, validate, onFailure, onSuccess⟩
    rw [innermost?_pair] at order slot validate onFailure onSuccess
    exact ⟨description, parameters.imp fun _ _ => compiledFrom_iff_within.2, order, slot,
      Callbacks.eq_orElse_iff.2 ⟨validate, onFailure, onSuccess⟩⟩

/-! ## The first declaration that fails -/

theorem ofPlan_eq_error :
    ofPlan settings plan = .error err ↔
      FirstFault (fun declared err => declared.2.compile = .error err) plan.parameters err := by
  unfold ofPlan
  rw [bind_ok_eq_error, mapM_eq_error]
  -- Handing a validator down does not fail, so only the compiler does.
  simp only [bind_ok_eq_error]

/-- **What three layers come to.** A plan fails exactly if one of its declarations fails, and then
with the error of the first that does. Otherwise there is an endpoint, and only one: the parameters
are those declared, under the same names and in the same order, each as its own declaration compiles
but for a missing validator, which is that of the plan, or else that of the settings. The order, the
slot, and the functions of the endpoint are those of the plan, or else those of the settings; where
neither sets the order or the slot, there is a fixed one. The description is that of the plan. -/
theorem ofPlan_by_layers (settings : Settings) (plan : Plan) :
    (∀ err, ofPlan settings plan = .error err ↔
      FirstFault (fun declared err => declared.2.compile = .error err) plan.parameters err) ∧
    ((∃ err, ofPlan settings plan = .error err) ↔
      ∃ declared ∈ plan.parameters, ∃ err, declared.2.compile = .error err) ∧
    ∀ e, ofPlan settings plan = .ok e ↔ Layered settings plan e := by
  refine ⟨fun err => ofPlan_eq_error, ?_, fun e => ofPlan_eq_ok.trans ofPlan_iff_layered⟩
  simp only [ofPlan_eq_error]
  exact exists_firstFault_iff

/-- The first of two types that are unknown is reported, and the number before them is not kept. -/
example :
    ofPlan {}
      { parameters :=
          [("n", .shorthand "number"), ("a", .shorthand "text"), ("b", .shorthand "list")] }
      = .error (.unknownType "text") := rfl

end Endpoint
end RequestParams
