import RequestParams.Proofs.Verification

/-!
# Verified values, checked again

Values are checked before defaults are filled in, so what a handler receives has not been checked as
a whole. Here it is: what a second check of the filled values reports, where no validator has a say.

* A value that the request supplied is in order still.
* A parameter that the request left out is in order unless it has a default; a default was read as
  the declared type, but nobody held it against the bounds beside it.

So the second check reports the defaults that break a bound of their own rule, and nothing else
(`check_verified`). That there are such defaults is `check_verified_rejects`.
-/

set_option autoImplicit false

namespace RequestParams

/-- A violation of one of the bounds of a rule, which it names. -/
inductive Violation.OfBound (rule : Rule) : Violation → Prop where
  | greatest {bound : Binary64} (declared : rule.greatest = some bound) :
      OfBound rule (.aboveGreatest bound)
  | least {bound : Binary64} (declared : rule.least = some bound) :
      OfBound rule (.belowLeast bound)

namespace Endpoint

variable {e : Endpoint} {request : Request}

/-- What is out of bounds breaks a bound that the rule has. -/
theorem outOfBounds_ofBound {rule : Rule} {violation : Violation} (v : Value)
    (h : outOfBounds rule v = some violation) : violation.OfBound rule := by
  obtain ⟨-, measure, -, -, -, broken⟩ := outOfBounds_eq_some.1 h
  cases broken with
  | above set exceeds => exact .greatest set
  | below within set short => exact .least set

/-! ## One parameter -/

section

variable {name : String} {p : Parameter} {values : Values}

/-- A value that the request supplied has passed the first check, and it passes the second. -/
theorem violation?_offered_again (distinct : (e.parameters.map Prod.fst).Nodup)
    (declared : (name, p) ∈ e.parameters) (verified : e.verify request = .ok values) {v : Value}
    (offers : e.usable? request name p = some v) : violation? p (values.get? name) = none := by
  have passed := violation?_of_verified distinct declared verified
  rw [offers] at passed
  rw [get?_of_verified distinct declared verified, offers]
  exact passed

/-- Of a parameter that the request left out only the default can be wrong, and only because it is
out of bounds. -/
theorem violation?_filled_again (distinct : (e.parameters.map Prod.fst).Nodup)
    (declared : (name, p) ∈ e.parameters) (verified : e.verify request = .ok values)
    (builtIn : p.callbacks.validate = none) (shaped : ∀ v ∈ p.rule.default, p.rule.shape.Admits v)
    (lacks : e.usable? request name p = none) :
    violation? p (values.get? name) = p.rule.default.bind (outOfBounds p.rule) := by
  have passed := violation?_of_verified distinct declared verified
  rw [lacks] at passed
  rw [get?_of_verified distinct declared verified, lacks]
  cases default : p.rule.default with
  | none => exact passed
  | some v => exact violation?_some builtIn (shaped v default).isEmptyList

end

/-! ## All parameters -/

/-- A default that was filled in breaks a bound of its own rule. -/
inductive FilledOutOfBounds (e : Endpoint) (request : Request) (name : String) :
    Failure → Prop where
  | breaks {p : Parameter} {v : Value} {violation : Violation}
      (declared : (name, p) ∈ e.parameters) (lacks : e.usable? request name p = none)
      (default : p.rule.default = some v) (outside : outOfBounds p.rule v = some violation) :
      FilledOutOfBounds e request name ⟨p.rule.shape.type, violation⟩

variable {settings : Settings} {plan : Plan}

theorem check_verified_eq_some (layers : OfPlan settings plan e)
    (distinct : (e.parameters.map Prod.fst).Nodup) (unvalidated : Unvalidated settings plan)
    {values : Values} (verified : e.verify request = .ok values) {name : String}
    {failure : Failure} :
    (e.check values).get? name = some failure ↔ e.FilledOutOfBounds request name failure := by
  constructor
  · intro found
    rw [get?_check distinct] at found
    obtain ⟨p, known, found⟩ := Option.bind_eq_some_iff.1 found
    obtain ⟨violation, broken, rfl⟩ := Option.map_eq_some_iff.1 found
    have declared := (parameter?_eq_some distinct).1 known
    cases offers : e.usable? request name p with
    | some v =>
      rw [violation?_offered_again distinct declared verified offers] at broken
      cases broken
    | none =>
      rw [violation?_filled_again distinct declared verified (unvalidated.builtIn layers declared)
        (layers.default_admits declared) offers] at broken
      obtain ⟨v, default, outside⟩ := Option.bind_eq_some_iff.1 broken
      exact .breaks declared offers default outside
  · rintro ⟨declared, lacks, default, outside⟩
    rw [get?_check distinct, (parameter?_eq_some distinct).2 declared, Option.bind_some,
      violation?_filled_again distinct declared verified (unvalidated.builtIn layers declared)
        (layers.default_admits declared) lacks, default, Option.bind_some, outside]
    rfl

/-- **What a second check reports.** Where no layer has a validator, the values that verification
delivers break no rule, except that a default which was filled in may break a bound of its own rule:
each such default is reported, with the bound that it breaks, and nothing else is. If every default
keeps to the bounds beside it, nothing is reported at all. -/
theorem check_verified (distinct : (plan.parameters.map Prod.fst).Nodup)
    (compiled : ofPlan settings plan = .ok e) (unvalidated : Unvalidated settings plan)
    {values : Values} (verified : e.verify request = .ok values) :
    (∀ name failure,
      (e.check values).get? name = some failure ↔ e.FilledOutOfBounds request name failure) ∧
    (∀ name p failure, (name, p) ∈ e.parameters → (e.check values).get? name = some failure →
      failure.violation.OfBound p.rule) ∧
    ((∀ name p, (name, p) ∈ e.parameters → ∀ v ∈ p.rule.default, outOfBounds p.rule v = none) →
      (e.check values).isEmpty = true) := by
  have layers := ofPlan_layers compiled
  have distinct := layers.nodup_names distinct
  have reported : ∀ name failure,
      (e.check values).get? name = some failure ↔ e.FilledOutOfBounds request name failure :=
    fun _ _ => check_verified_eq_some layers distinct unvalidated verified
  refine ⟨reported, fun name p failure declared found => ?_, fun bounded => ?_⟩
  · obtain ⟨same, -, -, outside⟩ := (reported name failure).1 found
    have known := (parameter?_eq_some distinct).2 declared
    obtain rfl := Option.some.inj (known.symm.trans ((parameter?_eq_some distinct).2 same))
    exact outOfBounds_ofBound _ outside
  · refine (ByName.isEmpty_iff _).2 fun name => Option.eq_none_iff_forall_ne_some.2 ?_
    intro failure found
    obtain ⟨declared, -, default, outside⟩ := (reported name failure).1 found
    rw [bounded name _ declared _ default] at outside
    cases outside

/-- A default of eight characters is filled in beside a greatest length of four, and the second
check reports it, but not the title beside it. Where the greatest length is eight nothing is
reported. -/
theorem check_verified_sample :
    let text : Shape := ⟨.text, false⟩
    let tight : Plan :=
      { parameters :=
          [("title", .shorthand "string"),
            ("author", .blueprint
              { token := "string", default := some (.string "somebody"),
                greatest := some (.ofNat 4) })] }
    let tightened : Endpoint :=
      ⟨none, [("title", ⟨{ shape := text }, {}⟩),
        ("author",
          ⟨{ shape := text, default := some (.text "somebody"), required := false,
             greatest := some (.ofNat 4) }, {}⟩)],
        defaultOrder, defaultSlot, {}⟩
    let roomy : Plan :=
      { parameters :=
          [("author", .blueprint
            { token := "string", default := some (.string "somebody"),
              greatest := some (.ofNat 8) })] }
    let room : Endpoint :=
      ⟨none, [("author",
          ⟨{ shape := text, default := some (.text "somebody"), required := false,
             greatest := some (.ofNat 8) }, {}⟩)],
        defaultOrder, defaultSlot, {}⟩
    let request : Request :=
      .ofBags "GET" "/find" [("query", .ofPairs ["title"] [("title", .single "lean")])]
    ((tight.parameters.map Prod.fst).Nodup ∧ ofPlan {} tight = .ok tightened ∧
      Unvalidated {} tight ∧
      ∃ values, tightened.verify request = .ok values ∧
        (tightened.check values).get? "author" = some ⟨.text, .aboveGreatest (.ofNat 4)⟩ ∧
        (tightened.check values).get? "title" = none) ∧
    (roomy.parameters.map Prod.fst).Nodup ∧ ofPlan {} roomy = .ok room ∧ Unvalidated {} roomy ∧
      ∃ values, room.verify request = .ok values ∧ (room.check values).isEmpty = true := by
  intro text tight tightened roomy room request
  constructor
  · have distinct : (tight.parameters.map Prod.fst).Nodup := by decide
    have compiled : ofPlan {} tight = .ok tightened := rfl
    have unvalidated : Unvalidated {} tight :=
      ⟨rfl, rfl, List.forall_mem_cons.2 ⟨rfl, List.forall_mem_singleton.2 rfl⟩⟩
    have verified : tightened.verify request = .ok (tightened.fill (tightened.gather request)) :=
      verify_eq_ok.2 ⟨by decide, rfl⟩
    obtain ⟨reported, -, -⟩ := check_verified distinct compiled unvalidated verified
    refine ⟨distinct, compiled, unvalidated, _, verified, (reported _ _).2 ?_, ?_⟩
    · have second : ("author", _) ∈ tightened.parameters :=
        List.mem_cons_of_mem _ List.mem_cons_self
      exact .breaks second rfl rfl (by decide +kernel)
    · refine Option.eq_none_iff_forall_ne_some.2 fun failure found => ?_
      obtain ⟨declared, lacks, -, -⟩ := (reported _ _).1 found
      rcases List.mem_pair.1 declared with same | same
      · cases same
        cases lacks
      · exact absurd (Prod.mk.inj same).1 (by decide)
  · have distinct : (roomy.parameters.map Prod.fst).Nodup := by decide
    have compiled : ofPlan {} roomy = .ok room := rfl
    have unvalidated : Unvalidated {} roomy := ⟨rfl, rfl, List.forall_mem_singleton.2 rfl⟩
    have verified : room.verify request = .ok (room.fill (room.gather request)) :=
      verify_eq_ok.2 ⟨by decide, rfl⟩
    obtain ⟨-, -, bounded⟩ := check_verified distinct compiled unvalidated verified
    refine ⟨distinct, compiled, unvalidated, _, verified, bounded fun name p member v default => ?_⟩
    cases List.mem_singleton.1 member
    cases default
    decide +kernel

/-- It is not so that verification only delivers what its own check lets pass. Nothing is supplied,
the default is filled in, and it is longer than the rule allows. -/
theorem check_verified_rejects :
    let plan : Plan :=
      { parameters :=
          [("author", .blueprint
            { token := "string", default := some (.string "somebody"),
              greatest := some (.ofNat 4) })] }
    let request : Request := .ofBags "GET" "/find" []
    ∃ e values, (plan.parameters.map Prod.fst).Nodup ∧ ofPlan {} plan = .ok e ∧
      Unvalidated {} plan ∧ e.verify request = .ok values ∧ (e.check values).isEmpty = false :=
  ⟨_, _, by decide, rfl, ⟨rfl, rfl, List.forall_mem_singleton.2 rfl⟩, rfl, by decide +kernel⟩

end Endpoint
end RequestParams
