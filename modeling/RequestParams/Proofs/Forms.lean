import RequestParams.Proofs.Members
import RequestParams.Proofs.Shorthand
import RequestParams.Endpoint.Documentation

/-!
# The forms of a declaration

A parameter may be declared as shorthand, as a blueprint, or as a blueprint in writing, and each
form has a compiler of its own. Here they are held against each other, over everything that a
compiler can answer: the rule, or the error with all that it says.

* `compile_shorthand_eq`: shorthand is short for a blueprint, `Shorthand.blueprint`. What looks like
  two rules, that empty parentheses declare no default and that parentheses make optional, are the
  blueprint's own rules for the empty text and for what is expressly not required.
* `compile_members`: a blueprint in writing, `Blueprint.members`, is the blueprint, but for one
  thing. JSON has a single word for a field that is not set and for a field that is set to `null`,
  and a blueprint tells them apart where it asks whether the parameter is required: `null` says no
  there (`compile_members_null`).
-/

set_option autoImplicit false

namespace RequestParams

/-! ## Shorthand -/

/-- The blueprint that shorthand is short for. What stands in parentheses is the default, and the
parentheses say that the parameter is not required. -/
def Shorthand.blueprint (s : Shorthand) : Blueprint where
  token := s.token
  list := some (.boolean s.list)
  default := s.default.map .string
  required := s.default.map fun _ => .boolean false

/-- Texts in parentheses and texts in a blueprint declare the same default: none if the text is
empty, and what it reads as otherwise. -/
theorem Shape.defaultOfMember_text (shape : Shape) (text : Option String) :
    shape.defaultOfMember (text.map .string) = shape.defaultOfText text := by
  cases text with
  | none => rfl
  | some text =>
    show (if text = "" then .ok none else do
      Except.ok (some (← shape.readDefault (.single text)))) = _
    unfold defaultOfText
    dsimp only
    split
    · rfl
    · cases shape.readDefault (.single text) <;> rfl

/-- Without parentheses the blueprint leaves open whether the parameter is required, and there is no
default that would decide it; with parentheses the blueprint decides. -/
theorem Shorthand.parameter_blueprint (s : Shorthand) (shape : Shape) {default : Option Value}
    (read : shape.defaultOfText s.default = .ok default) :
    s.blueprint.parameter shape default
      = { rule := { shape := shape, default := default, required := !s.isOptional } } := by
  obtain ⟨token, list, group⟩ := s
  cases group with
  | none =>
    cases read
    simp [Blueprint.parameter, blueprint, isOptional]
  | some text => simp [Blueprint.parameter, blueprint, isOptional, Json.saysNo]

namespace Declaration

/-- **Shorthand is short for a blueprint.** A text with the parts of a declaration compiles exactly
as the blueprint of the parts does: to the same parameter, or to the same error. -/
theorem compile_shorthand_eq {text : String} {parts : Shorthand}
    (parsed : Shorthand.parse text = .ok parts) :
    (shorthand text).compile = (blueprint parts.blueprint).compile := by
  unfold compile compileShorthand compileBlueprint
  dsimp only [Shorthand.blueprint, Option.any, Json.saysYes]
  rw [parsed, ok_bind]
  -- Both look at the type first, so an unknown one is the error of both.
  cases ScalarType.ofToken parts.token with
  | error e => rfl
  | ok type =>
    rw [ok_bind, ok_bind, Shape.defaultOfMember_text]
    cases read : Shape.defaultOfText ⟨type, parts.list⟩ parts.default with
    | error e => rfl
    | ok default =>
      exact congrArg Except.ok (parts.parameter_blueprint ⟨type, parts.list⟩ read).symm

/-- Blanks, parentheses within parentheses and a type name in capitals; and a default that does not
read as a truth value, whatever the form. -/
theorem compile_shorthand_eq_sample :
    let parts : Shorthand := ⟨"String", true, some "a,(b)"⟩
    let amiss : Shorthand := ⟨"bool", false, some "maybe"⟩
    Shorthand.parse " String [ ] (a,(b)) " = .ok parts ∧
      (shorthand " String [ ] (a,(b)) ").compile = (blueprint parts.blueprint).compile ∧
      (∃ p, (shorthand " String [ ] (a,(b)) ").compile = .ok p ∧
        p.rule.default = some (.list [.text "a", .text "(b)"]) ∧ p.rule.required = false) ∧
      Shorthand.parse "bool(maybe)" = .ok amiss ∧
      (shorthand "bool(maybe)").compile = (blueprint amiss.blueprint).compile ∧
      (shorthand "bool(maybe)").compile = .error (.unusableDefault .boolean "maybe") := by
  intro parts amiss
  have parsed : Shorthand.parse " String [ ] (a,(b)) " = .ok parts := rfl
  have parsed' : Shorthand.parse "bool(maybe)" = .ok amiss := rfl
  exact ⟨parsed, compile_shorthand_eq parsed, ⟨_, rfl, rfl, rfl⟩, parsed',
    compile_shorthand_eq parsed', rfl⟩

end Declaration

/-! ## Blueprints in writing -/

/-- A number in JSON, as it is; `null` stands for what JSON has no number for. -/
def Json.ofReal (x : Binary64) : Json := if x.isFinite then .number (.real x) else .null

namespace Blueprint

/-- The members of the object that declares what a blueprint declares: one for every field that is
set. -/
def members (b : Blueprint) : List (String × Json) :=
  [("type", .string b.token)]
    ++ Json.member "default" id b.default
    ++ Json.member "required" id b.required
    ++ Json.member "array" id b.list
    ++ Json.member "min" Json.ofReal b.least
    ++ Json.member "max" Json.ofReal b.greatest
    ++ Json.member "description" .string b.description

theorem nodup_members (b : Blueprint) : (b.members.map Prod.fst).Nodup := by
  have all : (b.members.map Prod.fst).Sublist
      (["type"] ++ ["default"] ++ ["required"] ++ ["array"] ++ ["min"] ++ ["max"]
        ++ ["description"]) := by
    iterate 6 apply Json.names_append_member
    exact List.Sublist.refl _
  exact all.nodup (by decide)

/-- What a blueprint says under each name. -/
theorem lookup_members (b : Blueprint) :
    b.members.lookup "type" = some (.string b.token) ∧
    b.members.lookup "default" = b.default ∧
    b.members.lookup "required" = b.required ∧
    b.members.lookup "array" = b.list ∧
    b.members.lookup "min" = b.least.map Json.ofReal ∧
    b.members.lookup "max" = b.greatest.map Json.ofReal ∧
    b.members.lookup "description" = b.description.map .string := by
  simp [members, List.lookup_append, Json.lookup_member, ByName.lookup_cons_ite]

/-- A blueprint as it reads in writing: a field that is set to `null` is not set. -/
def withoutNulls (b : Blueprint) : Blueprint :=
  { b with
    default := b.default.bind optionalJson
    required := b.required.bind optionalJson
    list := b.list.bind optionalJson }

theorem held_any (found : Option Json) :
    Held (fun value a => a = optionalJson value) none found (found.bind optionalJson) := by
  cases found <;> rfl

/-- JSON has a number for every bound. -/
structure FiniteBounds (b : Blueprint) : Prop where
  least : ∀ x ∈ b.least, x.isFinite = true
  greatest : ∀ x ∈ b.greatest, x.isFinite = true

theorem held_real {bound : Option Binary64} (finite : ∀ x ∈ bound, x.isFinite = true) :
    Held (fun value a => optionalReal value = .ok a) none (bound.map Json.ofReal) bound := by
  cases bound with
  | none => rfl
  | some x =>
    show optionalReal (Json.ofReal x) = _
    rw [Json.ofReal, if_pos (finite x rfl)]
    rfl

theorem foundIn_members {b : Blueprint} (functionless : b.callbacks = {})
    (finite : b.FiniteBounds) : b.withoutNulls.FoundIn fun name => b.members.lookup name := by
  obtain ⟨type, default, required, list, least, greatest, description⟩ := b.lookup_members
  constructor
  · rw [type]
    rfl
  · rw [default]
    exact held_any b.default
  · rw [required]
    exact held_any b.required
  · rw [list]
    exact held_any b.list
  · rw [least]
    exact held_real finite.least
  · rw [greatest]
    exact held_real finite.greatest
  · rw [description]
    show Held _ _ _ b.description
    cases b.description <;> rfl
  · exact functionless

/-- The members may stand in any order. -/
theorem ofMembers_perm {b : Blueprint} (functionless : b.callbacks = {}) (finite : b.FiniteBounds)
    {written : List (String × Json)} (same : written.Perm b.members) :
    ofMembers written = .ok b.withoutNulls := by
  have distinct := (same.map Prod.fst).nodup_iff.2 b.nodup_members
  refine (ofMembers_eq_ok distinct).2 ?_
  have found := foundIn_members functionless finite
  rw [show (fun name => written.lookup name) = fun name => b.members.lookup name from
    funext (ByName.lookup_perm distinct same)]
  exact found

theorem defaultOfMember_optionalJson (shape : Shape) (value : Option Json) :
    shape.defaultOfMember (value.bind optionalJson) = shape.defaultOfMember value := by
  cases value with
  | none => rfl
  | some value => cases value <;> rfl

theorem saysYes_optionalJson (value : Option Json) :
    (value.bind optionalJson).any Json.saysYes = value.any Json.saysYes := by
  cases value with
  | none => rfl
  | some value => cases value <;> rfl

/-- Where a default is declared, and where a list is asked for, `null` is as good as nothing. -/
theorem compile_withoutNulls (b : Blueprint) :
    Declaration.compileBlueprint b.withoutNulls
      = Declaration.compileBlueprint { b with required := b.required.bind optionalJson } := by
  unfold Declaration.compileBlueprint
  dsimp only [withoutNulls]
  rw [saysYes_optionalJson]
  cases ScalarType.ofToken b.token with
  | error e => rfl
  | ok type =>
    rw [ok_bind, ok_bind, defaultOfMember_optionalJson]
    rfl

end Blueprint

namespace Declaration

/-- **A blueprint in writing is the blueprint**, whatever the order of its members, unless it says
`null` where it says whether the parameter is required. Then it is a blueprint that does not say
so. -/
theorem compile_members {b : Blueprint} (functionless : b.callbacks = {}) (finite : b.FiniteBounds)
    {written : List (String × Json)} (same : written.Perm b.members) :
    (b.required ≠ some .null →
      (json (.object written)).compile = (blueprint b).compile) ∧
    (b.required = some .null →
      (json (.object written)).compile = (blueprint { b with required := none }).compile) := by
  have distinct := (same.map Prod.fst).nodup_iff.2 b.nodup_members
  have typed : written.lookup "type" = some (.string b.token) :=
    (ByName.lookup_perm distinct same "type").trans b.lookup_members.1
  have read : (json (.object written)).compile
      = compileBlueprint { b with required := b.required.bind Blueprint.optionalJson } := by
    unfold compile compileJson
    dsimp only
    rw [typed]
    dsimp only
    rw [Blueprint.ofMembers_perm functionless finite same]
    exact b.compile_withoutNulls
  rw [read]
  refine ⟨fun said => ?_, fun null => by rw [null]; rfl⟩
  have kept : b.required.bind Blueprint.optionalJson = b.required := by
    cases required : b.required with
    | none => rfl
    | some value =>
      cases value with
      | null => exact absurd required said
      | _ => rfl
  rw [kept]
  rfl

/-- Members in another order, a list that is not asked for, and a default of several texts. -/
theorem compile_members_sample :
    let b : Blueprint :=
      { token := "String", default := some (.array [.string "a", .string "b"]),
        required := some (.string "yes"), list := some .null, least := some (.zero true),
        description := some "letters" }
    b.callbacks = {} ∧ b.FiniteBounds ∧ b.members.reverse.Perm b.members ∧
      b.required ≠ some .null ∧
      (json (.object b.members.reverse)).compile = (blueprint b).compile ∧
      ∃ p, (blueprint b).compile = .ok p ∧
        p.rule.default = some (.list [.text "a", .text "b"]) ∧
        p.rule.least = some (.zero true) := by
  intro b
  have finite : b.FiniteBounds := by
    refine ⟨fun x least => ?_, fun x greatest => ?_⟩
    · cases least
      rfl
    · cases greatest
  have said : b.required ≠ some .null := fun same => by cases same
  have reversed := b.members.reverse_perm
  have compiled : (blueprint b).compile
      = .ok (b.parameter ⟨.text, false⟩ (some (.list [.text "a", .text "b"]))) := by
    -- A name in place of the blueprint would stop the evaluation.
    subst b
    rfl
  exact ⟨rfl, finite, reversed, said, (compile_members rfl finite reversed).1 said, _, compiled,
    rfl, rfl⟩

/-- In a blueprint `null` says that the parameter is not required. In writing it says nothing, and
the parameter is required. -/
theorem compile_members_null :
    let b : Blueprint := { token := "string", required := some .null }
    (∃ p, (blueprint b).compile = .ok p ∧ p.rule.required = false) ∧
      ∃ p, (json (.object b.members)).compile = .ok p ∧ p.rule.required = true :=
  ⟨⟨_, rfl, rfl⟩, _, rfl, rfl⟩

end Declaration
end RequestParams
