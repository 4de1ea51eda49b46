import RequestParams.Proofs.Merging
import RequestParams.Proofs.RuleDocs

/-!
# Documentation is a plan again

The documentation of an endpoint in JSON is meant to be used as a plan. Here is that it can be:
`Plan.read_doc` says that its text reads as a plan, member by member, with the rules as declarations
in their order, and `Endpoint.doc_republished` that this plan compiles, under whatever settings, to
an endpoint with the same documentation.
-/

set_option autoImplicit false

namespace RequestParams

/-! ## Plans -/

namespace Plan

open Json (Takes memberChars readElements readElements_bracketed)

/-- A member of `params` is read as a declaration and put under its name. -/
def enterDeclaration (depth : Nat) : List (String × Declaration) → List Char →
    Except Json.ReadError (List (String × Declaration) × List Char) :=
  Json.enter (fun cs => Json.ReadError.lift (Json.readName cs)) (Json.readAny depth)
    fun name value => Roster.put name (Declaration.ofJson value)

theorem readDeclarations_brace (depth : Nat) (rest : List Char) :
    readDeclarations (depth + 1) ('\x7b' :: rest) =
      readElements Json.ReadError.fault '\x7d' (enterDeclaration depth) (rest.length + 1) true []
        rest := by
  unfold readDeclarations
  rw [Json.skipSpace_cons (by decide)]
  rfl

/-- The member of a rule in the documentation of an endpoint. -/
def ruleChars (declared : String × Rule) : List Char := memberChars (declared.1, declared.2.toJson)

/-- The rules of an endpoint are read as declarations of the same names in the same order. -/
theorem readDeclarations_rules {rules : List (String × Rule)}
    (distinct : (rules.map Prod.fst).Nodup)
    (faithful : ∀ declared ∈ rules, declared.2.Faithful) {depth : Nat} (deep : 2 ≤ depth)
    (rest : List Char) :
    readDeclarations (depth + 1)
      ((Json.object (rules.map fun declared => (declared.1, declared.2.toJson))).chars ++ rest)
      = .ok (rules.map fun declared => (declared.1, .json declared.2.writing), rest) := by
  have keys : ∀ member rest, Json.ReadError.lift (Json.readName (memberChars member ++ rest))
      = .ok (member.1, member.2.chars ++ rest) := by
    intro member rest
    rw [Json.readName_memberChars]
    rfl
  have takes : Takes (enterDeclaration depth) ruleChars [] rules
      (rules.foldl
        (fun roster declared => Roster.put declared.1 (.json declared.2.writing) roster) []) :=
    Json.takes_enter keys (fun declared known _ ends => (faithful declared known).readAny deep ends)
      []
  have roster : rules.foldl
      (fun roster declared => Roster.put declared.1 (.json declared.2.writing) roster) []
      = rules.map fun declared => (declared.1, Declaration.json declared.2.writing) := by
    have all := @Roster.putAll_of_distinct _
      (rules.map fun declared => (declared.1, Declaration.json declared.2.writing)) [] (by
        rw [List.nil_append, List.map_map]
        exact distinct)
    unfold Roster.putAll at all
    rw [List.foldl_map] at all
    exact all
  rw [roster] at takes
  have begins : ∀ declared ∈ rules, Json.Begins (ruleChars declared) :=
    fun declared _ => Json.begins_memberChars _
  show readDeclarations (depth + 1) ('\x7b' :: (Json.membersChars _ ++ rest)) = _
  rw [readDeclarations_brace, Json.membersChars_eq_bracketed, List.map_map]
  exact readElements_bracketed (.inr rfl) begins takes rest

/-- The plan that documentation is. -/
def ofDoc (doc : EndpointDoc) : Plan where
  description := doc.description
  parameters := doc.rules.map fun declared => (declared.1, .json declared.2.writing)
  order := some doc.order
  slot := some doc.slot

section Members

variable {given : List String} (plan : Plan) (rest : List Char)

theorem readMember_description (fresh : "description" ∉ given) (s : String) :
    record.readMember 126 (given, plan) (memberChars ("description", .string s) ++ rest)
      = .ok (("description" :: given, { plan with description := some s }), rest) := by
  refine @Json.Record.readMember_memberChars _ record 126 given plan (_, _) _
    (fun p => { p with description := some s }) rfl fresh rest ?_
  show (Json.readOptional Json.readText (Json.quote s ++ rest) >>= _) = _
  rw [Json.readOptional_quote]
  rfl

theorem readMember_order (fresh : "paramOrder" ∉ given) (order : List String) :
    record.readMember 126 (given, plan)
      (memberChars ("paramOrder", .array (order.map .string)) ++ rest)
      = .ok (("paramOrder" :: given, { plan with order := some order }), rest) := by
  refine @Json.Record.readMember_memberChars _ record 126 given plan (_, _) _
    (fun p => { p with order := some order }) rfl fresh rest ?_
  show (Json.readOptional (Json.readTexts 126) ((Json.array (order.map .string)).chars ++ rest)
    >>= _) = _
  rw [Json.readOptional_texts]
  rfl

theorem readMember_slot (fresh : "paramMap" ∉ given) (slot : String) :
    record.readMember 126 (given, plan) (memberChars ("paramMap", .string slot) ++ rest)
      = .ok (("paramMap" :: given, { plan with slot := some slot }), rest) := by
  refine @Json.Record.readMember_memberChars _ record 126 given plan (_, _) _
    (fun p => { p with slot := some slot }) rfl fresh rest ?_
  show (Json.readOptional Json.readText (Json.quote slot ++ rest) >>= _) = _
  rw [Json.readOptional_quote]
  rfl

theorem readMember_params (fresh : "params" ∉ given) {rules : List (String × Rule)}
    (distinct : (rules.map Prod.fst).Nodup) (faithful : ∀ declared ∈ rules, declared.2.Faithful) :
    record.readMember 126 (given, plan)
      (memberChars ("params", .object (rules.map fun e => (e.1, e.2.toJson))) ++ rest)
      = .ok (("params" :: given, { plan with
          parameters := rules.map fun declared => (declared.1, .json declared.2.writing) }),
        rest) := by
  refine @Json.Record.readMember_memberChars _ record 126 given plan (_, _) _
    (fun p => { p with
      parameters := rules.map fun declared => (declared.1, .json declared.2.writing) })
    rfl fresh rest ?_
  show (readDeclarations 126 (Json.chars _ ++ rest) >>= _) = _
  rw [@readDeclarations_rules rules distinct faithful 125 (by decide) rest]
  rfl

end Members

/-- **Documentation reads as a plan.** -/
theorem read_doc {doc : EndpointDoc} (distinct : (doc.rules.map Prod.fst).Nodup)
    (faithful : ∀ declared ∈ doc.rules, declared.2.Faithful) :
    read doc.toJson.text = .ok (ofDoc doc) := by
  have others : ∀ (given : List String) (plan : Plan), (∀ name ∈ given, name = "description") →
      Takes (record.readMember 126) memberChars (given, plan)
        [("paramOrder", .array (doc.order.map .string)), ("paramMap", .string doc.slot),
          ("params", .object (doc.rules.map fun e => (e.1, e.2.toJson)))]
        ("params" :: "paramMap" :: "paramOrder" :: given, { ofDoc doc with
          description := plan.description
          callbacks := plan.callbacks }) := by
    intro given plan known
    have order : "paramOrder" ∉ given := fun member => absurd (known _ member) (by decide)
    have slot : "paramMap" ∉ "paramOrder" :: given := by
      intro member
      rcases List.mem_cons.1 member with same | member
      · exact absurd same (by decide)
      · exact absurd (known _ member) (by decide)
    have params : "params" ∉ "paramMap" :: "paramOrder" :: given := by
      intro member
      rcases List.mem_cons.1 member with same | member
      · exact absurd same (by decide)
      · rcases List.mem_cons.1 member with same | member
        · exact absurd same (by decide)
        · exact absurd (known _ member) (by decide)
    exact .cons (fun rest _ => readMember_order plan rest order doc.order)
      (.cons (fun rest _ => readMember_slot _ rest slot doc.slot)
        (.cons (fun rest _ => readMember_params _ rest params distinct faithful) .nil))
  unfold read EndpointDoc.toJson
  cases described : doc.description with
  | none =>
    have takes := others [] {} (List.forall_mem_nil _)
    refine (Json.Record.read_object takes rfl).trans ?_
    unfold ofDoc
    rw [described]
  | some s =>
    have takes := others ["description"] { description := some s } fun _ => List.mem_singleton.1
    have all : Takes (record.readMember 126) memberChars ([], record.blank)
        (("description", .string s) :: _) _ :=
      .cons (fun rest _ => readMember_description {} rest List.not_mem_nil s) takes
    refine (Json.Record.read_object all rfl).trans ?_
    unfold ofDoc
    rw [described]

end Plan

/-- A list that is compiled item by item, if no item fails. -/
theorem mapM_eq_ok_map {ε α β : Type} {f : α → Except ε β} {g : α → β} {items : List α}
    (each : ∀ a ∈ items, f a = .ok (g a)) : items.mapM f = .ok (items.map g) :=
  mapM_eq_ok.2 (List.forall₂_map_right_iff.2 (List.forall₂_same.2 each))

namespace Endpoint

theorem ofPlan_ofDoc {doc : EndpointDoc} (faithful : ∀ declared ∈ doc.rules, declared.2.Faithful)
    (settings : Settings) :
    ofPlan settings (Plan.ofDoc doc) = .ok
      { description := doc.description
        parameters := doc.rules.map fun declared =>
          (declared.1, handDown settings.callbacks.validate { rule := declared.2.republished })
        order := doc.order
        slot := doc.slot
        callbacks := Callbacks.orElse {} settings.callbacks } := by
  refine bind_eq_ok.2 ⟨_, ?_, rfl⟩
  unfold Plan.ofDoc
  dsimp only
  rw [List.mapM_map]
  refine mapM_eq_ok_map fun declared known => ?_
  exact bind_eq_ok.2 ⟨_, (faithful declared known).compile_writing, rfl⟩

variable {settings : Settings} {plan : Plan} {e : Endpoint}

/-- The numbers of a rule are numbers of the documentation that it is in. -/
theorem mem_doc_numbers {declared : String × Parameter} (known : declared ∈ e.parameters)
    {n : Json.Number} (inside : n ∈ declared.2.rule.toJson.numbers) :
    n ∈ e.doc.toJson.numbers := by
  have rule : (declared.1, declared.2.rule.toJson) ∈
      e.doc.rules.map fun e => (e.1, e.2.toJson) := by
    unfold doc
    rw [List.map_map]
    exact List.mem_map_of_mem known
  have params : n ∈ (Json.object (e.doc.rules.map fun e => (e.1, e.2.toJson))).numbers :=
    Json.mem_membersNumbers rule inside
  exact Json.mem_membersNumbers (List.mem_append_right _
    (List.mem_cons_of_mem _ (List.mem_cons_of_mem _ List.mem_cons_self))) params

/-- A compiled rule is documented faithfully where its numbers can be written. -/
theorem doc_faithful (compiled : ofPlan settings plan = .ok e)
    (finite : ∀ declared ∈ e.parameters, declared.2.rule.FiniteBounds)
    (kept : ∀ n ∈ e.doc.toJson.numbers, n.Rereads) :
    ∀ declared ∈ e.doc.rules, declared.2.Faithful := by
  intro declared member
  obtain ⟨parameter, known, rfl⟩ := List.mem_map.1 member
  obtain ⟨declaration, _, _, own, settles, same⟩ := (ofPlan_layers compiled).declared known
  have settled := Declaration.compile_settled settles
  rw [← rule_handDown (plan.callbacks.orElse settings.callbacks).validate own, ← same] at settled
  exact ⟨settled, finite parameter known, fun n inside => kept n (mem_doc_numbers known inside)⟩

/-- **Documentation is a plan that compiles to the same endpoint**, under whatever settings. The
parameters are those that were documented, in the same order, and so are their rules; only that
integers have become numbers and zeros have lost their sign. The functions that hosts supply are not
documented.

The numbers in the text are assumed to be read as they were written. -/
theorem doc_republished (compiled : ofPlan settings plan = .ok e)
    (distinct : (plan.parameters.map Prod.fst).Nodup)
    (finite : ∀ declared ∈ e.parameters, declared.2.rule.FiniteBounds)
    (kept : ∀ n ∈ e.doc.toJson.numbers, n.Rereads) (others : Settings) :
    ∃ again, Plan.read e.doc.toJson.text = .ok again ∧
      ∃ e', ofPlan others again = .ok e' ∧ e'.description = e.description ∧ e'.order = e.order ∧
        e'.slot = e.slot ∧
        e'.parameters.map (fun declared => (declared.1, declared.2.rule))
          = e.parameters.map fun declared => (declared.1, declared.2.rule.republished) := by
  have faithful := doc_faithful compiled finite kept
  have names : (e.doc.rules.map Prod.fst).Nodup := by
    unfold doc
    rw [List.map_map]
    exact (ofPlan_layers compiled).nodup_names distinct
  refine ⟨_, Plan.read_doc names faithful, _, ofPlan_ofDoc faithful others, rfl, rfl, rfl, ?_⟩
  unfold doc
  dsimp only
  rw [List.map_map, List.map_map]
  rfl

/-- A bound that is no integer, a list as default, and an integer, which comes back as a number. -/
theorem doc_republished_sample :
    let half : Binary64 := .ofRatio false 1 2
    let plan : Plan :=
      { description := some "Search"
        parameters :=
          [("size", .blueprint { token := "number", least := some half }),
            ("tags", .shorthand "string[](a,b)"), ("page", .shorthand "integer(1)")] }
    ∃ e, ofPlan {} plan = .ok e ∧ (plan.parameters.map Prod.fst).Nodup ∧
      (∀ declared ∈ e.parameters, declared.2.rule.FiniteBounds) ∧
      (∀ n ∈ e.doc.toJson.numbers, n.Rereads) ∧
      ∃ again, Plan.read e.doc.toJson.text = .ok again ∧
        ∃ e', ofPlan {} again = .ok e' ∧ e'.description = some "Search" ∧
          (e'.parameters.map fun declared => (declared.1, declared.2.rule.shape.type))
            = [("size", .number), ("tags", .text), ("page", .number)] := by
  intro half plan
  obtain ⟨e, compiled, finite, kept, description, types⟩ :
      ∃ e, ofPlan {} plan = .ok e ∧ (∀ declared ∈ e.parameters, declared.2.rule.FiniteBounds) ∧
        (∀ n ∈ e.doc.toJson.numbers, n.Rereads) ∧ e.description = some "Search" ∧
        (e.parameters.map fun declared => (declared.1, declared.2.rule.republished.shape.type))
          = [("size", .number), ("tags", .text), ("page", .number)] := by
    subst plan half
    exact ⟨_, rfl, by decide +kernel, by decide +kernel, rfl, rfl⟩
  have distinct : (plan.parameters.map Prod.fst).Nodup := by decide
  obtain ⟨again, read, e', compiles, same, -, -, rules⟩ :=
    doc_republished compiled distinct finite kept {}
  refine ⟨e, compiled, distinct, finite, kept, again, read, e', compiles,
    same.trans description, ?_⟩
  have shapes := congrArg (List.map fun rule => (rule.1, rule.2.shape.type)) rules
  rw [List.map_map, List.map_map] at shapes
  exact shapes.trans types

end Endpoint
end RequestParams
