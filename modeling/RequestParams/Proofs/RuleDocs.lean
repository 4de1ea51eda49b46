import RequestParams.Endpoint.Documentation
import RequestParams.Proofs.Defaults
import RequestParams.Proofs.JsonText
import RequestParams.Proofs.Members

/-!
# The documentation of a rule

A rule is documented in JSON, and what is documented is a declaration: it comes back from its text
(`Faithful.readAny`) and compiles to the rule (`Faithful.compile_writing`). Writer and reader know
nothing of each other, so every part has to be followed on its way: the default, which is written by
its value and read by its text; the bounds; and what compiling normalises, which is in normal form
already because it was compiled before.

Two things do not come back: that a number was declared as an integer, and the sign of a zero. So
what comes back is not the rule but `Rule.republished`.
-/

set_option autoImplicit false

namespace RequestParams

/-! ## What comes back -/

/-- The number with its sign taken off if it is zero. -/
def Binary64.unsignZero (x : Binary64) : Binary64 := if x.isZero then zero false else x

mutual

/-- The value with every zero unsigned. -/
def Value.unsignZeros : Value → Value
  | .number x => .number x.unsignZero
  | .list items => .list (unsignAll items)
  | v => v

def Value.unsignAll : List Value → List Value
  | [] => []
  | v :: rest => v.unsignZeros :: unsignAll rest

end

/-- The type that documentation tells; it does not tell integers from other numbers. -/
def ScalarType.documented : ScalarType → ScalarType
  | integer => number
  | type => type

/-- A rule that was documented, as it is when the documentation is compiled. -/
def Rule.republished (rule : Rule) : Rule where
  shape := ⟨rule.shape.type.documented, rule.shape.list⟩
  default := rule.default.map Value.unsignZeros
  required := rule.required
  least := rule.least.map Binary64.unsignZero
  greatest := rule.greatest.map Binary64.unsignZero
  description := rule.description

/-! ## Numbers -/

namespace Binary64

theorem finite_eq_zero {negative : Bool} {steps : Nat} {held : Representable steps}
    (none : steps = 0) : finite negative steps held = zero negative := by
  subst none
  rfl

/-- A number that documentation writes as an integer is that integer, up to the sign of zero. -/
theorem ofInt_of_safeInteger {x : Binary64} {z : Int} (h : x.safeInteger? = some z) :
    z.natAbs ≤ maxSafeInteger ∧ ofInt z = x.unsignZero := by
  obtain ⟨denotes, small⟩ := safeInteger?_eq_some.1 h
  refine ⟨small, ?_⟩
  have same := denotes.eq_or_zero (denotes_ofInt small)
  obtain ⟨negative, held, rfl, -⟩ := denotes
  by_cases none : z = 0
  · subst none
    have empty : (0 : Int).natAbs * stepsPerOne = 0 := by rw [Int.natAbs_zero, Nat.zero_mul]
    rw [ofInt_eq_finite held, finite_eq_zero empty]
    exact (if_pos (beq_iff_eq.2 empty)).symm
  · have some : z.natAbs * stepsPerOne ≠ 0 :=
      Nat.mul_ne_zero (Int.natAbs_ne_zero.2 none) (Nat.ne_of_gt stepsPerOne_pos)
    rw [same.resolve_right none]
    exact (if_neg (mt beq_iff_eq.1 some)).symm

theorem unsignZero_of_unsafe {x : Binary64} (h : x.safeInteger? = none) : x.unsignZero = x := by
  unfold unsignZero
  split
  · rename_i none
    cases x with
    | finite negative steps held =>
      have empty : steps = 0 := beq_iff_eq.1 none
      simp only [safeInteger?] at h
      rw [if_pos (by rw [empty, Nat.zero_mod, Nat.zero_div]; exact ⟨rfl, Nat.zero_le _⟩)] at h
      cases h
    | infinite negative => cases none
    | nan => cases none
  · rfl

end Binary64

namespace Json

/-- How a number is documented: by an integer or a number that readers do not miss, which is the
number itself up to the sign of zero, and which a parameter reads from its text. -/
theorem ofBinary64_finite {x : Binary64} (finite : x.isFinite = true)
    (kept : ∀ n ∈ (ofBinary64 x).numbers, n.Rereads) :
    ∃ n, ofBinary64 x = number n ∧ n.toBinary64 = x.unsignZero ∧
      (∀ nest, ComesBack nest (number n) (number n)) ∧
      ScalarType.number.read? (String.ofList n.chars) = some (.number x.unsignZero) := by
  unfold ofBinary64 at kept ⊢
  cases safe : x.safeInteger? with
  | some z =>
    obtain ⟨small, same⟩ := Binary64.ofInt_of_safeInteger safe
    have spells := Numeral.spells_digitsOf z.natAbs
    refine ⟨.integer z, rfl, same, fun nest => ?_, ?_⟩
    · exact comesBack_number nest (startsNumber_integer z) fun rest ends =>
        readNumber_integer small ends
    · have held := Binary64.representable_whole small
      have value := Decimal.toBinary64_whole (decide (z < 0)) held
      rw [← Numeral.toDecimal_digitsOf, ← Binary64.ofInt_eq_finite held, same] at value
      refine ScalarType.read?_number_spelled spells _ value ?_ String.toList_ofList
      rw [← same, Binary64.ofInt_eq_finite held]
      rfl
  | none =>
    simp only [safe, finite, if_true] at kept
    have rereads := kept (.real x) (List.mem_singleton.2 rfl)
    rw [Binary64.unsignZero_of_unsafe safe]
    refine ⟨.real x, if_pos finite, rfl, fun nest => ?_, ?_⟩
    · exact comesBack_number nest (startsNumber_real finite) fun rest ends =>
        readNumber_real finite rereads ends
    · obtain ⟨negative, steps, held, rfl⟩ := Binary64.exists_finite finite
      obtain ⟨n, power, spells, -, value⟩ := Binary64.realMagnitude_spelled held
      exact ScalarType.read?_number_spelled spells negative (value negative) finite
        String.toList_ofList

end Json

/-! ## Defaults -/

/-- Strings, numbers and truth values: what stands for a single text. -/
inductive Json.Scalar : Json → Prop where
  | string (s : String) : Scalar (.string s)
  | number (n : Json.Number) : Scalar (.number n)
  | boolean (b : Bool) : Scalar (.boolean b)

theorem Json.Scalar.optionalJson {j : Json} (h : j.Scalar) : Blueprint.optionalJson j = some j := by
  cases h <;> rfl

theorem Shape.defaultOfMember_scalar {j : Json} (h : j.Scalar) (shape : Shape) :
    shape.defaultOfMember (some j) = (do
      let text ← defaultText shape.type j
      if text = "" then .ok none else .ok (some (← shape.readDefault (.single text)))) := by
  cases h <;> rfl

namespace Value

theorem toJsonAll_eq_map (items : List Value) : toJsonAll items = items.map toJson := by
  induction items with
  | nil => rfl
  | cons item rest ih => rw [toJsonAll, ih, List.map_cons]

theorem unsignAll_eq_map (items : List Value) : unsignAll items = items.map unsignZeros := by
  induction items with
  | nil => rfl
  | cons item rest ih => rw [unsignAll, ih, List.map_cons]

end Value

namespace ScalarType

/-- A scalar is documented by a scalar, and its text reads as the scalar. -/
theorem Admits.published {type : ScalarType} {v : Value} (h : type.Admits v)
    (kept : ∀ n ∈ v.toJson.numbers, n.Rereads) :
    v.toJson.Scalar ∧ (∀ nest, v.toJson.ComesBack nest v.toJson) ∧
      ∃ text, (∀ other, defaultText other v.toJson = .ok text) ∧
        type.documented.read? text = some v.unsignZeros := by
  have number : ∀ x : Binary64, x.isFinite = true → (∀ n ∈ (Json.ofBinary64 x).numbers, n.Rereads) →
      (Json.ofBinary64 x).Scalar ∧
      (∀ nest, (Json.ofBinary64 x).ComesBack nest (Json.ofBinary64 x)) ∧
      ∃ text, (∀ other, defaultText other (Json.ofBinary64 x) = .ok text) ∧
        ScalarType.number.read? text = some (.number x.unsignZero) := by
    intro x finite kept
    obtain ⟨n, written, -, back, reads⟩ := Json.ofBinary64_finite finite kept
    rw [written]
    exact ⟨.number n, back, _, fun _ => rfl, reads⟩
  cases h with
  | @text s nonempty =>
    exact ⟨.string s, fun nest => Json.comesBack_string nest s, s, fun _ => rfl, if_neg nonempty⟩
  | @number x finite => exact number x finite kept
  | @integer x z exactly small =>
    have finite : x.isFinite = true := by
      obtain ⟨negative, held, rfl, -⟩ := exactly
      rfl
    exact number x finite kept
  | boolean b =>
    refine ⟨.boolean b, fun nest => Json.comesBack_boolean nest b, _, fun _ => rfl, ?_⟩
    cases b <;> rfl

theorem published_items {type : ScalarType} (other : ScalarType) {items : List Value}
    (each : ∀ item ∈ items, type.Admits item)
    (kept : ∀ item ∈ items, ∀ n ∈ item.toJson.numbers, n.Rereads) :
    ∃ texts, (items.map Value.toJson).mapM (defaultText other) = .ok texts ∧
      texts.filterMap type.documented.read? = items.map Value.unsignZeros := by
  induction items with
  | nil => exact ⟨[], rfl, rfl⟩
  | cons item rest ih =>
    obtain ⟨texts, written, reads⟩ :=
      ih (fun other member => each other (List.mem_cons_of_mem item member))
        fun other member => kept other (List.mem_cons_of_mem item member)
    obtain ⟨-, -, text, shown, read⟩ :=
      (each item List.mem_cons_self).published (kept item List.mem_cons_self)
    refine ⟨text :: texts, ?_, ?_⟩
    · rw [List.map_cons, List.mapM_cons, shown, written]
      rfl
    · rw [List.filterMap_cons_some read, reads, List.map_cons]

end ScalarType

/-- The shape that documentation tells. -/
def Shape.documented (shape : Shape) : Shape := ⟨shape.type.documented, shape.list⟩

/-- **A documented default is the default again**, a list item by item, even where no list was
declared. -/
theorem Shape.Admits.published {shape : Shape} {v : Value} (h : shape.Admits v)
    (kept : ∀ n ∈ v.toJson.numbers, n.Rereads) :
    v.toJson.ComesBack 1 v.toJson ∧ Blueprint.optionalJson v.toJson = some v.toJson ∧
      shape.documented.defaultOfMember (some v.toJson) = .ok (some v.unsignZeros) := by
  cases h with
  | scalar single admits =>
    obtain ⟨scalar, back, text, shown, read⟩ := admits.published kept
    refine ⟨back 1, scalar.optionalJson, ?_⟩
    have some : text ≠ "" := by
      rintro rfl
      rw [ScalarType.read?_empty] at read
      cases read
    have again : shape.documented.readDefault (.single text) = .ok v.unsignZeros := by
      have unlisted : shape.documented.list = false := single
      rw [readDefault_eq_ok, read?_of_not_list unlisted]
      exact read
    rw [defaultOfMember_scalar scalar, shown]
    show (if text = "" then _ else _) = _
    rw [if_neg some, again]
    rfl
  | @list items nonempty each =>
    have numbers : ∀ item ∈ items, ∀ n ∈ item.toJson.numbers, n.Rereads := by
      intro item member n inside
      refine kept n ?_
      show n ∈ Json.itemsNumbers (Value.toJsonAll items)
      rw [Value.toJsonAll_eq_map]
      exact Json.mem_itemsNumbers (List.mem_map_of_mem member) inside
    obtain ⟨texts, shown, read⟩ :=
      ScalarType.published_items shape.documented.type each numbers
    have written : (Value.list items).toJson = .array (items.map Value.toJson) :=
      congrArg Json.array (Value.toJsonAll_eq_map items)
    have unsigned : (Value.list items).unsignZeros = .list (items.map Value.unsignZeros) :=
      congrArg Value.list (Value.unsignAll_eq_map items)
    have again : shape.documented.readDefault (.many texts)
        = .ok (.list (items.map Value.unsignZeros)) := by
      rw [readDefault_eq_ok]
      show shape.documented.type.readList? texts = _
      have read : texts.filterMap shape.documented.type.read? = items.map Value.unsignZeros := read
      rw [ScalarType.readList?_eq_some, read]
      exact ⟨mt List.map_eq_nil_iff.1 nonempty, rfl⟩
    rw [written, unsigned]
    refine ⟨?_, rfl, ?_⟩
    · have same : (items.map Value.toJson).map id = items.map Value.toJson := List.map_id _
      have back := @Json.comesBack_array 0 (items.map Value.toJson) id fun j member => by
        obtain ⟨item, inside, rfl⟩ := List.mem_map.1 member
        exact ((each item inside).published (numbers item inside)).2.1 0
      rw [same] at back
      exact back
    · show (do
        let texts ← (items.map Value.toJson).mapM (defaultText shape.documented.type)
        Except.ok (some (← shape.documented.readDefault (.many texts)))) = _
      rw [shown]
      show (do
        Except.ok (some (← shape.documented.readDefault (.many texts)))) = _
      rw [again]
      rfl

/-! ## Rules -/

namespace Rule

theorem nodup_members (rule : Rule) : (rule.members.map Prod.fst).Nodup := by
  have all : (rule.members.map Prod.fst).Sublist
      (["type", "array", "required"] ++ ["default"] ++ ["min"] ++ ["max"] ++ ["description"]) := by
    iterate 4 apply Json.names_append_member
    exact List.Sublist.refl _
  exact all.nodup (by decide)

/-- The blueprint that the documentation of a rule spells. -/
def blueprint (rule : Rule) : Blueprint where
  token := rule.shape.type.name
  default := rule.default.map Value.toJson
  required := some (.boolean rule.required)
  list := some (.boolean rule.shape.list)
  least := rule.least.map Binary64.unsignZero
  greatest := rule.greatest.map Binary64.unsignZero
  description := rule.description

/-- A rule without bounds that JSON has no numbers for. -/
structure FiniteBounds (rule : Rule) : Prop where
  least : ∀ x ∈ rule.least, x.isFinite = true
  greatest : ∀ x ∈ rule.greatest, x.isFinite = true

instance (rule : Rule) : Decidable rule.FiniteBounds :=
  decidable_of_iff
    ((∀ x ∈ rule.least, x.isFinite = true) ∧ ∀ x ∈ rule.greatest, x.isFinite = true)
    ⟨fun h => ⟨h.1, h.2⟩, fun h => ⟨h.least, h.greatest⟩⟩

/-- A rule whose documentation loses nothing: it comes from a declaration, its bounds are finite,
and readers do not miss the numbers in it. -/
structure Faithful (rule : Rule) : Prop where
  settled : rule.Settled
  finite : rule.FiniteBounds
  kept : ∀ n ∈ rule.toJson.numbers, n.Rereads

variable {rule : Rule}

theorem Faithful.kept_member (h : rule.Faithful) {name : String} {value : Json}
    (member : (name, value) ∈ rule.members) : ∀ n ∈ value.numbers, n.Rereads := by
  intro n inside
  exact h.kept n (Json.mem_membersNumbers member inside)

theorem mem_members_default {v : Value} (h : rule.default = some v) :
    ("default", v.toJson) ∈ rule.members := by
  simp [members, Json.member, h]

theorem mem_members_least {x : Binary64} (h : rule.least = some x) :
    ("min", Json.ofBinary64 x) ∈ rule.members := by
  simp [members, Json.member, h]

theorem mem_members_greatest {x : Binary64} (h : rule.greatest = some x) :
    ("max", Json.ofBinary64 x) ∈ rule.members := by
  simp [members, Json.member, h]

/-- A bound that is documented reads as the bound. -/
theorem held_bound {bound : Option Binary64} (finite : ∀ x ∈ bound, x.isFinite = true)
    (kept : ∀ x ∈ bound, ∀ n ∈ (Json.ofBinary64 x).numbers, n.Rereads) :
    Blueprint.Held (fun value a => Blueprint.optionalReal value = .ok a) none
      (bound.map Json.ofBinary64) (bound.map Binary64.unsignZero) := by
  cases bound with
  | none => rfl
  | some x =>
    obtain ⟨n, written, value, -, -⟩ := Json.ofBinary64_finite (finite x rfl) (kept x rfl)
    show Blueprint.optionalReal (Json.ofBinary64 x) = .ok (some x.unsignZero)
    rw [written, ← value]
    rfl

/-- What a rule says under each name. -/
theorem lookup_members (rule : Rule) :
    rule.members.lookup "type" = some (.string rule.shape.type.name) ∧
    rule.members.lookup "array" = some (.boolean rule.shape.list) ∧
    rule.members.lookup "required" = some (.boolean rule.required) ∧
    rule.members.lookup "default" = rule.default.map Value.toJson ∧
    rule.members.lookup "min" = rule.least.map Json.ofBinary64 ∧
    rule.members.lookup "max" = rule.greatest.map Json.ofBinary64 ∧
    rule.members.lookup "description" = rule.description.map .string := by
  simp [members, List.lookup_append, Json.lookup_member, ByName.lookup_cons_ite]

theorem Faithful.foundIn_members (h : rule.Faithful) :
    rule.blueprint.FoundIn fun name => rule.members.lookup name := by
  obtain ⟨type, list, required, default, least, greatest, description⟩ := rule.lookup_members
  constructor
  · rw [type]
    rfl
  · rw [default]
    unfold blueprint
    cases same : rule.default with
    | none => rfl
    | some v =>
      have admits := (h.settled.default v same).admits
      obtain ⟨-, given, -⟩ := admits.published (h.kept_member (mem_members_default same))
      exact given.symm
  · rw [required]
    rfl
  · rw [list]
    rfl
  · rw [least]
    exact held_bound h.finite.least fun x same => h.kept_member (mem_members_least same)
  · rw [greatest]
    exact held_bound h.finite.greatest fun x same => h.kept_member (mem_members_greatest same)
  · rw [description]
    unfold blueprint
    cases rule.description <;> rfl
  · rfl

/-- The documentation of a rule, as readers of JSON give it. -/
def writing (rule : Rule) : Json := Json.objectByName id (ByName.ofList rule.members)

theorem writing_eq (rule : Rule) :
    rule.writing = .object (ByName.ofList rule.members).entries := by
  have same : ∀ entries : List (String × Json), (entries.map fun e => (e.1, id e.2)) = entries :=
    List.map_id
  unfold writing Json.objectByName
  rw [same]

theorem lookup_entries (rule : Rule) (name : String) :
    (ByName.ofList rule.members).entries.lookup name = rule.members.lookup name :=
  ByName.get?_ofList rule.nodup_members name

theorem ofToken_name (type : ScalarType) : ScalarType.ofToken type.name = .ok type.documented := by
  cases type <;> rfl

/-- A parameter that is made of the documentation has the rule that was documented: what compiling
normalises is in that form already. -/
theorem Faithful.parameter_blueprint (h : rule.Faithful) :
    rule.blueprint.parameter rule.shape.documented (rule.default.map Value.unsignZeros)
      = { rule := rule.republished } := by
  have required : (!(some (Json.boolean rule.required)).any Json.saysNo
      && (rule.default.map Value.unsignZeros).isNone) = rule.required := by
    cases default : rule.default with
    | none =>
      show (!(!rule.required) && true) = _
      rw [Bool.not_not, Bool.and_true]
    | some v =>
      rw [h.settled.optional (by rw [default]; exact nofun)]
      rfl
  have bounds : ∀ bound : Option Binary64, (rule.shape.type = .boolean → bound = none) →
      (if rule.shape.type.documented = .boolean then none else bound.map Binary64.unsignZero)
        = bound.map Binary64.unsignZero := by
    intro bound none
    split
    · rename_i documented
      have boolean : rule.shape.type = .boolean := by
        cases type : rule.shape.type <;> simp [type, ScalarType.documented] at documented ⊢
      rw [none boolean]
      rfl
    · rfl
  have least := bounds rule.least fun boolean => (h.settled.unbounded boolean).1
  have greatest := bounds rule.greatest fun boolean => (h.settled.unbounded boolean).2
  unfold Blueprint.parameter blueprint republished Shape.documented
  simp only [required, least, greatest]

theorem Faithful.default_blueprint (h : rule.Faithful) :
    rule.shape.documented.defaultOfMember rule.blueprint.default
      = .ok (rule.default.map Value.unsignZeros) := by
  unfold blueprint
  cases default : rule.default with
  | none => rfl
  | some v =>
    have admits := (h.settled.default v default).admits
    exact (admits.published (h.kept_member (mem_members_default default))).2.2

/-- **The documentation of a rule compiles to the rule.** -/
theorem Faithful.compile_writing (h : rule.Faithful) :
    (Declaration.json rule.writing).compile = .ok { rule := rule.republished } := by
  have distinct := ByName.nodup_of_ascending (ByName.ofList rule.members).ascending
  have found : rule.blueprint.FoundIn fun name =>
      (ByName.ofList rule.members).entries.lookup name := by
    simp only [lookup_entries]
    exact h.foundIn_members
  have known := (Blueprint.ofMembers_eq_ok distinct).2 found
  have type := rule.lookup_members.1
  rw [← lookup_entries] at type
  have compiled :
      Declaration.compileBlueprint rule.blueprint = .ok { rule := rule.republished } := by
    refine bind_eq_ok.2 ⟨_, ofToken_name rule.shape.type, bind_eq_ok.2
      ⟨_, h.default_blueprint, ?_⟩⟩
    exact congrArg Except.ok h.parameter_blueprint
  rw [writing_eq]
  unfold Declaration.compile Declaration.compileJson
  dsimp only
  rw [type, known]
  exact compiled

/-! ## Reading documentation -/

theorem Faithful.comesBack_bound (h : rule.Faithful) {name : String} {x : Binary64}
    (finite : x.isFinite = true) (member : (name, Json.ofBinary64 x) ∈ rule.members) :
    (Json.ofBinary64 x).ComesBack 1 (Json.ofBinary64 x) := by
  obtain ⟨n, written, -, back, -⟩ := Json.ofBinary64_finite finite (h.kept_member member)
  rw [written]
  exact back 1

theorem Faithful.comesBack_member (h : rule.Faithful) {member : String × Json}
    (known : member ∈ rule.members) : member.2.ComesBack 1 member.2 := by
  have all := known
  simp only [members, List.mem_append, List.mem_cons, List.not_mem_nil, or_false] at known
  rcases known with ((((rfl | rfl | rfl) | default) | least) | greatest) | description
  · exact Json.comesBack_string 1 _
  · exact Json.comesBack_boolean 1 _
  · exact Json.comesBack_boolean 1 _
  · obtain ⟨v, same, rfl⟩ := Json.mem_member default
    have admits := (h.settled.default v same).admits
    exact (admits.published (h.kept_member all)).1
  · obtain ⟨x, same, rfl⟩ := Json.mem_member least
    exact h.comesBack_bound (h.finite.least x same) all
  · obtain ⟨x, same, rfl⟩ := Json.mem_member greatest
    exact h.comesBack_bound (h.finite.greatest x same) all
  · obtain ⟨s, -, rfl⟩ := Json.mem_member description
    exact Json.comesBack_string 1 s

theorem Faithful.comesBack (h : rule.Faithful) : rule.toJson.ComesBack 2 rule.writing := by
  have same : (rule.members.map fun member => (member.1, id member.2)) = rule.members :=
    List.map_id _
  have back := @Json.comesBack_object 1 rule.members id fun member => h.comesBack_member
  rw [same] at back
  exact back

theorem Faithful.readAny (h : rule.Faithful) {depth : Nat} (deep : 2 ≤ depth) {rest : List Char}
    (ends : Json.Ends rest) :
    Json.readAny depth (rule.toJson.chars ++ rest) = .ok (rule.writing, rest) := by
  refine Json.readAny_of_comesBack h.comesBack ?_ deep ends
  show 2 ≤ ('\x7b' :: '"' :: _ : List Char).length
  simp

end Rule

end RequestParams
