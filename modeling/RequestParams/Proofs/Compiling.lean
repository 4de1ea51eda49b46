import RequestParams.Declaration.Compile
import RequestParams.Proofs.Reading

/-!
# What a compiled parameter comes from

Three forms of declaration are compiled by three functions, and every one of them can stop at an
error. Here is what the parameter is like when none did, whatever the form:

* its rule is settled (`compile_settled`): a default makes it optional, a truth value has no bounds,
  and the default is a value that a request could have supplied, because defaults are read by the
  function that reads requests;
* its functions are those of the declaration (`compile_callbacks`), which only a record built in
  code has.
-/

set_option autoImplicit false

namespace RequestParams

/-! ## Steps that may fail -/

section Steps

variable {ε α β : Type}

theorem error_eq_error {e other : ε} :
    (Except.error e : Except ε α) = .error other ↔ other = e := by
  rw [Except.error.injEq, eq_comm]

theorem bind_eq_error {x : Except ε α} {f : α → Except ε β} {e : ε} :
    (x >>= f) = .error e ↔ x = .error e ∨ ∃ a, x = .ok a ∧ f a = .error e := by
  cases x with
  | error other =>
    constructor
    · intro fails
      cases fails
      exact .inl rfl
    · rintro (fails | ⟨a, impossible, -⟩)
      · cases fails
        rfl
      · cases impossible
  | ok a =>
    constructor
    · exact fun fails => .inr ⟨a, rfl, fails⟩
    · rintro (impossible | ⟨a', same, fails⟩)
      · cases impossible
      · cases same
        exact fails

/-- A last step that does not fail does not decide the error. -/
theorem bind_ok_eq_error {x : Except ε α} {f : α → β} {e : ε} :
    (x >>= fun a => .ok (f a)) = .error e ↔ x = .error e := by
  rw [bind_eq_error, or_iff_left]
  rintro ⟨a, -, impossible⟩
  cases impossible

theorem bind_eq_ok {x : Except ε α} {f : α → Except ε β} {b : β} :
    (x >>= f) = .ok b ↔ ∃ a, x = .ok a ∧ f a = .ok b := by
  cases x with
  | error e => exact ⟨fun h => absurd h nofun, fun ⟨_, h, _⟩ => absurd h nofun⟩
  | ok a => exact ⟨fun h => ⟨a, rfl, h⟩, fun ⟨_, same, h⟩ => Except.ok.inj same ▸ h⟩

theorem ok_bind (a : α) (f : α → Except ε β) : (Except.ok a >>= f) = f a := rfl

theorem map_eq_ok {x : Except ε α} {f : α → β} {b : β} :
    f <$> x = .ok b ↔ ∃ a, x = .ok a ∧ f a = b := by
  cases x with
  | error e => exact ⟨fun h => absurd h nofun, fun ⟨_, h, _⟩ => absurd h nofun⟩
  | ok a =>
    exact ⟨fun h => ⟨a, rfl, Except.ok.inj h⟩,
      fun ⟨_, same, h⟩ => by rw [Except.ok.inj same, ← h]; rfl⟩

end Steps

/-! ## Defaults -/

namespace Shape

/-- A request could supply the value. -/
def Reads (shape : Shape) (v : Value) : Prop := ∃ supplied, shape.read? supplied = some v

theorem Reads.admits {shape : Shape} {v : Value} (h : shape.Reads v) : shape.Admits v := by
  obtain ⟨supplied, reads⟩ := h
  exact read?_admits reads

theorem readDefault_eq_ok {shape : Shape} {supplied : Supplied} {v : Value} :
    shape.readDefault supplied = .ok v ↔ shape.read? supplied = some v := by
  unfold readDefault
  cases shape.read? supplied <;> simp

theorem readDefault_reads {shape : Shape} {supplied : Supplied} {v : Value}
    (h : shape.readDefault supplied = .ok v) : shape.Reads v :=
  ⟨supplied, readDefault_eq_ok.1 h⟩

theorem defaultOfText_reads {shape : Shape} {text : Option String} {default : Option Value}
    (h : shape.defaultOfText text = .ok default) : ∀ v ∈ default, shape.Reads v := by
  intro v member
  cases text with
  | none => cases h; cases member
  | some text =>
    simp only [defaultOfText] at h
    split at h
    · cases h; cases member
    · obtain ⟨value, reads, rfl⟩ := map_eq_ok.1 h
      obtain rfl := Option.mem_some_iff.1 member
      exact readDefault_reads reads

theorem defaultOfJson_reads {shape : Shape} {value : Json} {default : Option Value}
    (h : shape.defaultOfJson value = .ok default) : ∀ v ∈ default, shape.Reads v := by
  intro v member
  unfold defaultOfJson at h
  split at h
  · obtain ⟨texts, _, h⟩ := bind_eq_ok.1 h
    obtain ⟨value, reads, h⟩ := bind_eq_ok.1 h
    cases h
    obtain rfl := Option.mem_some_iff.1 member
    exact readDefault_reads reads
  · obtain ⟨text, _, h⟩ := bind_eq_ok.1 h
    split at h
    · cases h; cases member
    · obtain ⟨value, reads, h⟩ := bind_eq_ok.1 h
      cases h
      obtain rfl := Option.mem_some_iff.1 member
      exact readDefault_reads reads

theorem defaultOfMember_reads {shape : Shape} {value : Option Json} {default : Option Value}
    (h : shape.defaultOfMember value = .ok default) : ∀ v ∈ default, shape.Reads v := by
  unfold defaultOfMember at h
  split at h
  · cases h; exact nofun
  · cases h; exact nofun
  · exact defaultOfJson_reads h

end Shape

/-! ## Rules -/

/-- What is so of every rule that a declaration comes to. -/
structure Rule.Settled (rule : Rule) : Prop where
  /-- Whoever has a default may stay away. -/
  optional : rule.default ≠ none → rule.required = false
  unbounded : rule.shape.type = .boolean → rule.least = none ∧ rule.greatest = none
  default : ∀ v ∈ rule.default, rule.shape.Reads v

namespace Declaration

theorem compileShorthand_settled {text : String} {p : Parameter}
    (h : compileShorthand text = .ok p) : p.rule.Settled := by
  obtain ⟨parts, _, h⟩ := bind_eq_ok.1 h
  obtain ⟨type, _, h⟩ := bind_eq_ok.1 h
  obtain ⟨default, reads, h⟩ := bind_eq_ok.1 h
  cases h
  refine ⟨fun some => ?_, fun _ => ⟨rfl, rfl⟩, Shape.defaultOfText_reads reads⟩
  -- There is a default only where there are parentheses.
  obtain ⟨token, list, group⟩ := parts
  cases group with
  | none =>
    cases reads
    exact absurd rfl some
  | some text => rfl

theorem compileBlueprint_settled {b : Blueprint} {p : Parameter}
    (h : compileBlueprint b = .ok p) : p.rule.Settled := by
  obtain ⟨type, _, h⟩ := bind_eq_ok.1 h
  obtain ⟨default, reads, h⟩ := bind_eq_ok.1 h
  cases h
  refine ⟨fun some => ?_, fun boolean => ⟨if_pos boolean, if_pos boolean⟩,
    Shape.defaultOfMember_reads reads⟩
  obtain ⟨v, rfl⟩ := Option.ne_none_iff_exists'.1 some
  exact Bool.and_false _

/-- What holds of every compiled text and of every compiled blueprint holds of every compiled JSON
value: it is one of the two in writing. -/
theorem compileJson_cases {value : Json} {p : Parameter} (h : compileJson value = .ok p) :
    (∃ text, value = .string text ∧ compileShorthand text = .ok p) ∨
    ∃ members b, value = .object members ∧ Blueprint.ofMembers members = .ok b ∧
      compileBlueprint b = .ok p := by
  unfold compileJson at h
  split at h
  · rename_i text
    exact .inl ⟨text, rfl, h⟩
  · rename_i members
    split at h
    · split at h
      · rename_i b known
        exact .inr ⟨members, b, rfl, known, h⟩
      · cases h
    · cases h
  · cases h

/-- **Compiling settles a rule**, whatever the form of the declaration. -/
theorem compile_settled {declaration : Declaration} {p : Parameter}
    (h : declaration.compile = .ok p) : p.rule.Settled := by
  cases declaration with
  | shorthand text => exact compileShorthand_settled h
  | blueprint b => exact compileBlueprint_settled h
  | json value =>
    rcases compileJson_cases h with ⟨text, _, h⟩ | ⟨members, b, _, _, h⟩
    · exact compileShorthand_settled h
    · exact compileBlueprint_settled h

/-- A compiled default is a value of the compiled shape, as if a request had supplied it. -/
theorem compile_default_admits {declaration : Declaration} {p : Parameter}
    (h : declaration.compile = .ok p) : ∀ v ∈ p.rule.default, p.rule.shape.Admits v := by
  intro v member
  exact ((compile_settled h).default v member).admits

/-! ## Functions -/

/-- The functions that a declaration brings along. Only a record built in code has any. -/
def callbacks : Declaration → Callbacks
  | blueprint b => b.callbacks
  | _ => {}

theorem compileShorthand_callbacks {text : String} {p : Parameter}
    (h : compileShorthand text = .ok p) : p.callbacks = {} := by
  obtain ⟨parts, _, h⟩ := bind_eq_ok.1 h
  obtain ⟨type, _, h⟩ := bind_eq_ok.1 h
  obtain ⟨default, _, h⟩ := bind_eq_ok.1 h
  cases h
  rfl

theorem compileBlueprint_callbacks {b : Blueprint} {p : Parameter}
    (h : compileBlueprint b = .ok p) : p.callbacks = b.callbacks := by
  obtain ⟨type, _, h⟩ := bind_eq_ok.1 h
  obtain ⟨default, _, h⟩ := bind_eq_ok.1 h
  cases h
  rfl

/-- A member of a JSON object never brings a function. -/
theorem withMember_callbacks {b b' : Blueprint} {name : String} {value : Json}
    (h : b.withMember name value = .ok b') : b'.callbacks = b.callbacks := by
  unfold Blueprint.withMember at h
  split at h
  · split at h <;> cases h
    rfl
  -- Three members are taken over as they are, and three more have to be read first.
  iterate 3
    split at h
    · cases h; rfl
  iterate 3
    split at h
    · obtain ⟨field, _, h⟩ := bind_eq_ok.1 h
      cases h
      rfl
  cases h
  rfl

theorem ofMembers_callbacks {members : List (String × Json)} {b : Blueprint}
    (h : Blueprint.ofMembers members = .ok b) : b.callbacks = {} := by
  unfold Blueprint.ofMembers at h
  -- The fold starts from the blank blueprint; only that it has no functions is carried along.
  have start : Blueprint.record.blank.callbacks = {} := rfl
  generalize Blueprint.record.blank = before at h start
  induction members generalizing before with
  | nil => cases h; exact start
  | cons member rest ih =>
    obtain ⟨next, step, h⟩ := bind_eq_ok.1 h
    exact ih next h ((withMember_callbacks step).trans start)

/-- **A compiled parameter has the functions of its declaration.** -/
theorem compile_callbacks {declaration : Declaration} {p : Parameter}
    (h : declaration.compile = .ok p) : p.callbacks = declaration.callbacks := by
  cases declaration with
  | shorthand text => exact compileShorthand_callbacks h
  | blueprint b => exact compileBlueprint_callbacks h
  | json value =>
    rcases compileJson_cases h with ⟨text, _, h⟩ | ⟨members, b, _, known, h⟩
    · exact compileShorthand_callbacks h
    · exact (compileBlueprint_callbacks h).trans (ofMembers_callbacks known)

end Declaration
end RequestParams
