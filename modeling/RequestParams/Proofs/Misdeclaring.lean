import RequestParams.Proofs.Forms

/-!
# Which declarations are turned down

A declaration is looked at in three steps: whether it has the form of a declaration, whether its type
is known, and whether its default reads. The first step that fails decides the error. The steps go
through three compilers and several helpers; here it is said without them which declarations fail
and with what (`compile_refuses`).

Past the first step all forms come to the same: a token, whether a list is declared, and a default
in JSON, if there is one (`Outline`). What is wrong with the members of an object and with the items
of a list is decided by the first one that something is wrong with (`FirstFault`).

One case is not like the others. A default that is empty declares nothing, and so does not make a
declaration fail; but a list without items is read like any other list, and reads as nothing
(`compile_empty_list`).
-/

set_option autoImplicit false

namespace RequestParams

/-! ## The first of several faults -/

/-- Among items the first one that is at fault decides which fault it is. -/
def FirstFault {α ε : Type} (Fault : α → ε → Prop) (items : List α) (e : ε) : Prop :=
  ∃ before a after, items = before ++ a :: after ∧
    (∀ earlier ∈ before, ∀ other, ¬ Fault earlier other) ∧ Fault a e

section FirstFault

variable {α β ε : Type} {Fault : α → ε → Prop} {a : α} {rest : List α} {e : ε}

theorem not_firstFault_nil : ¬ FirstFault Fault [] e := by
  rintro ⟨before, a, after, order, -, -⟩
  exact absurd order.symm (List.append_ne_nil_of_right_ne_nil before (List.cons_ne_nil a after))

theorem firstFault_cons :
    FirstFault Fault (a :: rest) e ↔
      Fault a e ∨ (∀ other, ¬ Fault a other) ∧ FirstFault Fault rest e := by
  constructor
  · rintro ⟨before, found, after, order, first, fault⟩
    cases before with
    | nil =>
      cases order
      exact .inl fault
    | cons head before =>
      cases order
      obtain ⟨clean, first⟩ := List.forall_mem_cons.1 first
      exact .inr ⟨clean, before, found, after, rfl, first, fault⟩
  · rintro (fault | ⟨clean, before, found, after, rfl, first, fault⟩)
    · exact ⟨[], a, rest, rfl, List.forall_mem_nil _, fault⟩
    · exact ⟨a :: before, found, after, rfl, List.forall_mem_cons.2 ⟨clean, first⟩, fault⟩

/-- If there are faults, one of them is the first. -/
theorem exists_firstFault_iff {items : List α} :
    (∃ e, FirstFault Fault items e) ↔ ∃ a ∈ items, ∃ e, Fault a e := by
  constructor
  · rintro ⟨e, before, a, after, rfl, -, fault⟩
    exact ⟨a, List.mem_append_right before List.mem_cons_self, e, fault⟩
  · rintro ⟨a, member, e, fault⟩
    induction items with
    | nil => cases member
    | cons head rest ih =>
      by_cases clean : ∀ other, ¬ Fault head other
      · rcases List.mem_cons.1 member with rfl | member
        · exact absurd fault (clean e)
        · obtain ⟨e, first⟩ := ih member
          exact ⟨e, firstFault_cons.2 (.inr ⟨clean, first⟩)⟩
      · obtain ⟨other, fault⟩ := Classical.not_forall_not.1 clean
        exact ⟨other, firstFault_cons.2 (.inl fault)⟩

theorem mapM_eq_error {f : α → Except ε β} {items : List α} :
    items.mapM f = .error e ↔ FirstFault (fun a e => f a = .error e) items e := by
  induction items with
  | nil =>
    refine iff_of_false (fun impossible => ?_) not_firstFault_nil
    cases impossible
  | cons a rest ih =>
    rw [List.mapM_cons, bind_eq_error, firstFault_cons, ← ih]
    refine or_congr_right ⟨?_, ?_⟩
    · rintro ⟨b, first, fails⟩
      refine ⟨fun other fault => ?_, bind_ok_eq_error.1 fails⟩
      rw [first] at fault
      cases fault
    · -- What has no fault goes through, so the fault is one of the rest.
      rintro ⟨clean, fails⟩
      cases first : f a with
      | error other => exact absurd first (clean other)
      | ok b => exact ⟨b, rfl, bind_ok_eq_error.2 fails⟩

/-- Where the state has no bearing on faults, a run stops at the first item that is at fault. -/
theorem foldlM_eq_error {step : β → α → Except ε β}
    (each : ∀ b a e, step b a = .error e ↔ Fault a e) {items : List α} {start : β} :
    items.foldlM step start = .error e ↔ FirstFault Fault items e := by
  induction items generalizing start with
  | nil =>
    refine iff_of_false (fun impossible => ?_) not_firstFault_nil
    cases impossible
  | cons a rest ih =>
    rw [List.foldlM_cons, bind_eq_error, firstFault_cons, each]
    refine or_congr_right ⟨?_, ?_⟩
    · rintro ⟨next, first, fails⟩
      refine ⟨fun other fault => ?_, ih.1 fails⟩
      rw [(each start a other).2 fault] at first
      cases first
    · rintro ⟨clean, fails⟩
      cases first : step start a with
      | error other => exact absurd ((each start a other).1 first) (clean other)
      | ok next => exact ⟨next, rfl, ih.2 fails⟩

end FirstFault

/-! ## Types -/

namespace ScalarType

/-- The words that name types. -/
def table : List (String × ScalarType) :=
  [("string", text), ("number", number), ("float", number), ("double", number),
    ("integer", integer), ("short", integer), ("bool", boolean), ("boolean", boolean)]

theorem ofToken?_eq_lookup (token : String) :
    ofToken? token = table.lookup (Text.word token) := by
  unfold ofToken?
  generalize Text.word token = word
  simp only [table, ByName.lookup_cons_ite, List.lookup_nil]
  grind

end ScalarType

/-! ## Defaults -/

/-- The text of a scalar in JSON: a string is its own text, numbers and truth values are written as
they are in JSON. -/
def Json.scalarText? : Json → Option String
  | .string s => some s
  | .number n => some (String.ofList n.chars)
  | .boolean b => some (Value.truthWord b)
  | _ => none

theorem defaultText_eq_error {type : ScalarType} {value : Json} {err : DeclarationError} :
    defaultText type value = .error err ↔
      value.scalarText? = none ∧ err = .unusableDefault type value.text := by
  cases value with
  | null | array | object => exact error_eq_error.trans (and_iff_right rfl).symm
  | string | number | boolean =>
    refine ⟨fun h => ?_, fun h => ?_⟩
    · cases h
    · cases h.1

theorem defaultText_eq_ok {type : ScalarType} {value : Json} {text : String} :
    defaultText type value = .ok text ↔ value.scalarText? = some text := by
  cases value with
  | null | array | object =>
    refine ⟨fun h => ?_, fun h => ?_⟩
    · cases h
    · cases h
  | string | number | boolean =>
    refine ⟨fun h => ?_, fun h => ?_⟩
    · cases h
      rfl
    · cases h
      rfl

/-- How supplied texts are shown where they do not read. -/
def Supplied.shown : Supplied → String
  | single s => s
  | many items => ",".intercalate items

namespace Shape

/-- What is read of one text: its parts where a list is declared, or else the text itself. -/
def pieces (shape : Shape) (text : String) : List String :=
  if shape.list then parts text else [text]

/-- A declared default that is of no use, and the text that is shown for it. -/
inductive Unusable (shape : Shape) : Json → String → Prop where
  | object (members : List (String × Json)) :
      Unusable shape (.object members) (Json.object members).text
  /-- A list with an item that is neither string, number nor truth value. -/
  | badItem {items before after : List Json} {item : Json} (order : items = before ++ item :: after)
      (first : ∀ earlier ∈ before, earlier.scalarText? ≠ none) (bad : item.scalarText? = none) :
      Unusable shape (.array items) item.text
  /-- A list none of whose items reads. -/
  | unreadItems {items : List Json} (filled : items ≠ [])
      (unread : ∀ item ∈ items, ∃ text, item.scalarText? = some text ∧
        shape.type.read? text = none) :
      Unusable shape (.array items) (",".intercalate (items.filterMap Json.scalarText?))
  | emptyList : Unusable shape (.array []) ""
  /-- A text nothing of which reads. -/
  | unread {value : Json} {text : String} (scalar : value.scalarText? = some text)
      (filled : text ≠ "") (unread : ∀ piece ∈ shape.pieces text, shape.type.read? piece = none) :
      Unusable shape value text

variable {shape : Shape} {err : DeclarationError}

theorem readList?_eq_none {type : ScalarType} {texts : List String} :
    type.readList? texts = none ↔ ∀ text ∈ texts, type.read? text = none := by
  unfold ScalarType.readList?
  rw [← List.filterMap_eq_nil_iff]
  cases texts.filterMap type.read? with
  | nil => exact iff_of_true rfl rfl
  | cons v others =>
    refine iff_of_false (fun impossible => ?_) (List.cons_ne_nil v others)
    cases impossible

theorem read?_single_eq_none {text : String} :
    shape.read? (.single text) = none ↔
      ∀ piece ∈ shape.pieces text, shape.type.read? piece = none := by
  unfold read? pieces
  dsimp only
  split
  · exact readList?_eq_none
  · exact (List.forall_mem_singleton (p := fun piece => shape.type.read? piece = none)).symm

theorem readDefault_eq_error {supplied : Supplied} :
    shape.readDefault supplied = .error err ↔
      shape.read? supplied = none ∧ err = .unusableDefault shape.type supplied.shown := by
  unfold readDefault
  cases shape.read? supplied with
  | some v =>
    refine iff_of_false (fun impossible => ?_) (fun impossible => ?_)
    · cases impossible
    · cases impossible.1
  | none =>
    rw [and_iff_right rfl]
    cases supplied with
    | single text => exact error_eq_error
    | many texts => exact error_eq_error

/-- A list of scalars supplies their texts. -/
theorem mapM_defaultText {type : ScalarType} {items : List Json} {texts : List String} :
    items.mapM (defaultText type) = .ok texts ↔
      (∀ item ∈ items, item.scalarText? ≠ none) ∧ items.filterMap Json.scalarText? = texts := by
  induction items generalizing texts with
  | nil =>
    refine ⟨fun all => ?_, fun all => ?_⟩
    · cases all
      exact ⟨List.forall_mem_nil _, rfl⟩
    · rw [← all.2]
      rfl
  | cons item rest ih =>
    rw [List.mapM_cons, bind_eq_ok]
    constructor
    · rintro ⟨text, first, all⟩
      obtain ⟨others, remaining, all⟩ := bind_eq_ok.1 all
      cases all
      have scalar := defaultText_eq_ok.1 first
      obtain ⟨scalars, same⟩ := ih.1 remaining
      refine ⟨List.forall_mem_cons.2 ⟨?_, scalars⟩, ?_⟩
      · rw [scalar]
        exact Option.some_ne_none text
      · rw [List.filterMap_cons_some scalar, same]
    · rintro ⟨scalars, rfl⟩
      obtain ⟨scalar, scalars⟩ := List.forall_mem_cons.1 scalars
      obtain ⟨text, scalar⟩ := Option.ne_none_iff_exists'.1 scalar
      refine ⟨text, defaultText_eq_ok.2 scalar, bind_eq_ok.2 ⟨_, ih.2 ⟨scalars, rfl⟩, ?_⟩⟩
      rw [List.filterMap_cons_some scalar]
      rfl

/-- A scalar declares what its text declares. -/
theorem defaultOfMember_scalarText {value : Json} {text : String}
    (scalar : value.scalarText? = some text) :
    shape.defaultOfMember (some value) = shape.defaultOfText (some text) := by
  rw [← defaultOfMember_text]
  cases value with
  | null | array | object => cases scalar
  | string | number | boolean =>
    cases scalar
    rfl

theorem defaultOfText_eq_error {text : String} :
    shape.defaultOfText (some text) = .error err ↔
      text ≠ "" ∧ (∀ piece ∈ shape.pieces text, shape.type.read? piece = none) ∧
        err = .unusableDefault shape.type text := by
  unfold defaultOfText
  dsimp only
  by_cases empty : text = ""
  · rw [if_pos empty]
    refine iff_of_false (fun impossible => ?_) (fun fails => fails.1 empty)
    cases impossible
  · have mapped : (some <$> shape.readDefault (.single text) = .error err) ↔
        shape.readDefault (.single text) = .error err := bind_ok_eq_error
    rw [if_neg empty, mapped, readDefault_eq_error, read?_single_eq_none, and_iff_right empty]
    rfl

/-- What is wrong with the default of a list comes from its first item without a text, and if there
is none from what the texts read as. -/
theorem defaultOfArray_eq_error {items : List Json} :
    shape.defaultOfMember (some (.array items)) = .error err ↔
      FirstFault (fun item err => defaultText shape.type item = .error err) items err ∨
      (∀ item ∈ items, item.scalarText? ≠ none) ∧
        (∀ text ∈ items.filterMap Json.scalarText?, shape.type.read? text = none) ∧
        err = .unusableDefault shape.type (",".intercalate (items.filterMap Json.scalarText?)) := by
  have steps : shape.defaultOfMember (some (.array items))
      = items.mapM (defaultText shape.type) >>= fun texts =>
        shape.readDefault (.many texts) >>= fun v => .ok (some v) := rfl
  rw [steps, bind_eq_error, mapM_eq_error]
  refine or_congr_right ⟨?_, ?_⟩
  · rintro ⟨texts, all, fails⟩
    obtain ⟨scalars, rfl⟩ := mapM_defaultText.1 all
    obtain ⟨unread, err⟩ := readDefault_eq_error.1 (bind_ok_eq_error.1 fails)
    exact ⟨scalars, readList?_eq_none.1 unread, err⟩
  · rintro ⟨scalars, unread, err⟩
    exact ⟨_, mapM_defaultText.2 ⟨scalars, rfl⟩,
      bind_ok_eq_error.2 (readDefault_eq_error.2 ⟨readList?_eq_none.2 unread, err⟩)⟩

theorem unusable_array_iff {items : List Json} :
    (∃ text, shape.Unusable (.array items) text ∧ err = .unusableDefault shape.type text) ↔
      shape.defaultOfMember (some (.array items)) = .error err := by
  rw [defaultOfArray_eq_error]
  constructor
  · rintro ⟨text, unusable, rfl⟩
    cases unusable with
    | badItem order first bad =>
      refine .inl ⟨_, _, _, order, fun earlier member other fault => ?_,
        defaultText_eq_error.2 ⟨bad, rfl⟩⟩
      exact first earlier member (defaultText_eq_error.1 fault).1
    | unreadItems filled unread =>
      refine .inr ⟨fun item member => ?_, fun text member => ?_, rfl⟩
      · obtain ⟨text, scalar, -⟩ := unread item member
        rw [scalar]
        exact Option.some_ne_none text
      · obtain ⟨item, member, scalar⟩ := List.mem_filterMap.1 member
        obtain ⟨text, scalar', none⟩ := unread item member
        rw [scalar] at scalar'
        rw [Option.some.inj scalar']
        exact none
    | emptyList => exact .inr ⟨List.forall_mem_nil _, List.forall_mem_nil _, rfl⟩
    | unread scalar => cases scalar
  · rintro (⟨before, item, after, order, first, fault⟩ | ⟨scalars, unread, rfl⟩)
    · obtain ⟨bad, err⟩ := defaultText_eq_error.1 fault
      refine ⟨item.text, .badItem order (fun earlier member none => ?_) bad, err⟩
      exact first earlier member _ (defaultText_eq_error.2 ⟨none, rfl⟩)
    · -- None of the texts reads, be it that there is none.
      by_cases empty : items = []
      · subst empty
        exact ⟨"", .emptyList, rfl⟩
      · refine ⟨_, .unreadItems empty fun item member => ?_, rfl⟩
        obtain ⟨text, scalar⟩ := Option.ne_none_iff_exists'.1 (scalars item member)
        exact ⟨text, scalar, unread text (List.mem_filterMap.2 ⟨item, member, scalar⟩)⟩

theorem unusable_scalar_iff {value : Json} {text : String}
    (scalar : value.scalarText? = some text) :
    (∃ shown, shape.Unusable value shown ∧ err = .unusableDefault shape.type shown) ↔
      shape.defaultOfMember (some value) = .error err := by
  rw [defaultOfMember_scalarText scalar, defaultOfText_eq_error]
  constructor
  · rintro ⟨shown, unusable, rfl⟩
    cases unusable with
    | unread scalar' filled unread =>
      rw [scalar] at scalar'
      rw [Option.some.inj scalar']
      exact ⟨filled, unread, rfl⟩
    | object | badItem | unreadItems | emptyList => cases scalar
  · rintro ⟨filled, unread, err⟩
    exact ⟨text, .unread scalar filled unread, err⟩

/-- A declared default fails if it is of no use, and in no other way. -/
theorem defaultOfMember_eq_error {value : Json} :
    shape.defaultOfMember (some value) = .error err ↔
      ∃ text, shape.Unusable value text ∧ err = .unusableDefault shape.type text := by
  cases value with
  | array => exact unusable_array_iff.symm
  | string | number | boolean => exact (unusable_scalar_iff rfl).symm
  | null =>
    refine iff_of_false (fun impossible => ?_) ?_
    · cases impossible
    · rintro ⟨text, unusable, -⟩
      cases unusable with
      | unread scalar => cases scalar
  | object members =>
    constructor
    · intro fails
      cases fails
      exact ⟨_, .object members, rfl⟩
    · rintro ⟨text, unusable, rfl⟩
      cases unusable with
      | object => rfl
      | unread scalar => cases scalar

end Shape

/-! ## Members -/

namespace Blueprint

/-- A member that cannot be taken over, and in what way it is not what it should be. -/
inductive Misfit : String → Json → Json.Mismatch → Prop where
  | type {value : Json} (noText : ∀ text, value ≠ .string text) :
      Misfit "type" value (.wrongKind (.ofJson value) "a string")
  | bound {name : String} {value : Json} (named : name = "min" ∨ name = "max")
      (set : value ≠ .null) (noNumber : ∀ n, value ≠ .number n) :
      Misfit name value (.wrongKind (.ofJson value) "f64")
  | description {value : Json} (set : value ≠ .null) (noText : ∀ text, value ≠ .string text) :
      Misfit "description" value (.wrongKind (.ofJson value) "a string")

theorem optionalReal_eq_error {value : Json} {mismatch : Json.Mismatch} :
    optionalReal value = .error mismatch ↔
      value ≠ .null ∧ (∀ n, value ≠ .number n) ∧ mismatch = .wrongKind (.ofJson value) "f64" := by
  cases value with
  | null => exact iff_of_false (fun impossible => by cases impossible) fun set => set.1 rfl
  | number n => exact iff_of_false (fun impossible => by cases impossible) fun set => set.2.1 n rfl
  | boolean | string | array | object =>
    refine error_eq_error.trans ⟨fun same => ?_, fun h => h.2.2⟩
    exact ⟨Json.noConfusion, fun n => Json.noConfusion, same⟩

theorem optionalText_eq_error {value : Json} {mismatch : Json.Mismatch} :
    optionalText value = .error mismatch ↔
      value ≠ .null ∧ (∀ s, value ≠ .string s) ∧
        mismatch = .wrongKind (.ofJson value) "a string" := by
  cases value with
  | null => exact iff_of_false (fun impossible => by cases impossible) fun set => set.1 rfl
  | string s => exact iff_of_false (fun impossible => by cases impossible) fun set => set.2.1 s rfl
  | boolean | number | array | object =>
    refine error_eq_error.trans ⟨fun same => ?_, fun h => h.2.2⟩
    exact ⟨Json.noConfusion, fun s => Json.noConfusion, same⟩

theorem Misfit.of_withMember {b : Blueprint} {name : String} {value : Json}
    {mismatch : Json.Mismatch} (fails : b.withMember name value = .error mismatch) :
    Misfit name value mismatch := by
  unfold withMember at fails
  split at fails
  · rename_i named
    subst named
    split at fails
    · cases fails
    · rename_i noText
      cases fails
      exact .type noText
  iterate 3
    split at fails
    · cases fails
  split at fails
  · rename_i named
    obtain ⟨set, noNumber, rfl⟩ := optionalReal_eq_error.1 (bind_ok_eq_error.1 fails)
    exact .bound (.inl named) set noNumber
  split at fails
  · rename_i named
    obtain ⟨set, noNumber, rfl⟩ := optionalReal_eq_error.1 (bind_ok_eq_error.1 fails)
    exact .bound (.inr named) set noNumber
  split at fails
  · rename_i named
    subst named
    obtain ⟨set, noText, rfl⟩ := optionalText_eq_error.1 (bind_ok_eq_error.1 fails)
    exact .description set noText
  · cases fails

/-- A member fails if it is a misfit, whatever was taken over before it. -/
theorem withMember_eq_error {b : Blueprint} {name : String} {value : Json}
    {mismatch : Json.Mismatch} :
    b.withMember name value = .error mismatch ↔ Misfit name value mismatch := by
  refine ⟨.of_withMember, fun misfit => ?_⟩
  unfold withMember
  cases misfit with
  | type noText =>
    rw [if_pos rfl]
    cases value with
    | string text => exact absurd rfl (noText text)
    | _ => rfl
  | bound named set noNumber =>
    have fails := optionalReal_eq_error.2 ⟨set, noNumber, rfl⟩
    rcases named with rfl | rfl
    · exact bind_ok_eq_error.2 fails
    · exact bind_ok_eq_error.2 fails
  | description set noText =>
    exact bind_ok_eq_error.2 (optionalText_eq_error.2 ⟨set, noText, rfl⟩)

/-- The first member that is a misfit decides what is wrong with an object. -/
theorem ofMembers_eq_error {members : List (String × Json)} {mismatch : Json.Mismatch} :
    ofMembers members = .error mismatch ↔
      FirstFault (fun member mismatch => Misfit member.1 member.2 mismatch) members mismatch := by
  unfold ofMembers
  exact foldlM_eq_error fun _ member _ => @withMember_eq_error _ member.1 member.2 _

/-- Members without a misfit among them make a blueprint. -/
theorem exists_ofMembers_iff {members : List (String × Json)} :
    (∃ b, ofMembers members = .ok b) ↔
      ∀ member ∈ members, ∀ mismatch, ¬ Misfit member.1 member.2 mismatch := by
  have misfits := @exists_firstFault_iff _ _
    (fun (member : String × Json) mismatch => Misfit member.1 member.2 mismatch) members
  constructor
  · rintro ⟨b, read⟩ member known mismatch misfit
    obtain ⟨mismatch, first⟩ := misfits.2 ⟨member, known, mismatch, misfit⟩
    rw [ofMembers_eq_error.2 first] at read
    cases read
  · intro fit
    cases read : ofMembers members with
    | ok b => exact ⟨b, rfl⟩
    | error mismatch =>
      obtain ⟨member, known, mismatch, misfit⟩ := misfits.1 ⟨mismatch, ofMembers_eq_error.1 read⟩
      exact absurd misfit (fit member known mismatch)

theorem Held.eq_bind {found after : Option Json}
    (h : Held (fun value a => a = optionalJson value) none found after) :
    after = found.bind optionalJson := by
  cases found with
  | none => exact h
  | some value => exact h

end Blueprint

/-! ## Outlines -/

/-- What decides whether something that has the form of a declaration compiles. -/
structure Outline where
  token : String
  list : Bool
  default : Option Json

namespace Outline

def ofShorthand (parts : Shorthand) : Outline :=
  ⟨parts.token, parts.list, parts.default.map .string⟩

def ofBlueprint (b : Blueprint) : Outline := ⟨b.token, b.list.any Json.saysYes, b.default⟩

/-- The outline of an object. Of several members of one name the last counts. -/
def ofMembers (token : String) (members : List (String × Json)) : Outline :=
  ⟨token, (members.reverse.lookup "array").any Json.saysYes, members.reverse.lookup "default"⟩

/-- What is wrong with a declaration: its type is unknown, or else its default is of no use. -/
inductive Fails (o : Outline) : DeclarationError → Prop where
  | unknownType (unknown : ScalarType.table.lookup (Text.word o.token) = none) :
      Fails o (.unknownType o.token)
  | unusableDefault {type : ScalarType} {value : Json} {text : String}
      (known : ScalarType.table.lookup (Text.word o.token) = some type)
      (declared : o.default = some value) (unusable : Shape.Unusable ⟨type, o.list⟩ value text) :
      Fails o (.unusableDefault type text)

variable {o : Outline} {err : DeclarationError}

theorem ofToken_eq_error {token : String} :
    ScalarType.ofToken token = .error err ↔
      ScalarType.table.lookup (Text.word token) = none ∧ err = .unknownType token := by
  unfold ScalarType.ofToken
  rw [ScalarType.ofToken?_eq_lookup]
  cases ScalarType.table.lookup (Text.word token) with
  | some type =>
    refine iff_of_false (fun impossible => ?_) (fun impossible => ?_)
    · cases impossible
    · cases impossible.1
  | none => exact error_eq_error.trans (and_iff_right rfl).symm

theorem ofToken_eq_ok {token : String} {type : ScalarType} :
    ScalarType.ofToken token = .ok type ↔
      ScalarType.table.lookup (Text.word token) = some type := by
  unfold ScalarType.ofToken
  rw [ScalarType.ofToken?_eq_lookup]
  cases ScalarType.table.lookup (Text.word token) with
  | some known =>
    refine ⟨fun same => ?_, fun same => ?_⟩
    · cases same
      rfl
    · cases same
      rfl
  | none =>
    refine iff_of_false (fun impossible => ?_) (fun impossible => ?_)
    · cases impossible
    · cases impossible

/-- All compilers go through the same two steps that can fail. -/
theorem steps_eq_error {α : Type} (finish : ScalarType → Option Value → α) :
    (ScalarType.ofToken o.token >>= fun type =>
      Shape.defaultOfMember ⟨type, o.list⟩ o.default >>= fun default =>
        .ok (finish type default)) = .error err ↔ o.Fails err := by
  rw [bind_eq_error]
  -- The first step knows the type, the second reads the default, and no other step can fail.
  constructor
  · rintro (fails | ⟨type, known, fails⟩)
    · obtain ⟨unknown, rfl⟩ := ofToken_eq_error.1 fails
      exact .unknownType unknown
    · have fails := bind_ok_eq_error.1 fails
      cases declared : o.default with
      | none =>
        rw [declared] at fails
        cases fails
      | some value =>
        rw [declared] at fails
        obtain ⟨text, unusable, rfl⟩ := Shape.defaultOfMember_eq_error.1 fails
        exact .unusableDefault (ofToken_eq_ok.1 known) declared unusable
  · intro fails
    cases fails with
    | unknownType unknown => exact .inl (ofToken_eq_error.2 ⟨unknown, rfl⟩)
    | unusableDefault known declared unusable =>
      refine .inr ⟨_, ofToken_eq_ok.2 known, bind_ok_eq_error.2 ?_⟩
      rw [declared]
      exact Shape.defaultOfMember_eq_error.2 ⟨_, unusable, rfl⟩

end Outline

/-- A default with nothing in it. -/
inductive EmptyDefault : Option Json → Prop where
  | absent : EmptyDefault none
  | null : EmptyDefault (some .null)
  | text : EmptyDefault (some (.string ""))
  | list : EmptyDefault (some (.array []))

theorem EmptyDefault.not_unusable {default : Option Json} (h : EmptyDefault default)
    (apart : default ≠ some (.array [])) {shape : Shape} {value : Json} {text : String}
    (declared : default = some value) : ¬ shape.Unusable value text := by
  intro unusable
  cases h with
  | absent => cases declared
  | list => exact apart rfl
  | null =>
    cases declared
    cases unusable with
    | unread scalar => cases scalar
  | text =>
    cases declared
    cases unusable with
    | unread scalar filled =>
      cases scalar
      exact filled rfl

/-! ## The form of a declaration -/

namespace Declaration

/-- A declaration that has the form of one, and its outline. -/
inductive Outlined : Declaration → Outline → Prop where
  | shorthand {text : String} {parts : Shorthand} (spells : parts.Spelling text) :
      Outlined (shorthand text) (.ofShorthand parts)
  | blueprint (b : Blueprint) : Outlined (blueprint b) (.ofBlueprint b)
  | string {text : String} {parts : Shorthand} (spells : parts.Spelling text) :
      Outlined (json (.string text)) (.ofShorthand parts)
  | object {members : List (String × Json)} {token : String}
      (typed : members.reverse.lookup "type" = some (.string token))
      (fit : ∀ member ∈ members, ∀ mismatch, ¬ Blueprint.Misfit member.1 member.2 mismatch) :
      Outlined (json (.object members)) (.ofMembers token members)

/-- What does not have the form of a declaration, and why. -/
inductive Misshapen : Declaration → Misshape → Prop where
  | shorthand {text : String} (unspelled : ∀ parts, ¬ Shorthand.Spelling parts text) :
      Misshapen (shorthand text) (.notShorthand text)
  | string {text : String} (unspelled : ∀ parts, ¬ Shorthand.Spelling parts text) :
      Misshapen (json (.string text)) (.notShorthand text)
  | value {value : Json} (noText : ∀ text, value ≠ .string text)
      (noObject : ∀ members, value ≠ .object members) :
      Misshapen (json value) (.noDeclaration value)
  | untyped {members : List (String × Json)}
      (untyped : ∀ token, members.lookup "type" ≠ some (.string token)) :
      Misshapen (json (.object members)) .untyped
  | badMember {members : List (String × Json)} {token : String} {mismatch : Json.Mismatch}
      (typed : members.lookup "type" = some (.string token))
      (misfit : FirstFault (fun member => Blueprint.Misfit member.1 member.2) members mismatch) :
      Misshapen (json (.object members)) (.badMember mismatch)

/-- Why a declaration is turned down. -/
inductive Refused (d : Declaration) : DeclarationError → Prop where
  | misshapen {why : Misshape} (form : d.Misshapen why) : Refused d (.misshapen why)
  | outlined {o : Outline} {err : DeclarationError} (form : d.Outlined o) (fails : o.Fails err) :
      Refused d err

variable {err : DeclarationError}

/-- Every declaration has the form of one, or does not. -/
theorem misshapen_or_outlined (d : Declaration) :
    (∃ why, d.Misshapen why) ∨ ∃ o, d.Outlined o := by
  cases d with
  | shorthand text =>
    by_cases spelled : ∃ parts, Shorthand.Spelling parts text
    · obtain ⟨parts, spells⟩ := spelled
      exact .inr ⟨_, .shorthand spells⟩
    · exact .inl ⟨_, .shorthand (not_exists.1 spelled)⟩
  | blueprint b => exact .inr ⟨_, .blueprint b⟩
  | json value =>
    cases value with
    | string text =>
      by_cases spelled : ∃ parts, Shorthand.Spelling parts text
      · obtain ⟨parts, spells⟩ := spelled
        exact .inr ⟨_, .string spells⟩
      · exact .inl ⟨_, .string (not_exists.1 spelled)⟩
    | object members =>
      by_cases typed : ∃ token, members.lookup "type" = some (.string token)
      · obtain ⟨token, typed⟩ := typed
        cases read : Blueprint.ofMembers members with
        | error mismatch => exact .inl ⟨_, .badMember typed (Blueprint.ofMembers_eq_error.1 read)⟩
        | ok b =>
          -- The last member under `type` counts, and that it was taken over says that it is text.
          have last := (Blueprint.ofMembers_foundIn read).token
          have fit := Blueprint.exists_ofMembers_iff.1 ⟨b, read⟩
          cases found : members.reverse.lookup "type" with
          | none =>
            have named := List.mem_map_of_mem (f := Prod.fst)
              (List.mem_reverse.2 (ByName.mem_of_lookup typed))
            exact absurd named (ByName.lookup_eq_none_iff_not_mem.1 found)
          | some value =>
            rw [found] at last
            obtain rfl : value = _ := last
            exact .inr ⟨_, .object found fit⟩
      · exact .inl ⟨_, .untyped (not_exists.1 typed)⟩
    | null | boolean | number | array =>
      exact .inl ⟨_, .value (fun _ => Json.noConfusion) fun _ => Json.noConfusion⟩

/-! ## What comes of each form -/

theorem compileShorthand_unspelled {text : String}
    (unspelled : ∀ parts, ¬ Shorthand.Spelling parts text) :
    compileShorthand text = .error (.misshapen (.notShorthand text)) := by
  have unparsed : Shorthand.parse? text = none :=
    Option.eq_none_iff_forall_ne_some.2 fun parts parsed =>
      unspelled parts (Shorthand.parse?_eq_some_iff.1 parsed)
  unfold compileShorthand Shorthand.parse
  rw [unparsed]
  rfl

/-- What does not have the form of a declaration fails for that. -/
theorem Misshapen.compile {d : Declaration} {why : Misshape} (h : d.Misshapen why) :
    d.compile = .error (.misshapen why) := by
  cases h with
  | shorthand unspelled => exact compileShorthand_unspelled unspelled
  | string unspelled => exact compileShorthand_unspelled unspelled
  | @value value noText noObject =>
    cases value with
    | string text => exact absurd rfl (noText text)
    | object members => exact absurd rfl (noObject members)
    | _ => rfl
  | untyped untyped =>
    unfold Declaration.compile compileJson
    dsimp only
    split
    · rename_i token typed
      exact absurd typed (untyped token)
    · rfl
  | badMember typed misfit =>
    unfold Declaration.compile compileJson
    dsimp only
    rw [typed]
    dsimp only
    rw [Blueprint.ofMembers_eq_error.2 misfit]

theorem compileShorthand_spelled {text : String} {parts : Shorthand}
    (spells : parts.Spelling text) :
    compileShorthand text = .error err ↔ (Outline.ofShorthand parts).Fails err := by
  unfold compileShorthand
  rw [Shorthand.parse_eq_ok_iff.2 spells, ok_bind]
  -- What stands in parentheses declares what it would as a string.
  simp only [← Shape.defaultOfMember_text]
  exact @Outline.steps_eq_error (.ofShorthand parts) err Parameter fun type default =>
    { rule := { shape := ⟨type, parts.list⟩, default := default, required := !parts.isOptional } }

theorem compileBlueprint_eq_error {b : Blueprint} :
    compileBlueprint b = .error err ↔ (Outline.ofBlueprint b).Fails err :=
  @Outline.steps_eq_error (.ofBlueprint b) err Parameter fun type default =>
    b.parameter ⟨type, b.list.any Json.saysYes⟩ default

/-- A blueprint in writing fails as the outline of its members does. -/
theorem fails_ofMembers {members : List (String × Json)} {b : Blueprint} {token : String}
    (read : Blueprint.ofMembers members = .ok b)
    (typed : members.reverse.lookup "type" = some (.string token)) :
    (Outline.ofBlueprint b).Fails err ↔ (Outline.ofMembers token members).Fails err := by
  have found := Blueprint.ofMembers_foundIn read
  have same : b.token = token := by
    have held := found.token
    rw [typed] at held
    exact (Json.string.inj held).symm
  rw [← Outline.steps_eq_error fun _ _ => (), ← Outline.steps_eq_error fun _ _ => ()]
  unfold Outline.ofBlueprint Outline.ofMembers
  dsimp only
  rw [same, found.list.eq_bind, found.default.eq_bind, Blueprint.saysYes_optionalJson]
  simp only [Blueprint.defaultOfMember_optionalJson]

/-- Where no member is a misfit, whatever stands under `type` is a string. -/
theorem Outlined.typed {members : List (String × Json)} {o : Outline}
    (h : Outlined (json (.object members)) o) :
    ∃ token, members.lookup "type" = some (.string token) := by
  cases h with
  | object typed fit =>
    cases found : members.lookup "type" with
    | none =>
      have named := List.mem_map_of_mem (f := Prod.fst)
        (List.mem_reverse.1 (ByName.mem_of_lookup typed))
      exact absurd named (ByName.lookup_eq_none_iff_not_mem.1 found)
    | some value =>
      -- It need not be the member that counts, but no misfit is among them.
      by_cases text : ∃ token, value = .string token
      · obtain ⟨token, rfl⟩ := text
        exact ⟨token, rfl⟩
      · exact absurd (.type (not_exists.1 text)) (fit _ (ByName.mem_of_lookup found) _)

/-- What has the form of a declaration fails as its outline does. -/
theorem Outlined.compile {d : Declaration} {o : Outline} (h : d.Outlined o) :
    d.compile = .error err ↔ o.Fails err := by
  have form := h
  cases h with
  | shorthand spells => exact compileShorthand_spelled spells
  | string spells => exact compileShorthand_spelled spells
  | blueprint b => exact compileBlueprint_eq_error
  | object typed fit =>
    obtain ⟨b, read⟩ := Blueprint.exists_ofMembers_iff.2 fit
    obtain ⟨token, named⟩ := form.typed
    unfold Declaration.compile compileJson
    dsimp only
    rw [named]
    dsimp only
    rw [read]
    dsimp only
    rw [compileBlueprint_eq_error]
    exact fails_ofMembers read typed

theorem compile_eq_error {d : Declaration} : d.compile = .error err ↔ d.Refused err := by
  constructor
  · intro fails
    rcases d.misshapen_or_outlined with ⟨why, form⟩ | ⟨o, form⟩
    · rw [form.compile] at fails
      cases fails
      exact .misshapen form
    · exact .outlined form (form.compile.1 fails)
  · intro refused
    cases refused with
    | misshapen form => exact form.compile
    | outlined form fails => exact form.compile.2 fails

/-! ## All declarations -/

/-- **Which declarations fail, and with what.** A declaration fails with a misshape exactly if it
does not have the form of one: text that no parts spell, JSON that is neither text nor object, an
object that does not name a type, or one with a misfit among its members, the first of which is
shown. Otherwise it fails with its token, as it is written, exactly if the word that this comes to
names no type. Otherwise it fails with its type and the text of its default exactly if the default is
of no use (`Shape.Unusable`): an object, a list with an item that is no scalar, or texts none of
which reads. Otherwise it compiles.

So a declaration of a known type does not fail for a default that is empty, unless it is a list: a
list without items always fails. -/
theorem compile_refuses (d : Declaration) :
    (∀ err, d.compile = .error err ↔ d.Refused err) ∧
    ((∃ p, d.compile = .ok p) ↔ ∀ err, ¬ d.Refused err) ∧
    ∀ o type, d.Outlined o → ScalarType.table.lookup (Text.word o.token) = some type →
      (EmptyDefault o.default → o.default ≠ some (.array []) → ∃ p, d.compile = .ok p) ∧
      (o.default = some (.array []) → d.compile = .error (.unusableDefault type "")) := by
  refine ⟨fun err => compile_eq_error, ?_, fun o type form known => ⟨fun empty apart => ?_, ?_⟩⟩
  · constructor
    · rintro ⟨p, compiled⟩ err refused
      rw [compile_eq_error.2 refused] at compiled
      cases compiled
    · intro accepted
      cases verdict : d.compile with
      | ok p => exact ⟨p, rfl⟩
      | error err => exact absurd (compile_eq_error.1 verdict) (accepted err)
  · cases verdict : d.compile with
    | ok p => exact ⟨p, rfl⟩
    | error err =>
      exfalso
      cases form.compile.1 verdict with
      | unknownType unknown =>
        rw [unknown] at known
        cases known
      | unusableDefault _ declared unusable => exact empty.not_unusable apart declared unusable
  · exact fun list => form.compile.2 (.unusableDefault known list .emptyList)

/-- A shorthand of an unknown type, an object the second misfit of which does not show, a list with
an item that is no scalar, and a type in capitals with an empty default. -/
theorem compile_refuses_sample :
    let members : List (String × Json) :=
      [("type", .string "Text"), ("max", .string "9"), ("description", .boolean true)]
    let items : List Json := [.string "a", .null, .array []]
    let double : Blueprint := { token := " Double ", default := some (.string "") }
    (shorthand "Text(a)").compile = .error (.unknownType "Text") ∧
      (json (.object members)).compile
        = .error (.misshapen (.badMember (.wrongKind (.string "9") "f64"))) ∧
      (blueprint { token := "string", default := some (.array items) }).compile
        = .error (.unusableDefault .text "null") ∧
      ∃ p, (blueprint double).compile = .ok p := by
  intro members items double
  refine ⟨((compile_refuses _).1 _).2 ?_, ((compile_refuses _).1 _).2 ?_,
    ((compile_refuses _).1 _).2 ?_, ?_⟩
  · have parsed : Shorthand.parse? "Text(a)" = some ⟨"Text", false, some "a"⟩ := rfl
    exact .outlined (.shorthand (Shorthand.parse?_eq_some_iff.1 parsed)) (.unknownType rfl)
  · refine .misshapen (.badMember rfl ⟨[_], _, [_], rfl, ?_, ?_⟩)
    · refine List.forall_mem_singleton.2 fun other misfit => ?_
      have fails := (Blueprint.withMember_eq_error (b := Blueprint.record.blank)).2 misfit
      cases fails
    · exact .bound (.inr rfl) Json.noConfusion fun _ => Json.noConfusion
  · have textual : ∀ earlier ∈ [Json.string "a"], earlier.scalarText? ≠ none :=
      List.forall_mem_singleton.2 (Option.some_ne_none "a")
    have known : ScalarType.table.lookup (Text.word "string") = some .text := by decide
    exact .outlined (.blueprint _) (.unusableDefault known rfl (.badItem rfl textual rfl))
  · have known : ScalarType.table.lookup (Text.word " Double ") = some .number := by decide
    refine ((compile_refuses _).2.2 _ .number (.blueprint double) known).1 .text fun same => ?_
    cases same

/-- It is not so that a default with nothing in it never makes a declaration fail. The list has no
items and the type is known; with the empty text in place of the list the declaration compiles. -/
theorem compile_empty_list :
    let declared (default : Json) : Declaration :=
      json (.object [("type", .string "number"), ("default", default)])
    let o : Outline := ⟨"number", false, some (.array [])⟩
    (declared (.array [])).Outlined o ∧
      ScalarType.table.lookup (Text.word o.token) = some .number ∧ EmptyDefault o.default ∧
      (declared (.array [])).compile = .error (.unusableDefault .number "") ∧
      ∃ p, (declared (.string "")).compile = .ok p := by
  intro declared o
  have fit := Blueprint.exists_ofMembers_iff.1
    (⟨_, rfl⟩ : ∃ b, Blueprint.ofMembers [("type", .string "number"), ("default", .array [])] = .ok b)
  exact ⟨.object rfl fit, by decide, .list, rfl, _, rfl⟩

end Declaration
end RequestParams
