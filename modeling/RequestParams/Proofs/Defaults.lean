import RequestParams.Proofs.Compiling
import RequestParams.Proofs.Numbers

/-!
# Defaults read back

A compiled default is put in where a request supplies nothing, and it is documented, so it had
better be a value that the parameter would take. More than that is true: **supplying a default as it
is shown gives the default again** (`compile_normal_form`), a list item by item.

There are three ways to a default — a text, possibly split at its commas, a JSON scalar, and a JSON
array, which may come to a list even where none was declared — and one way back. They meet in the
values that a shape reads: such a value is read again from its own text (`Shape.read?_supplied`),
wherever it came from. The case with content is `integer`: it is read exactly, and the digits of the
number that it became are the digits of the integer.
-/

set_option autoImplicit false

namespace RequestParams

/-- What supplies a value as it is shown. -/
def Value.supplied : Value → Supplied
  | .list items => .many (items.map Value.display)
  | v => .single v.display

/-! ## Numbers -/

namespace Binary64

/-- A whole number is shown by its digits. -/
theorem plainMagnitude_whole {n : Nat} (small : n ≤ maxSafeInteger) :
    plainMagnitude (n * stepsPerOne) = digitsOf n := by
  unfold plainMagnitude
  rw [Nat.mul_mod_left, Nat.mul_div_cancel n stepsPerOne_pos, if_pos ⟨rfl, small⟩]

theorem plainText_ofInt {z : Int} (small : z.natAbs ≤ maxSafeInteger) :
    (ofInt z).plainText = signOf (decide (z < 0)) ++ digitsOf z.natAbs := by
  rw [ofInt_eq_finite (representable_whole small)]
  unfold plainText
  dsimp only
  rw [plainMagnitude_whole small]

end Binary64

/-! ## Reading a value from its text -/

theorem Value.display_number (x : Binary64) :
    (Value.number x).display.toList = x.plainText :=
  String.toList_ofList

namespace ScalarType

/-- The text of a finite number reads as that number. -/
theorem read?_number_spelled {n : Numeral} {power : Option Int} {text : List Char}
    (spells : n.Spells power text) (negative : Bool) {x : Binary64}
    (value : (n.toDecimal negative).toBinary64 = x) (finite : x.isFinite = true) {s : String}
    (same : s.toList = signOf negative ++ text) : number.read? s = some (.number x) := by
  simp only [read?]
  rw [same, spells.trim, Binary64.ofText?_spelled spells, value]
  exact if_pos finite

/-- A finite number reads back from what is shown of it. -/
theorem read?_number_display {x : Binary64} (finite : x.isFinite = true) :
    number.read? (Value.number x).display = some (.number x) := by
  obtain ⟨negative, steps, held, rfl⟩ := Binary64.exists_finite finite
  obtain ⟨n, spells, value⟩ := Binary64.plainMagnitude_spelled held
  exact read?_number_spelled spells negative (value negative) finite (Value.display_number _)

theorem read?_integer_digits {z : Int} (small : z.natAbs ≤ Binary64.maxSafeInteger) {s : String}
    (digits : s.toList = signOf (decide (z < 0)) ++ digitsOf z.natAbs) :
    integer.read? s = some (.number (.ofInt z)) := by
  have spells := Numeral.spells_digitsOf z.natAbs
  simp only [read?]
  rw [digits, spells.trim, Numeral.integer?_digitsOf]
  exact if_pos small

/-- An integer reads back from what is shown of its number. -/
theorem read?_integer_display {z : Int} (small : z.natAbs ≤ Binary64.maxSafeInteger) :
    integer.read? (Value.number (.ofInt z)).display = some (.number (.ofInt z)) := by
  apply read?_integer_digits small
  rw [Value.display_number, Binary64.plainText_ofInt small]

/-- **What a type reads, it reads again from the text that is shown of it.** -/
theorem read?_display {type : ScalarType} {s : String} {v : Value} (h : type.read? s = some v) :
    type.read? v.display = some v := by
  cases type with
  | text =>
    have same : v = .text s := by
      simp only [read?] at h
      split at h
      · cases h
      · exact (Option.some.inj h).symm
    subst same
    rw [show (Value.text s).display = s from String.ofList_toList]
    exact h
  | number =>
    cases read?_admits h with
    | number finite => exact read?_number_display finite
  | integer =>
    -- The number alone does not tell how it was read, so the integer is taken from the reading.
    simp only [read?] at h
    split at h
    · rename_i z _
      split at h
      · rename_i small
        obtain rfl := Option.some.inj h
        exact read?_integer_display small
      · cases h
    · cases h
  | boolean =>
    obtain ⟨b, _, rfl⟩ := Option.map_eq_some_iff.1 h
    cases b <;> rfl

/-- Items that were read are read again, and none of them is left out. -/
theorem filterMap_display {type : ScalarType} {items : List Value}
    (each : ∀ item ∈ items, type.read? item.display = some item) :
    (items.map Value.display).filterMap type.read? = items := by
  induction items with
  | nil => rfl
  | cons item rest ih =>
    rw [List.map_cons, List.filterMap_cons_some (each item List.mem_cons_self),
      ih fun other member => each other (List.mem_cons_of_mem item member)]

theorem readList?_display {type : ScalarType} {texts : List String} {v : Value}
    (h : type.readList? texts = some v) :
    ∃ items, v = .list items ∧ type.readList? (items.map Value.display) = some v := by
  obtain ⟨some, rfl⟩ := readList?_eq_some.1 h
  refine ⟨_, rfl, ?_⟩
  have each : ∀ item ∈ texts.filterMap type.read?, type.read? item.display = .some item := by
    intro item member
    obtain ⟨s, _, reads⟩ := List.mem_filterMap.1 member
    exact read?_display reads
  rw [readList?_eq_some, filterMap_display each]
  exact ⟨some, rfl⟩

end ScalarType

/-- A scalar is supplied as one text. -/
theorem ScalarType.Admits.supplied {type : ScalarType} {v : Value} (h : type.Admits v) :
    v.supplied = .single v.display := by
  cases h <;> rfl

/-- **What a shape reads, it reads again when it is supplied as it is shown.** -/
theorem Shape.read?_supplied {shape : Shape} {supplied : Supplied} {v : Value}
    (h : shape.read? supplied = some v) : shape.read? v.supplied = some v := by
  obtain ⟨texts, reads⟩ | ⟨s, -, single, reads⟩ := read?_cases h
  · -- However a list was supplied, it is supplied again by repeated entries.
    obtain ⟨items, rfl, readsAgain⟩ := ScalarType.readList?_display reads
    exact readsAgain
  · rw [(ScalarType.read?_admits reads).supplied, read?_of_not_list single]
    exact ScalarType.read?_display reads

namespace Declaration

/-- **The normal form of a compiled parameter**, whatever the form of its declaration. A parameter
with a default is optional; a truth value has no bounds; and a default is a value of the declared
shape that the parameter itself reads when it is supplied as it is shown. -/
theorem compile_normal_form {declaration : Declaration} {p : Parameter}
    (h : declaration.compile = .ok p) :
    (p.rule.default.isSome = true → p.rule.required = false) ∧
    (p.rule.shape.type = .boolean → p.rule.least = none ∧ p.rule.greatest = none) ∧
    ∀ v, p.rule.default = some v →
      p.rule.shape.Admits v ∧ (p.rule.shape.list = true → ∃ items, v = .list items) ∧
      p.rule.shape.read? v.supplied = some v := by
  have settled := compile_settled h
  refine ⟨fun some => settled.optional (Option.isSome_iff_ne_none.1 some), settled.unbounded, ?_⟩
  intro v default
  obtain ⟨supplied, reads⟩ := settled.default v default
  have admits := Shape.read?_admits reads
  refine ⟨admits, fun list => ?_, Shape.read?_supplied reads⟩
  cases admits with
  | scalar single _ =>
    rw [list] at single
    cases single
  | @list items _ _ => exact ⟨items, rfl⟩

/-- An array as the default of a parameter that is declared without a list, required and bounded: it
becomes a list all the same, without its empty text, and the comma in it does not divide it. -/
theorem compile_normal_form_sample :
    let declaration : Declaration :=
      .json (.object
        [("type", .string "String"), ("required", .boolean true),
          ("default", .array [.string "a,b", .string "", .number (.integer 7)])])
    let v : Value := .list [.text "a,b", .text "7"]
    ∃ p, declaration.compile = .ok p ∧ p.rule.shape.list = false ∧ p.rule.required = false ∧
      p.rule.default = some v ∧ p.rule.shape.Admits v ∧
      v.supplied = .many ["a,b", "7"] ∧ p.rule.shape.read? (.many ["a,b", "7"]) = some v := by
  intro declaration v
  obtain ⟨p, compiled, list, default⟩ :
      ∃ p, declaration.compile = .ok p ∧ p.rule.shape.list = false ∧ p.rule.default = some v :=
    ⟨_, rfl, rfl, rfl⟩
  obtain ⟨optional, -, normal⟩ := compile_normal_form compiled
  obtain ⟨admits, -, reads⟩ := normal v default
  exact ⟨p, compiled, list, optional (by rw [default]; rfl), default, admits, rfl, reads⟩

end Declaration
end RequestParams
