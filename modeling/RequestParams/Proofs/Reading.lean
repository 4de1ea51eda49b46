import RequestParams.Value.Reading

/-!
# What reading gives

A text that reads gives a value of the declared type. `ScalarType.Admits` and `Shape.Admits` say
which values these are, without reading anything, and `Shape.read?_admits` is the statement.

The type `integer` is the one with content: an integer is read exactly and then turned into the
nearest binary64 number, and nothing is lost there only because the magnitude is bounded
(`Binary64.denotes_ofInt`).
-/

set_option autoImplicit false

namespace RequestParams

/-! ## Whole numbers are held exactly -/

namespace Binary64

/-- The number is the integer, exactly. Both zeros are the integer 0. -/
def Denotes (x : Binary64) (z : Int) : Prop :=
  ∃ negative held, x = finite negative (z.natAbs * stepsPerOne) held ∧
    signed negative z.natAbs = z

theorem log2_mul_two_pow {n : Nat} (pos : n ≠ 0) (k : Nat) :
    (n * Nat.pow 2 k).log2 = n.log2 + k := by
  induction k with
  | zero => rw [show Nat.pow 2 0 = 1 from rfl, Nat.mul_one, Nat.add_zero]
  | succ k ih =>
    have apart : n * Nat.pow 2 k ≠ 0 := Nat.mul_ne_zero pos (Nat.ne_of_gt (Nat.two_pow_pos k))
    have twice : n * Nat.pow 2 (k + 1) = 2 * (n * Nat.pow 2 k) := by
      rw [show Nat.pow 2 (k + 1) = Nat.pow 2 k * 2 from rfl, ← Nat.mul_assoc, Nat.mul_comm]
    rw [twice, Nat.log2_two_mul apart, ih, Nat.add_assoc]

/-- Up to 2⁵³ − 1 every whole number has at most 53 significant bits. -/
theorem representable_whole {n : Nat} (small : n ≤ maxSafeInteger) :
    Representable (n * stepsPerOne) := by
  by_cases zero : n = 0
  · rw [zero, Nat.zero_mul]
    exact representable_zero
  · have short : n.log2 < 53 := (Nat.log2_lt zero).2 (by unfold maxSafeInteger at small; omega)
    unfold stepsPerOne Representable
    -- The number 2^1074 must not be computed.
    generalize places : stepPlaces = k
    have many : k = 1074 := places.symm
    have bounded : n.log2 + k < 2098 := by omega
    have divides : Nat.pow 2 (n.log2 + k - 52) ∣ Nat.pow 2 k := Nat.pow_dvd_pow 2 (by omega)
    rw [log2_mul_two_pow zero]
    exact ⟨bounded, Nat.mod_eq_zero_of_dvd (Nat.dvd_mul_left_of_dvd divides n)⟩

theorem stepsPerOne_pos : 0 < stepsPerOne := by
  unfold stepsPerOne
  generalize stepPlaces = k
  exact Nat.two_pow_pos k

theorem natAbs_signed (negative : Bool) (n : Nat) : (signed negative n).natAbs = n := by
  cases negative with
  | false => exact Int.natAbs_natCast n
  | true => exact (Int.natAbs_neg n).trans (Int.natAbs_natCast n)

/-- The number of an integer that binary64 holds. -/
theorem ofInt_eq_finite {z : Int} (held : Representable (z.natAbs * stepsPerOne)) :
    ofInt z = finite (decide (z < 0)) (z.natAbs * stepsPerOne) held := by
  have kept := nearestSteps_mul held Nat.one_pos
  rw [Nat.mul_one] at kept
  unfold ofInt ofRatio
  rw [kept, ofSteps_of_representable _ held]

theorem denotes_ofInt {z : Int} (small : z.natAbs ≤ maxSafeInteger) : (ofInt z).Denotes z := by
  have held := representable_whole small
  refine ⟨decide (z < 0), held, ofInt_eq_finite held, ?_⟩
  unfold signed
  by_cases below : z < 0
  · rw [decide_eq_true below, if_pos rfl]
    omega
  · rw [decide_eq_false below, if_neg Bool.false_ne_true]
    omega

theorem eq_zero_of_signed {z : Int} (plus : signed false z.natAbs = z)
    (minus : signed true z.natAbs = z) : z = 0 := by
  have positive : (z.natAbs : Int) = z := plus
  have negative : -(z.natAbs : Int) = z := minus
  omega

/-- Only zero has two numbers. -/
theorem Denotes.eq_or_zero {x y : Binary64} {z : Int} (first : x.Denotes z) (second : y.Denotes z) :
    y = x ∨ z = 0 := by
  obtain ⟨negative, held, rfl, sign⟩ := first
  obtain ⟨negative', held', rfl, sign'⟩ := second
  by_cases same : negative' = negative
  · subst same
    exact .inl rfl
  · right
    -- One of the two signs is a minus and the other is none.
    cases negative with
    | false =>
      obtain rfl : negative' = true := eq_true_of_ne_false same
      exact eq_zero_of_signed sign sign'
    | true =>
      obtain rfl : negative' = false := eq_false_of_ne_true same
      exact eq_zero_of_signed sign' sign

/-- A number is a safe integer if it denotes one of magnitude at most 2⁵³ − 1. -/
theorem safeInteger?_eq_some {x : Binary64} {z : Int} :
    x.safeInteger? = some z ↔ x.Denotes z ∧ z.natAbs ≤ maxSafeInteger := by
  constructor
  · intro safe
    cases x with
    | infinite negative => cases safe
    | nan => cases safe
    | finite negative steps held =>
      simp only [safeInteger?] at safe
      split at safe
      · rename_i whole
        obtain rfl := Option.some.inj safe
        have steps_eq : steps / stepsPerOne * stepsPerOne = steps :=
          Nat.div_mul_cancel (Nat.dvd_of_mod_eq_zero whole.1)
        unfold Denotes
        simp only [natAbs_signed, steps_eq]
        exact ⟨⟨negative, held, rfl, rfl⟩, whole.2⟩
      · cases safe
  · rintro ⟨⟨negative, held, rfl, sign⟩, small⟩
    unfold safeInteger?
    dsimp only
    rw [Nat.mul_mod_left, Nat.mul_div_cancel _ stepsPerOne_pos, if_pos ⟨rfl, small⟩, sign]

theorem safeInteger?_eq_none {x : Binary64} :
    x.safeInteger? = none ↔ ∀ z, x.Denotes z → maxSafeInteger < z.natAbs := by
  rw [Option.eq_none_iff_forall_ne_some]
  refine forall_congr' fun z => ?_
  rw [Ne, safeInteger?_eq_some, not_and, Nat.not_le]

end Binary64

/-! ## The values of a type -/

/-- The scalars of a type. -/
inductive ScalarType.Admits : ScalarType → Value → Prop where
  | text {s : String} (nonempty : s ≠ "") : Admits text (.text s)
  | number {x : Binary64} (finite : x.isFinite = true) : Admits number (.number x)
  | integer {x : Binary64} {z : Int} (exactly : x.Denotes z)
      (small : z.natAbs ≤ Binary64.maxSafeInteger) : Admits integer (.number x)
  | boolean (b : Bool) : Admits boolean (.boolean b)

/-- The values of a shape: scalars of its type, unless a list is declared, and lists of such scalars
that are not empty. -/
inductive Shape.Admits (shape : Shape) : Value → Prop where
  | scalar {v : Value} (single : shape.list = false) (admits : shape.type.Admits v) :
      Admits shape v
  | list {items : List Value} (nonempty : items ≠ [])
      (each : ∀ item ∈ items, shape.type.Admits item) : Admits shape (.list items)

theorem ScalarType.Admits.isEmptyList {type : ScalarType} {v : Value} (h : type.Admits v) :
    v.isEmptyList = false := by
  cases h <;> rfl

/-- No value of a shape counts as unset. -/
theorem Shape.Admits.isEmptyList {shape : Shape} {v : Value} (h : shape.Admits v) :
    v.isEmptyList = false := by
  cases h with
  | scalar _ admits => exact admits.isEmptyList
  | @list items nonempty _ =>
    cases items with
    | nil => exact absurd rfl nonempty
    | cons _ _ => rfl

/-! ## Reading gives values of the type -/

theorem ScalarType.read?_admits {type : ScalarType} {s : String} {v : Value}
    (h : type.read? s = some v) : type.Admits v := by
  cases type with
  | text =>
    simp only [read?] at h
    split at h
    · exact absurd h (by simp)
    · rename_i nonempty
      obtain rfl := Option.some.inj h
      exact .text nonempty
  | number =>
    simp only [read?] at h
    split at h
    · rename_i x _
      split at h
      · rename_i finite
        obtain rfl := Option.some.inj h
        exact .number finite
      · exact absurd h (by simp)
    · exact absurd h (by simp)
  | integer =>
    simp only [read?] at h
    split at h
    · rename_i z _
      split at h
      · rename_i small
        obtain rfl := Option.some.inj h
        exact .integer (Binary64.denotes_ofInt small) small
      · exact absurd h (by simp)
    · exact absurd h (by simp)
  | boolean =>
    obtain ⟨b, _, rfl⟩ := Option.map_eq_some_iff.1 h
    exact .boolean b

/-- The empty text does not read, whatever the type. -/
theorem ScalarType.read?_empty (type : ScalarType) : type.read? "" = none := by
  cases type <;> rfl

/-- Texts that do not read are dropped; if none is left, there is no list either. -/
theorem ScalarType.readList?_eq_some {type : ScalarType} {texts : List String} {v : Value} :
    type.readList? texts = some v ↔
      texts.filterMap type.read? ≠ [] ∧ v = .list (texts.filterMap type.read?) := by
  unfold readList?
  cases texts.filterMap type.read? with
  | nil =>
    refine iff_of_false (fun impossible => ?_) fun impossible => impossible.1 rfl
    cases impossible
  | cons item rest =>
    rw [and_iff_right (List.cons_ne_nil item rest), eq_comm (a := v)]
    exact Option.some_inj

theorem Shape.read?_of_list {shape : Shape} (list : shape.list = true) (s : String) :
    shape.read? (.single s) = shape.type.readList? (parts s) :=
  if_pos list

theorem Shape.read?_of_not_list {shape : Shape} (single : shape.list = false) (s : String) :
    shape.read? (.single s) = shape.type.read? s :=
  if_neg (Bool.eq_false_iff.1 single)

/-- A value is read as a list from several texts, or where no list is declared as a scalar from
one. -/
theorem Shape.read?_cases {shape : Shape} {supplied : Supplied} {v : Value}
    (h : shape.read? supplied = some v) :
    (∃ texts, shape.type.readList? texts = some v) ∨
      ∃ s, supplied = .single s ∧ shape.list = false ∧ shape.type.read? s = some v := by
  cases supplied with
  | many texts => exact .inl ⟨texts, h⟩
  | single s =>
    cases list : shape.list with
    | true => exact .inl ⟨parts s, (read?_of_list list s).symm.trans h⟩
    | false => exact .inr ⟨s, rfl, rfl, (read?_of_not_list list s).symm.trans h⟩

theorem Shape.readList?_admits {shape : Shape} {items : List String} {v : Value}
    (h : shape.type.readList? items = some v) : shape.Admits v := by
  obtain ⟨nonempty, rfl⟩ := ScalarType.readList?_eq_some.1 h
  refine .list nonempty fun item member => ?_
  obtain ⟨s, _, reads⟩ := List.mem_filterMap.1 member
  exact ScalarType.read?_admits reads

/-- **A request supplies values of the declared shape or none.** -/
theorem Shape.read?_admits {shape : Shape} {supplied : Supplied} {v : Value}
    (h : shape.read? supplied = some v) : shape.Admits v := by
  obtain ⟨texts, reads⟩ | ⟨s, -, single, reads⟩ := read?_cases h
  · exact readList?_admits reads
  · exact .scalar single (ScalarType.read?_admits reads)

end RequestParams
