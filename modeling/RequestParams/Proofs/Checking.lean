import RequestParams.Endpoint.Verification
import RequestParams.Proofs.Reading

/-!
# What the check reports

The check goes through nested lists and tries two bounds on every scalar. What it reports can be said
without following it: a value comes to the measures of its scalars, depth first and from left to
right (`Value.measures`), and the first measure that breaks a bound decides (`Rule.BrokenFirst`).

Around that stands what makes a parameter be at fault at all (`Parameter.AtFault`): its validator, if
it has one, and nothing else; else the lack of a value, if it is required; else its bounds.
`check_reports` is the statement, for any values, be they gathered from a request or built by hand.
-/

set_option autoImplicit false

namespace RequestParams

/-! ## Measures -/

namespace Value

mutual

/-- The scalars of a value, depth first and from left to right. -/
def scalars : Value → List Value
  | list items => scalarsOfAll items
  | scalar => [scalar]

def scalarsOfAll : List Value → List Value
  | [] => []
  | v :: rest => v.scalars ++ scalarsOfAll rest

end

/-- What the scalars of a value measure, in order; truth values measure nothing. -/
def measures (v : Value) : List Binary64 := v.scalars.filterMap measure?

theorem measures_list_cons (item : Value) (rest : List Value) :
    (list (item :: rest)).measures = item.measures ++ (list rest).measures :=
  List.filterMap_append

theorem isEmptyList_eq_false_iff {v : Value} : v.isEmptyList = false ↔ v ≠ .list [] := by
  cases v with
  | list items => cases items <;> simp [isEmptyList]
  | _ => simp [isEmptyList]

end Value

/-- A text of up to 2⁵³ − 1 characters is measured exactly. -/
theorem Binary64.denotes_ofNat {n : Nat} (small : n ≤ maxSafeInteger) : (ofNat n).Denotes n := by
  have same : ofInt (n : Int) = ofNat n := by
    unfold ofInt ofNat
    rw [Int.natAbs_natCast, decide_eq_false (Int.not_lt.2 (Int.natCast_nonneg n))]
  rw [← same]
  exact denotes_ofInt (by rwa [Int.natAbs_natCast])

/-! ## Bounds -/

namespace Rule

/-- A measure breaks a bound: it exceeds the greatest, or it does not and falls short of the
least. -/
inductive BrokenBy (rule : Rule) (measure : Binary64) : Violation → Prop where
  | above {bound : Binary64} (set : rule.greatest = some bound) (exceeds : bound.lt measure = true) :
      BrokenBy rule measure (.aboveGreatest bound)
  | below {bound : Binary64} (within : ∀ greatest ∈ rule.greatest, greatest.lt measure = false)
      (set : rule.least = some bound) (short : measure.lt bound = true) :
      BrokenBy rule measure (.belowLeast bound)

/-- The first measure of a value that breaks a bound decides which bound is broken. -/
def BrokenFirst (rule : Rule) (v : Value) (violation : Violation) : Prop :=
  ∃ before measure after, v.measures = before ++ measure :: after ∧
    (∀ earlier ∈ before, ∀ other, ¬ rule.BrokenBy earlier other) ∧
    rule.BrokenBy measure violation

/-- The bound that a measure breaks. -/
def broken? (rule : Rule) (measure : Binary64) : Option Violation :=
  ((rule.greatest.filter (·.lt measure)).map .aboveGreatest).or
    ((rule.least.filter (measure.lt ·)).map .belowLeast)

theorem broken?_eq_some {rule : Rule} {measure : Binary64} {violation : Violation} :
    rule.broken? measure = some violation ↔ rule.BrokenBy measure violation := by
  unfold broken?
  rw [Option.or_eq_some_iff]
  constructor
  · rintro (above | ⟨within, below⟩)
    · obtain ⟨bound, found, rfl⟩ := Option.map_eq_some_iff.1 above
      obtain ⟨set, exceeds⟩ := Option.filter_eq_some_iff.1 found
      exact .above set exceeds
    · obtain ⟨bound, found, rfl⟩ := Option.map_eq_some_iff.1 below
      obtain ⟨set, short⟩ := Option.filter_eq_some_iff.1 found
      rw [Option.map_eq_none_iff, Option.filter_eq_none_iff] at within
      exact .below (fun greatest member => Bool.eq_false_iff.2 (within greatest member)) set short
  · intro breaks
    cases breaks with
    | above set exceeds =>
      exact .inl (Option.map_eq_some_iff.2 ⟨_, Option.filter_eq_some_iff.2 ⟨set, exceeds⟩, rfl⟩)
    | below within set short =>
      refine .inr ⟨?_, Option.map_eq_some_iff.2 ⟨_, Option.filter_eq_some_iff.2 ⟨set, short⟩, rfl⟩⟩
      rw [Option.map_eq_none_iff, Option.filter_eq_none_iff]
      exact fun greatest member => Bool.eq_false_iff.1 (within greatest member)

theorem broken?_eq_none {rule : Rule} {measure : Binary64} :
    rule.broken? measure = none ↔ ∀ violation, ¬ rule.BrokenBy measure violation := by
  rw [Option.eq_none_iff_forall_ne_some]
  exact forall_congr' fun violation => not_congr broken?_eq_some

/-- What is broken is a bound that is set, and no comparison with not-a-number succeeds. -/
theorem BrokenBy.bound {rule : Rule} {measure : Binary64} {violation : Violation}
    (h : rule.BrokenBy measure violation) :
    ∃ bound, bound ≠ .nan ∧ ((rule.greatest = some bound ∧ violation = .aboveGreatest bound) ∨
      (rule.least = some bound ∧ violation = .belowLeast bound)) := by
  cases h with
  | @above bound set exceeds =>
    refine ⟨bound, fun nan => ?_, .inl ⟨set, rfl⟩⟩
    rw [nan] at exceeds
    cases exceeds
  | @below bound within set short =>
    refine ⟨bound, fun nan => ?_, .inr ⟨set, rfl⟩⟩
    rw [nan] at short
    cases measure <;> cases short

end Rule

namespace Endpoint

theorem outOfBounds_of_measure (rule : Rule) {v : Value} {measure : Binary64}
    (measured : v.measure? = some measure) : outOfBounds rule v = rule.broken? measure := by
  cases v with
  | text s =>
    cases measured
    unfold outOfBounds Rule.broken? Value.measure?
    dsimp only
    cases rule.greatest.filter (·.lt (Binary64.ofNat s.length)) <;> rfl
  | number x =>
    cases measured
    unfold outOfBounds Rule.broken? Value.measure?
    dsimp only
    cases rule.greatest.filter (·.lt measure) <;> rfl
  | boolean b => cases measured
  | list items => cases measured

mutual

/-- The check of a value is a search through its measures, however deep lists are nested. -/
theorem outOfBounds_eq (rule : Rule) (v : Value) :
    outOfBounds rule v = v.measures.findSome? rule.broken? := by
  cases v with
  | text s =>
    rw [outOfBounds_of_measure rule rfl]
    exact (List.findSome?_singleton).symm
  | number x =>
    rw [outOfBounds_of_measure rule rfl]
    exact (List.findSome?_singleton).symm
  | boolean b => rfl
  | list items => exact firstOutOfBounds_eq rule items

theorem firstOutOfBounds_eq (rule : Rule) (items : List Value) :
    firstOutOfBounds rule items = (Value.list items).measures.findSome? rule.broken? := by
  cases items with
  | nil => rfl
  | cons item rest =>
    rw [firstOutOfBounds, outOfBounds_eq rule item, firstOutOfBounds_eq rule rest,
      Value.measures_list_cons, List.findSome?_append, Option.orElse_eq_orElse,
      Option.orElse_eq_or]

end

theorem outOfBounds_eq_some {rule : Rule} {v : Value} {violation : Violation} :
    outOfBounds rule v = some violation ↔ rule.BrokenFirst v violation := by
  rw [outOfBounds_eq, List.findSome?_eq_some_iff]
  constructor
  · rintro ⟨before, measure, after, order, broken, kept⟩
    exact ⟨before, measure, after, order,
      fun earlier member => Rule.broken?_eq_none.1 (kept earlier member),
      Rule.broken?_eq_some.1 broken⟩
  · rintro ⟨before, measure, after, order, kept, broken⟩
    exact ⟨before, measure, after, order, Rule.broken?_eq_some.2 broken,
      fun earlier member => Rule.broken?_eq_none.2 (kept earlier member)⟩

theorem outOfBounds_eq_none {rule : Rule} {v : Value} :
    outOfBounds rule v = none ↔ ∀ violation, ¬ rule.BrokenFirst v violation := by
  rw [Option.eq_none_iff_forall_ne_some]
  exact forall_congr' fun violation => not_congr outOfBounds_eq_some

end Endpoint

/-! ## Parameters -/

/-- Nothing is given, or a list without items. -/
def Value.Unset (offered : Option Value) : Prop := offered = none ∨ offered = some (.list [])

/-- What is wrong with a parameter, given a value or none. -/
inductive Parameter.AtFault (p : Parameter) (offered : Option Value) : Violation → Prop where
  /-- A validator has the only say, and an empty message is none. -/
  | turnedDown {validate : Validator} {message : String}
      (own : p.callbacks.validate = some validate) (answers : validate p.rule offered = some message)
      (worded : message ≠ "") : AtFault p offered (.turnedDown message)
  | missing (builtIn : p.callbacks.validate = none) (unset : Value.Unset offered)
      (required : p.rule.required = true) : AtFault p offered .missing
  | outOfBounds {v : Value} {violation : Violation} (builtIn : p.callbacks.validate = none)
      (set : offered = some v) (filled : v ≠ .list []) (broken : p.rule.BrokenFirst v violation) :
      AtFault p offered violation

theorem Validator.judge_eq_some {validate : Validator} {rule : Rule} {offered : Option Value}
    {message : String} :
    validate.judge rule offered = some message ↔
      validate rule offered = some message ∧ message ≠ "" := by
  unfold judge
  cases validate rule offered with
  | none => simp
  | some said =>
    dsimp only
    by_cases empty : said = ""
    · rw [if_pos empty]
      subst empty
      constructor
      · intro impossible
        cases impossible
      · rintro ⟨same, worded⟩
        exact absurd (Option.some.inj same).symm worded
    · rw [if_neg empty]
      refine ⟨fun same => ⟨same, fun none => empty ?_⟩, And.left⟩
      rw [Option.some.inj same, none]

namespace Endpoint

/-- A value that is set is held against the bounds, and against nothing else. -/
theorem violation?_some {p : Parameter} (builtIn : p.callbacks.validate = none) {v : Value}
    (set : v.isEmptyList = false) : violation? p (some v) = outOfBounds p.rule v := by
  have kept : Option.filter (!·.isEmptyList) (some v) = some v :=
    Option.filter_some_pos (by rw [set]; rfl)
  unfold violation?
  rw [builtIn]
  dsimp only
  rw [kept]

theorem violation?_validator {p : Parameter} {validate : Validator} {offered : Option Value}
    (own : p.callbacks.validate = some validate) :
    violation? p offered = (Validator.judge validate p.rule offered).map .turnedDown := by
  unfold violation?
  rw [own]

theorem violation?_unset {p : Parameter} (builtIn : p.callbacks.validate = none)
    {offered : Option Value} (unset : Value.Unset offered) :
    violation? p offered = if p.rule.required then some .missing else none := by
  unfold violation?
  rw [builtIn]
  rcases unset with rfl | rfl <;> rfl

theorem violation?_eq_some {p : Parameter} {offered : Option Value} {violation : Violation} :
    violation? p offered = some violation ↔ p.AtFault offered violation := by
  constructor
  · intro found
    cases own : p.callbacks.validate with
    | some validate =>
      rw [violation?_validator own] at found
      obtain ⟨message, judged, rfl⟩ := Option.map_eq_some_iff.1 found
      obtain ⟨answers, worded⟩ := Validator.judge_eq_some.1 judged
      exact .turnedDown own answers worded
    | none =>
      by_cases unset : Value.Unset offered
      · rw [violation?_unset own unset] at found
        split at found
        · rename_i required
          obtain rfl := Option.some.inj found
          exact .missing own unset required
        · cases found
      · obtain ⟨v, rfl⟩ := Option.ne_none_iff_exists'.1 fun none => unset (.inl none)
        have filled : v ≠ .list [] := fun empty => unset (.inr (congrArg some empty))
        rw [violation?_some own (Value.isEmptyList_eq_false_iff.2 filled)] at found
        exact .outOfBounds own rfl filled (outOfBounds_eq_some.1 found)
  · intro fault
    cases fault with
    | turnedDown own answers worded =>
      rw [violation?_validator own, Validator.judge_eq_some.2 ⟨answers, worded⟩]
      rfl
    | missing builtIn unset required => rw [violation?_unset builtIn unset, if_pos required]
    | outOfBounds builtIn set filled broken =>
      rw [set, violation?_some builtIn (Value.isEmptyList_eq_false_iff.2 filled)]
      exact outOfBounds_eq_some.2 broken

/-! ## All parameters -/

variable {e : Endpoint}

theorem parameter?_eq_some (distinct : (e.parameters.map Prod.fst).Nodup) {name : String}
    {p : Parameter} : e.parameter? name = some p ↔ (name, p) ∈ e.parameters :=
  ByName.lookup_eq_some_iff_mem distinct

theorem parameter?_eq_none {name : String} :
    e.parameter? name = none ↔ name ∉ e.parameters.map Prod.fst :=
  ByName.lookup_eq_none_iff_not_mem

theorem get?_check (distinct : (e.parameters.map Prod.fst).Nodup) (values : Values)
    (name : String) :
    (e.check values).get? name = (e.parameter? name).bind fun p =>
      (violation? p (values.get? name)).map (Failure.mk p.rule.shape.type) := by
  unfold check
  rw [ByName.get?_foldl_found
    (fun name p => (violation? p (values.get? name)).map (Failure.mk p.rule.shape.type))
    (fun failures ⟨name, p⟩ => by
      dsimp only
      cases violation? p (values.get? name) <;> rfl) distinct,
    ByName.get?_empty, Option.none_or]
  rfl

theorem check_eq_some (distinct : (e.parameters.map Prod.fst).Nodup)
    {values : Values} {name : String} {failure : Failure} :
    (e.check values).get? name = some failure ↔
      ∃ p violation, (name, p) ∈ e.parameters ∧ p.AtFault (values.get? name) violation ∧
        failure = ⟨p.rule.shape.type, violation⟩ := by
  rw [get?_check distinct]
  constructor
  · intro found
    obtain ⟨p, known, found⟩ := Option.bind_eq_some_iff.1 found
    obtain ⟨violation, broken, rfl⟩ := Option.map_eq_some_iff.1 found
    exact ⟨p, violation, (parameter?_eq_some distinct).1 known, violation?_eq_some.1 broken, rfl⟩
  · rintro ⟨p, violation, declared, fault, rfl⟩
    rw [(parameter?_eq_some distinct).2 declared, Option.bind_some, violation?_eq_some.2 fault]
    rfl

/-- **What the check reports, and nothing else.** For any values, those that no request could supply
included, the failures on file are those of declared parameters that are at fault, each with the
declared type. A parameter is at fault in one way at most. A bound that is not set or is not-a-number
is never broken, and a text is measured by its characters. -/
theorem check_reports (distinct : (e.parameters.map Prod.fst).Nodup)
    (values : Values) :
    (∀ name failure, (e.check values).get? name = some failure ↔
      ∃ p violation, (name, p) ∈ e.parameters ∧ p.AtFault (values.get? name) violation ∧
        failure = ⟨p.rule.shape.type, violation⟩) ∧
    (∀ (p : Parameter) offered violation violation', p.AtFault offered violation →
      p.AtFault offered violation' → violation = violation') ∧
    (∀ (rule : Rule) measure violation, rule.BrokenBy measure violation →
      ∃ bound, bound ≠ .nan ∧ ((rule.greatest = some bound ∧ violation = .aboveGreatest bound) ∨
        (rule.least = some bound ∧ violation = .belowLeast bound))) ∧
    ∀ s : String, s.length ≤ Binary64.maxSafeInteger →
      ∃ measure, (Value.text s).measures = [measure] ∧ measure.Denotes s.length := by
  refine ⟨fun name failure => check_eq_some distinct,
    fun p offered violation violation' fault fault' => ?_,
    fun rule measure violation broken => broken.bound,
    fun s short => ⟨_, rfl, Binary64.denotes_ofNat short⟩⟩
  -- Both are what the one check of the parameter answers.
  have found := violation?_eq_some.2 fault
  rw [violation?_eq_some.2 fault'] at found
  exact (Option.some.inj found).symm

/-- A bound that is broken deep in a list, before one that is broken later and behind what measures
nothing; a greatest below the least, where the greatest decides; a bound that is not-a-number; a
list without items; and a validator that says nothing about a value that is required. -/
theorem check_reports_sample :
    let number (greatest least : Option Binary64) : Parameter :=
      ⟨{ shape := ⟨.number, true⟩, greatest := greatest, least := least }, {}⟩
    let bound (n : Nat) : Option Binary64 := some (.ofNat n)
    let e : Endpoint :=
      ⟨none,
        [("deep", number (bound 9) (bound 2)), ("inverted", number (bound 2) (bound 9)),
          ("unbounded", number (some .nan) (some .nan)), ("empty", number none none),
          ("own", ⟨{ shape := ⟨.text, false⟩ }, { validate := some fun _ _ => some "" }⟩)],
        defaultOrder, defaultSlot, {}⟩
    let n (n : Nat) : Value := .number (.ofNat n)
    let values : Values := ByName.ofList
      [("deep", .list [.list [], .list [.boolean true, n 5], .list [n 1], n 12]),
        ("inverted", n 5), ("unbounded", .list [n 0, .text ""]), ("empty", .list [])]
    (e.parameters.map Prod.fst).Nodup ∧
      (e.check values).get? "deep" = some ⟨.number, .belowLeast (.ofNat 2)⟩ ∧
      (e.check values).get? "inverted" = some ⟨.number, .aboveGreatest (.ofNat 2)⟩ ∧
      (e.check values).get? "unbounded" = none ∧
      (e.check values).get? "empty" = some ⟨.number, .missing⟩ ∧
      (e.check values).get? "own" = none := by
  intro number bound e n values
  have distinct : (e.parameters.map Prod.fst).Nodup := by decide
  obtain ⟨reported, -, bounds, -⟩ := check_reports distinct values
  have deep : e.parameter? "deep" = some (number (bound 9) (bound 2)) := rfl
  have inverted : e.parameter? "inverted" = some (number (bound 2) (bound 9)) := rfl
  have unbounded : e.parameter? "unbounded" = some (number (some .nan) (some .nan)) := rfl
  have empty : e.parameter? "empty" = some (number none none) := rfl
  have nested : values.get? "deep"
      = some (.list [.list [], .list [.boolean true, n 5], .list [n 1], n 12]) := by decide +kernel
  have alone : values.get? "inverted" = some (n 5) := by decide +kernel
  have given : values.get? "unbounded" = some (.list [n 0, .text ""]) := by decide +kernel
  refine ⟨distinct, ?_, ?_, ?_, ?_, ?_⟩
  · refine (reported "deep" _).2 ⟨_, _, (parameter?_eq_some distinct).1 deep,
      .outOfBounds rfl nested (fun same => by cases same)
        ⟨[.ofNat 5], .ofNat 1, [.ofNat 12], rfl, ?_, .below ?_ rfl (by decide +kernel)⟩, rfl⟩
    · intro earlier member
      rw [List.mem_singleton.1 member]
      exact Rule.broken?_eq_none.1 (by decide +kernel)
    · intro greatest set
      rw [← Option.some.inj set]
      decide +kernel
  · exact (reported "inverted" _).2 ⟨_, _, (parameter?_eq_some distinct).1 inverted,
      .outOfBounds rfl alone (fun same => by cases same)
        ⟨[], .ofNat 5, [], rfl, List.forall_mem_nil _, .above rfl (by decide +kernel)⟩, rfl⟩
  · refine Option.eq_none_iff_forall_ne_some.2 fun failure found => ?_
    obtain ⟨p, violation, declared, fault, -⟩ := (reported "unbounded" failure).1 found
    obtain rfl := Option.some.inj
      (unbounded.symm.trans ((parameter?_eq_some distinct).2 declared))
    cases fault with
    | turnedDown own => cases own
    | missing builtIn unset required =>
      rw [given] at unset
      rcases unset with none | empty
      · cases none
      · cases empty
    | outOfBounds builtIn set filled broken =>
      obtain ⟨-, measure, -, -, -, breaks⟩ := broken
      obtain ⟨bound, real, ⟨set, -⟩ | ⟨set, -⟩⟩ := bounds _ _ _ breaks
      · exact real (Option.some.inj set).symm
      · exact real (Option.some.inj set).symm
  · exact (reported "empty" _).2 ⟨_, _, (parameter?_eq_some distinct).1 empty,
      .missing rfl (.inr (by decide +kernel)) rfl, rfl⟩
  · refine Option.eq_none_iff_forall_ne_some.2 fun failure found => ?_
    obtain ⟨p, violation, declared, fault, -⟩ := (reported "own" failure).1 found
    have known : e.parameter? "own" = some p := (parameter?_eq_some distinct).2 declared
    cases known
    cases fault with
    | turnedDown own answers worded =>
      cases own
      exact worded (Option.some.inj answers).symm
    | missing builtIn => cases builtIn
    | outOfBounds builtIn => cases builtIn

end Endpoint
end RequestParams
