import RequestParams.Proofs.Verification

/-!
# Filling in defaults

Filling in goes through the parameters and files a default where nothing is filed yet, in the very
file that it looks into. What it leaves under a key depends on two things only: on what was there
before, and on the first parameter of that name that has a default (`get?_fill_eq_some`). That it
keeps what is there, adds nothing else and changes nothing when done again are cases of this
(`fill_adds_defaults`).
-/

set_option autoImplicit false

namespace RequestParams.Endpoint

variable {e : Endpoint} {values : Values} {key : String} {v : Value}

/-- The first parameter of a name that has a default has this one. -/
def FirstDefault (e : Endpoint) (name : String) (v : Value) : Prop :=
  ∃ before p after, e.parameters = before ++ (name, p) :: after ∧ p.rule.default = some v ∧
    ∀ earlier ∈ before, earlier.1 = name → earlier.2.rule.default = none

/-- What filling in leaves under a key: what was there, or else the first default. -/
theorem get?_fill_eq_some :
    (e.fill values).get? key = some v ↔
      values.get? key = some v ∨ values.get? key = none ∧ e.FirstDefault key v := by
  rw [get?_fill_first, Option.or_eq_some_iff,
    ByName.lookup_filterMap_eq_some fun _ (p : Parameter) => p.rule.default]
  rfl

theorem contains_fill_of_absent (absent : values.get? key = none) :
    (e.fill values).contains key = true ↔
      ∃ p, (key, p) ∈ e.parameters ∧ p.rule.default.isSome = true := by
  unfold ByName.contains
  rw [get?_fill_first, absent, Option.none_or, Option.isSome_iff_ne_none, ne_eq,
    ByName.lookup_eq_none_iff_not_mem, Classical.not_not, List.mem_map]
  constructor
  · rintro ⟨entry, listed, rfl⟩
    obtain ⟨⟨name, p⟩, declared, given⟩ := List.mem_filterMap.1 listed
    obtain ⟨v, default, rfl⟩ := Option.map_eq_some_iff.1 given
    exact ⟨p, declared, Option.isSome_of_eq_some default⟩
  · rintro ⟨p, declared, given⟩
    obtain ⟨v, default⟩ := Option.isSome_iff_exists.1 given
    have listed : Option.map (fun v => (key, v)) p.rule.default = some (key, v) := by
      rw [default]
      rfl
    exact ⟨(key, v), List.mem_filterMap.2 ⟨(key, p), declared, listed⟩, rfl⟩

/-- Nothing is missing any more that has a default. -/
theorem fill_fill (e : Endpoint) (values : Values) : e.fill (e.fill values) = e.fill values := by
  refine ByName.ext_get? fun key => ?_
  rw [get?_fill_first, get?_fill_first, Option.or_assoc, Option.or_self]

theorem fill_of_perm {other : Endpoint} (distinct : (e.parameters.map Prod.fst).Nodup)
    (reordered : other.parameters.Perm e.parameters) (values : Values) :
    other.fill values = e.fill values := by
  have distinct' := ((reordered.map Prod.fst).nodup_iff).2 distinct
  refine ByName.ext_get? fun key => ?_
  rw [get?_fill distinct, get?_fill distinct']
  unfold parameter?
  rw [ByName.lookup_perm distinct' reordered]

/-- **Filling in adds missing defaults and does nothing else.** What is there stays, be it an empty
list or under a key that nobody declares. A key that is missing is filled in if some parameter of
that name has a default, and then with the first default of that name; no other key is. Doing it
again changes nothing. Among distinct names the order of the parameters has no influence. -/
theorem fill_adds_defaults (e : Endpoint) (values : Values) :
    (∀ key v, values.get? key = some v → (e.fill values).get? key = some v) ∧
    (∀ key, values.get? key = none →
      ((e.fill values).contains key = true ↔
        ∃ p, (key, p) ∈ e.parameters ∧ p.rule.default.isSome = true) ∧
      ∀ v, (e.fill values).get? key = some v ↔ e.FirstDefault key v) ∧
    e.fill (e.fill values) = e.fill values ∧
    ∀ other : Endpoint, (e.parameters.map Prod.fst).Nodup →
      other.parameters.Perm e.parameters → other.fill values = e.fill values := by
  refine ⟨fun key v there => get?_fill_eq_some.2 (.inl there), ?_, fill_fill e values, ?_⟩
  · intro key absent
    refine ⟨contains_fill_of_absent absent, fun v => ?_⟩
    rw [get?_fill_eq_some, absent]
    simp
  · intro other distinct reordered
    exact fill_of_perm distinct reordered values

/-- A name that is declared three times, the first time without a default; an empty list, which is
not filled in; and two parameters in either order. -/
theorem fill_adds_defaults_sample :
    let page (default : Option Value) : Parameter := ⟨{ shape := ⟨.text, false⟩, default }, {}⟩
    let tags : Parameter := ⟨{ shape := ⟨.text, true⟩, default := some (.list [.text "a"]) }, {}⟩
    let e (parameters : List (String × Parameter)) : Endpoint :=
      ⟨none, parameters, defaultOrder, defaultSlot, {}⟩
    let repeated := e [("page", page none), ("tags", tags), ("page", page (some (.text "1"))),
      ("page", page (some (.text "2")))]
    let one := e [("page", page (some (.text "1"))), ("tags", tags)]
    let other := e [("tags", tags), ("page", page (some (.text "1")))]
    let values : Values := ByName.ofList [("tags", .list []), ("sort", .text "up")]
    (repeated.fill values).get? "tags" = some (.list []) ∧
      (repeated.fill values).get? "sort" = some (.text "up") ∧
      (repeated.fill values).get? "page" = some (.text "1") ∧
      (repeated.fill values).contains "sorted" = false ∧
      (one.parameters.map Prod.fst).Nodup ∧ other.parameters.Perm one.parameters ∧
      other.fill values = one.fill values := by
  intro page tags e repeated one other values
  obtain ⟨stays, added, -, -⟩ := fill_adds_defaults repeated values
  have first : repeated.FirstDefault "page" (.text "1") := by
    refine ⟨[("page", page none), ("tags", tags)], page (some (.text "1")), _, rfl, rfl, ?_⟩
    intro earlier member same
    rcases List.mem_pair.1 member with rfl | rfl
    · rfl
    · exact absurd same (by decide)
  have distinct : (one.parameters.map Prod.fst).Nodup := by decide
  have reordered : other.parameters.Perm one.parameters := .swap _ _ _
  have unheard : (repeated.fill values).contains "sorted" = false := by
    refine Bool.eq_false_iff.2 fun there => ?_
    obtain ⟨p, declared, -⟩ := (added "sorted" rfl).1.1 there
    have undeclared : "sorted" ∉ repeated.parameters.map Prod.fst := by decide
    exact undeclared (List.mem_map_of_mem declared)
  exact ⟨stays "tags" _ (by decide), stays "sort" _ (by decide),
    ((added "page" (by decide)).2 _).2 first, unheard, distinct, reordered,
    (fill_adds_defaults one values).2.2.2 other distinct reordered⟩

end RequestParams.Endpoint
