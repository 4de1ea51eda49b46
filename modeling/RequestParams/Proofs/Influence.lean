import RequestParams.Proofs.Verification

/-!
# What has a say in verification

A sender fills all bags of a request, while a host trusts some bags more than others and lists those
first. So it matters that a bag cannot reach past the ones before it. Two requests are compared
here: if the first bag that holds it supplies the same for every declared name, they are verified
alike (`verify_alike`), whatever else they bring.

The passes are followed one by one, each time for the declared names only: gathering makes values
that agree on them, the check looks at nothing else, and filling in keeps the agreement. None of
this needs distinct names.
-/

set_option autoImplicit false

namespace RequestParams

/-- Two files answer alike for some names. -/
def ByName.AgreeOn {α : Type} (names : List String) (d d' : ByName α) : Prop :=
  ∀ name ∈ names, d.get? name = d'.get? name

namespace Endpoint

variable {e : Endpoint} {request other : Request} {values values' : Values}

/-- The names that an endpoint declares. -/
abbrev names (e : Endpoint) : List String := e.parameters.map Prod.fst

/-! ## The passes, for declared names -/

theorem gather_agree
    (same : ∀ name ∈ e.names, e.supplied? other name = e.supplied? request name) :
    (e.gather request).AgreeOn e.names (e.gather other) := by
  intro name declared
  rw [get?_gather, get?_gather, same name declared]

theorem check_eq_of_agree (agree : values.AgreeOn e.names values') :
    e.check values = e.check values' := by
  unfold check
  refine List.foldl_ext _ _ _ fun failures declared member => ?_
  have same := agree declared.1 (List.mem_map_of_mem member)
  obtain ⟨name, p⟩ := declared
  dsimp only at same ⊢
  rw [same]

theorem fill_agree (agree : values.AgreeOn e.names values') :
    (e.fill values).AgreeOn e.names (e.fill values') := by
  intro name declared
  rw [get?_fill_first, get?_fill_first, agree name declared]

/-! ## Two requests -/

/-- Two requests come to the same at an endpoint: both are refused, for the same failures, or both
are verified, with the same values under declared names. -/
inductive VerifiedAlike (e : Endpoint) (request other : Request) : Prop where
  | refused {failures : Failures} (first : e.verify request = .error failures)
      (second : e.verify other = .error failures) : VerifiedAlike e request other
  | verified {values values' : Values} (first : e.verify request = .ok values)
      (second : e.verify other = .ok values') (agree : values.AgreeOn e.names values') :
      VerifiedAlike e request other

theorem verifiedAlike_of_supplied
    (same : ∀ name ∈ e.names, e.supplied? other name = e.supplied? request name) :
    e.VerifiedAlike request other := by
  have gathered := gather_agree same
  have checked := check_eq_of_agree gathered
  cases verdict : e.verify request with
  | error failures =>
    obtain ⟨some, rfl⟩ := verify_eq_error.1 verdict
    refine .refused verdict (verify_eq_error.2 ⟨?_, checked.symm⟩)
    rw [← checked]
    exact some
  | ok values =>
    obtain ⟨none, rfl⟩ := verify_eq_ok.1 verdict
    refine .verified verdict (verify_eq_ok.2 ⟨?_, rfl⟩) (fill_agree gathered)
    rw [← checked]
    exact none

/-- **Only the first bag that holds a declared name has a say.** Two requests in which it supplies
the same for every declared name, or in which no bag holds the name, are verified alike: they are
refused for the same failures, or they are verified with the same values under all declared names.

So a request may be changed at will in bags that the endpoint does not look into, under keys that
nobody declares, and under declared names in every bag that an earlier one shadows. -/
theorem verify_alike (e : Endpoint) (request : Request) :
    (∀ other : Request,
      (∀ name ∈ e.names, e.supplied? other name = e.supplied? request name) →
      e.VerifiedAlike request other) ∧
    ∀ other : Request,
      (∀ key ∈ e.names, ∀ before name after, e.order = before ++ name :: after →
        (∀ earlier ∈ before, request.held? earlier key = none) →
        other.held? name key = request.held? name key) →
      e.VerifiedAlike request other := by
  refine ⟨fun other same => verifiedAlike_of_supplied same, fun other same => ?_⟩
  exact verifiedAlike_of_supplied fun key declared => supplied?_unshadowed (same key declared)

/-- The other request has a word that does not read in a bag behind the one that supplies it, a text
that the validator turns down in a bag that nobody asked for, and a key without a declaration. -/
theorem verify_alike_sample :
    let wary : Validator := fun _ value => if value = some (.text "secret") then some "no" else none
    let e : Endpoint :=
      ⟨none, [("exact", ⟨{ shape := ⟨.boolean, false⟩ }, {}⟩),
        ("key", ⟨{ shape := ⟨.text, false⟩ }, { validate := some wary }⟩)],
        ["params", "query"], "args", {}⟩
    let request : Request :=
      .ofBags "GET" "/x" [("params", .ofPairs ["exact"] [("exact", .single "yes")]),
        ("query", .ofPairs ["key"] [("key", .single "k")])]
    let other : Request :=
      .ofBags "GET" "/x"
        [("params", .ofPairs ["exact", "tag"] [("exact", .single "yes"), ("tag", .single "a")]),
          ("query", .ofPairs ["key", "exact"] [("exact", .single "perhaps"), ("key", .single "k")]),
          ("body", .ofPairs ["key"] [("key", .single "secret")])]
    (∀ key ∈ e.names, ∀ before name after, e.order = before ++ name :: after →
        (∀ earlier ∈ before, request.held? earlier key = none) →
        other.held? name key = request.held? name key) ∧
      e.VerifiedAlike request other ∧
      ∃ values, e.verify other = .ok values ∧ values.get? "exact" = some (.boolean true) ∧
        values.get? "key" = some (.text "k") ∧ values.get? "tag" = some (.text "a") := by
  intro wary e request other
  have same : ∀ key ∈ e.names, ∀ before name after, e.order = before ++ name :: after →
      (∀ earlier ∈ before, request.held? earlier key = none) →
      other.held? name key = request.held? name key := by
    intro key declared before name after order unheld
    have keys : key = "exact" ∨ key = "key" := by simpa [e, names] using declared
    rcases before with _ | ⟨first, _ | ⟨second, rest⟩⟩
    · obtain rfl : "params" = name := (List.cons.inj order).1
      rcases keys with rfl | rfl <;> rfl
    · obtain ⟨rfl, rfl, -⟩ : "params" = first ∧ "query" = name ∧ [] = after := by
        simpa [e] using order
      rcases keys with rfl | rfl
      · cases unheld "params" List.mem_cons_self
      · rfl
    · have lengths := congrArg List.length order
      simp [e] at lengths
  have alike := (verify_alike e request).2 other same
  refine ⟨same, alike, e.fill (e.gather other), ?_⟩
  subst e wary
  exact ⟨verify_eq_ok.2 ⟨by decide, rfl⟩, by decide, by decide, by decide⟩

end Endpoint
end RequestParams
