import RequestParams.Proofs.Influence
import RequestParams.Proofs.Joining

/-!
# Repeated entries and one entry with commas

A client may send a list by repeating a key, or under one key with commas between the items. The two
ways go through different branches of the reader: repeated entries are read one by one, and one
entry is taken apart first. For a parameter that is declared with a list and for items without
commas they come to the same (`Shape.read?_repeated`), including the ways to send nothing: no entry
at all, and empty entries, which are left out like all that do not read.

The rest of a request does not depend on it. Two requests that differ in nothing else are verified
with the same result (`verify_repeated`), since everything after gathering sees values only.
-/

set_option autoImplicit false

namespace RequestParams

/-! ## Reading -/

/-- Where a list is declared, texts without commas read the same one by one and joined by commas. -/
theorem Shape.read?_repeated {shape : Shape} (list : shape.list = true) {texts : List String}
    (unseparated : ∀ s ∈ texts, Value.separator ∉ s.toList) :
    shape.read? (.single (",".intercalate texts)) = shape.read? (.many texts) := by
  rw [read?_of_list list]
  by_cases none : texts = []
  · -- No texts at all are joined to the empty text, and that is one part, which does not read.
    subst none
    have one : parts (",".intercalate []) = [""] := rfl
    have unread : [""].filterMap shape.type.read? = [] :=
      List.filterMap_cons_none shape.type.read?_empty
    rw [one]
    simp only [read?, ScalarType.readList?, unread, List.filterMap_nil]
  · rw [parts_intercalate none unseparated]
    rfl

namespace Endpoint

variable {e : Endpoint} {request other : Request} {key : String} {supplied supplied' : Supplied}

/-! ## Two requests that differ at one place -/

/-- The bag of a name is the first in the order of the endpoint that holds a key, and what it
supplies under it. -/
structure FirstHolds (e : Endpoint) (request : Request) (name key : String)
    (supplied : Supplied) : Prop where
  first : ∃ before after, e.order = before ++ name :: after ∧
    ∀ earlier ∈ before, request.held? earlier key = none
  holds : request.held? name key = some supplied

/-- Two requests differ in what the first bag that holds a key supplies under it, and in nothing
else that the endpoint looks at. -/
structure DifferAt (e : Endpoint) (request other : Request) (key : String)
    (supplied supplied' : Supplied) : Prop where
  here : ∃ name, e.FirstHolds request name key supplied ∧ e.FirstHolds other name key supplied'
  elsewhere : ∀ name ∈ e.order, ∀ another, another ≠ key →
    other.held? name another = request.held? name another

theorem FirstHolds.supplied? {name : String} (h : e.FirstHolds request name key supplied) :
    e.supplied? request key = some supplied := by
  obtain ⟨before, after, order, unheld⟩ := h.first
  rw [supplied?_eq_findSome?, List.findSome?_eq_some_iff]
  exact ⟨before, name, after, order, h.holds, unheld⟩

theorem gather_eq_of_differAt (differ : e.DifferAt request other key supplied supplied')
    (same : e.readKey key supplied' = e.readKey key supplied) :
    e.gather other = e.gather request := by
  obtain ⟨name, before, after⟩ := differ.here
  refine ByName.ext_get? fun another => ?_
  rw [get?_gather, get?_gather]
  by_cases here : another = key
  · rw [here, before.supplied?, after.supplied?]
    exact same
  · rw [supplied?_congr fun name looked => differ.elsewhere name looked another here]

/-- Verification goes on from what was gathered and does not look at the request again. -/
theorem verify_eq_of_gather (same : e.gather other = e.gather request) :
    e.verify other = e.verify request := by
  unfold verify
  rw [same]

/-- **A list may be sent either way.** Two requests that differ at a parameter which is declared with
a list, in that the first bag that holds it supplies repeated entries without commas in the one and
the same texts joined by commas in the other, are verified with the same result: for the same
failures, or with the same values. -/
theorem verify_repeated (distinct : (e.parameters.map Prod.fst).Nodup) {p : Parameter}
    (declared : (key, p) ∈ e.parameters) (list : p.rule.shape.list = true) {texts : List String}
    (unseparated : ∀ s ∈ texts, ',' ∉ s.toList)
    (differ : e.DifferAt request other key (.many texts) (.single (",".intercalate texts))) :
    e.verify other = e.verify request := by
  refine verify_eq_of_gather (gather_eq_of_differAt differ ?_)
  unfold readKey
  rw [(parameter?_eq_some distinct).2 declared]
  exact Shape.read?_repeated list unseparated

/-- Flags with an empty entry and one that does not read, in a bag behind one that lists the key
without a value and in front of one that supplies something else. -/
theorem verify_repeated_sample :
    let flags : Parameter := ⟨{ shape := ⟨.boolean, true⟩ }, {}⟩
    let e : Endpoint := ⟨none, [("flags", flags)], ["body", "query", "cookies"], "args", {}⟩
    let texts : List String := ["yes", "", "perhaps", "0"]
    let request (supplied : Supplied) : Request :=
      .ofBags "GET" "/x"
        [("body", .ofPairs ["flags"] []), ("query", .ofPairs ["flags"] [("flags", supplied)]),
          ("cookies", .ofPairs ["flags", "tag"] [("flags", .single "no"), ("tag", .single "a")])]
    e.DifferAt (request (.many texts)) (request (.single "yes,,perhaps,0")) "flags"
        (.many texts) (.single (",".intercalate texts)) ∧
      e.verify (request (.single "yes,,perhaps,0")) = e.verify (request (.many texts)) ∧
      ∃ values, e.verify (request (.single "yes,,perhaps,0")) = .ok values ∧
        values.get? "flags" = some (.list [.boolean true, .boolean false]) ∧
        values.get? "tag" = some (.text "a") := by
  intro flags e texts request
  have behind : e.order = ["body"] ++ "query" :: ["cookies"] := rfl
  have differ : e.DifferAt (request (.many texts)) (request (.single "yes,,perhaps,0")) "flags"
      (.many texts) (.single (",".intercalate texts)) := by
    refine ⟨⟨"query", ⟨⟨_, _, behind, ?_⟩, rfl⟩, ⟨_, _, behind, ?_⟩, rfl⟩, ?_⟩
    · exact List.forall_mem_singleton.2 rfl
    · exact List.forall_mem_singleton.2 rfl
    · intro name looked another apart
      have other (supplied : Supplied) :
          [("flags", supplied)].lookup another = none :=
        ByName.lookup_eq_none_iff_not_mem.2 (mt List.mem_singleton.1 apart)
      obtain rfl | rfl | rfl : name = "body" ∨ name = "query" ∨ name = "cookies" := by
        simpa [e] using looked
      · rfl
      · show (if another ∈ ["flags"] then [("flags", _)].lookup another else none)
          = if another ∈ ["flags"] then [("flags", _)].lookup another else none
        rw [other, other]
      · rfl
  have distinct : (e.parameters.map Prod.fst).Nodup := by decide
  have unseparated : ∀ s ∈ texts, ',' ∉ s.toList := by
    intro s member
    obtain rfl | rfl | rfl | rfl : s = "yes" ∨ s = "" ∨ s = "perhaps" ∨ s = "0" := by
      simpa [texts] using member
    all_goals decide
  have same := verify_repeated distinct List.mem_cons_self rfl unseparated differ
  refine ⟨differ, same, e.fill (e.gather (request (.many texts))), ?_⟩
  rw [same]
  exact ⟨verify_eq_ok.2 ⟨by decide, rfl⟩, by decide, by decide⟩

end Endpoint
end RequestParams
