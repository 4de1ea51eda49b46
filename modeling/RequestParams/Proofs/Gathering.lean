import RequestParams.Endpoint.Verification

/-!
# Which bag decides what comes of a key

Gathering walks the bags of an endpoint in order and claims a key at its first offer. This file says
what that walk comes to, without the walk: **the first bag that holds a key decides**
(`gather_by_first_holder`), even where what it supplies does not read and a later bag would have done
better.

The walk goes through offers, so there is one lemma per level of it: the offers of a bag
(`lookup_offers`), those of all bags in order (`lookup_allOffers`), and the claims made from them
(`get?_claimed`). Each is about looking up one key, since what is supplied under other keys never
matters to it.
-/

set_option autoImplicit false

namespace RequestParams

/-! ## Holding a key -/

instance (bag : Bag) (key : String) : Decidable (bag.Holds key) :=
  inferInstanceAs (Decidable (_ ∧ _))

/-- What a bag supplies under a key that it holds. -/
def Bag.held? (bag : Bag) (key : String) : Option Supplied :=
  if key ∈ bag.keys then bag.get? key else none

/-- What a request supplies under a key in the bag of a name. -/
def Request.held? (request : Request) (name key : String) : Option Supplied :=
  (request.bag? name).bind (·.held? key)

/-- The bag that lists some keys and answers from pairs. -/
def Bag.ofPairs (keys : List String) (pairs : List (String × Supplied)) : Bag where
  keys := keys
  get? key := pairs.lookup key

/-- The request that has the given bags. -/
def Request.ofBags (method path : String) (bags : List (String × Bag)) : Request where
  method := method
  path := path
  bag? name := bags.lookup name

theorem Bag.held?_of_holds {bag : Bag} {key : String} (h : bag.Holds key) :
    bag.held? key = bag.get? key := by
  unfold held?
  rw [if_pos h.1]

theorem Bag.held?_of_not_holds {bag : Bag} {key : String} (h : ¬ bag.Holds key) :
    bag.held? key = none := by
  unfold held?
  split
  · rename_i listed
    exact Option.not_isSome_iff_eq_none.1 fun answers => h ⟨listed, answers⟩
  · rfl

namespace Endpoint

/-- The first bag, in the order of the endpoint, that the request has and that holds a key. -/
def holder? (e : Endpoint) (request : Request) (key : String) : Option Bag :=
  (e.order.filterMap request.bag?).find? fun bag => decide (bag.Holds key)

/-- What a request supplies under a key: what the first bag that holds it does. -/
def supplied? (e : Endpoint) (request : Request) (key : String) : Option Supplied :=
  (e.holder? request key).bind (·.get? key)

/-- Walking the bags in order and stopping at the first that holds the key. -/
theorem supplied?_eq_findSome? (e : Endpoint) (request : Request) (key : String) :
    e.supplied? request key = e.order.findSome? (request.held? · key) := by
  unfold supplied? holder?
  induction e.order with
  | nil => rfl
  | cons name rest ih =>
    have here : request.held? name key = (request.bag? name).bind (·.held? key) := rfl
    rw [List.findSome?_cons, here]
    cases found : request.bag? name with
    | none =>
      rw [List.filterMap_cons_none found]
      exact ih
    | some bag =>
      rw [List.filterMap_cons_some found, List.find?_cons, Option.bind_some]
      by_cases holds : bag.Holds key
      · -- The answer is there, so both walks stop here.
        obtain ⟨supplied, answer⟩ := Option.isSome_iff_exists.1 holds.2
        simp [holds, Bag.held?_of_holds holds, answer]
      · rw [Bag.held?_of_not_holds holds]
        simpa [holds] using ih

/-- Under a key only those bags count that no earlier one shadows. -/
theorem supplied?_unshadowed {e : Endpoint} {request other : Request} {key : String}
    (same : ∀ before name after, e.order = before ++ name :: after →
      (∀ earlier ∈ before, request.held? earlier key = none) →
      other.held? name key = request.held? name key) :
    e.supplied? other key = e.supplied? request key := by
  rw [supplied?_eq_findSome?, supplied?_eq_findSome?]
  revert same
  generalize e.order = order
  induction order with
  | nil => exact fun _ => rfl
  | cons name rest ih =>
    intro same
    rw [List.findSome?_cons, List.findSome?_cons, same [] name rest rfl (List.forall_mem_nil _)]
    cases held : request.held? name key with
    | some supplied => rfl
    | none =>
      -- This bag shadows nothing, so the others count as they do without it.
      refine ih fun before later after split unheld => ?_
      refine same (name :: before) later after ?_ (List.forall_mem_cons.2 ⟨held, unheld⟩)
      rw [split]
      rfl

/-- Only what the bags of the endpoint hold under the key counts. -/
theorem supplied?_congr {e : Endpoint} {request other : Request} {key : String}
    (same : ∀ name ∈ e.order, other.held? name key = request.held? name key) :
    e.supplied? other key = e.supplied? request key := by
  refine supplied?_unshadowed fun before name after split _ => same name ?_
  rw [split]
  exact List.mem_append_right before List.mem_cons_self

/-! ## The walk -/

/-- The offers of a bag under a key: none unless it holds the key, however often it lists it. -/
theorem lookup_offers (bag : Bag) (key : String) : (offers bag).lookup key = bag.held? key := by
  unfold offers Bag.held?
  induction bag.keys with
  | nil => rfl
  | cons listed rest ih =>
    cases answer : bag.get? listed with
    | none =>
      rw [List.filterMap_cons_none (by simp [answer]), ih]
      by_cases same : key = listed
      · subst same
        simp [answer]
      · simp [same]
    | some supplied =>
      rw [List.filterMap_cons_some (by rw [answer]; rfl), ByName.lookup_cons_ite, ih]
      by_cases same : key = listed
      · subst same
        simp [answer]
      · simp [same]

/-- A key is offered first by the first bag that holds it. -/
theorem lookup_allOffers (e : Endpoint) (request : Request) (key : String) :
    (e.allOffers request).lookup key = e.supplied? request key := by
  rw [supplied?_eq_findSome?]
  unfold allOffers
  induction e.order with
  | nil => rfl
  | cons name rest ih =>
    rw [List.flatMap_cons, List.lookup_append, ih, List.findSome?_cons]
    unfold Request.held?
    cases request.bag? name with
    | none => rfl
    | some bag =>
      rw [Option.bind_some, ← lookup_offers]
      cases (offers bag).lookup key <;> rfl

/-- The claim on a key is its first offer. -/
theorem get?_claimed (e : Endpoint) (request : Request) (key : String) :
    (e.claimed request).get? key = e.supplied? request key := by
  unfold claimed
  rw [ByName.get?_foldl_insertNew, lookup_allOffers, ByName.get?_empty, Option.none_or]

/-- What is gathered under a key: what is supplied under it, read. -/
theorem get?_gather (e : Endpoint) (request : Request) (key : String) :
    (e.gather request).get? key = (e.supplied? request key).bind (e.readKey key) := by
  unfold gather
  rw [ByName.get?_filterMap, get?_claimed]

/-! ## The first holder decides -/

/-- **The first bag that holds a key decides what comes of it.** A declared key is read by its rule,
and stays away if it does not read; a key without a declaration is kept as it was supplied, one text
as that text and several as the list of them; a key that no bag holds stays away.

So nothing else about the bags matters: neither in which order or how often a bag lists its keys,
nor what is in bags that the endpoint does not look into. -/
theorem gather_by_first_holder (e : Endpoint) (request : Request) :
    (∀ key, (e.gather request).get? key =
      match e.holder? request key with
      | none => none
      | some bag =>
        match e.parameter? key, bag.get? key with
        | some p, supplied => supplied.bind p.rule.shape.read?
        | none, some (.single s) => some (.text s)
        | none, some (.many texts) => some (.list (texts.map .text))
        | none, none => none) ∧
    ∀ other : Request,
      (∀ name ∈ e.order, ∀ key, other.held? name key = request.held? name key) →
      e.gather other = e.gather request := by
  constructor
  · intro key
    rw [get?_gather]
    unfold supplied? readKey
    cases e.holder? request key with
    | none => rfl
    | some bag =>
      dsimp only [Option.bind_some]
      cases e.parameter? key with
      | some p => rfl
      | none =>
        cases bag.get? key with
        | none => rfl
        | some supplied => cases supplied <;> rfl
  · intro other same
    refine ByName.ext_get? fun key => ?_
    rw [get?_gather, get?_gather, supplied?_congr fun name member => same name member key]

/-- The body claims the number that the query could have supplied, although it does not read, but
not the key that it only lists. A bag that is asked for twice, one that is missing, a body that
lists its keys in another order and twice, and cookies that nobody asked for make no difference. -/
theorem gather_by_first_holder_sample :
    let declared (name : String) (shape : Shape) : String × Parameter := (name, ⟨{ shape }, {}⟩)
    let e : Endpoint :=
      ⟨none,
        [declared "id" ⟨.number, false⟩, declared "page" ⟨.integer, false⟩,
          declared "ratio" ⟨.number, false⟩, declared "tags" ⟨.text, true⟩,
          declared "on" ⟨.boolean, false⟩],
        ["body", "form", "body", "query"], "args", {}⟩
    let keys := ["id", "ghost", "page", "ratio", "tags", "on", "note", "sort"]
    let pairs : List (String × Supplied) :=
      [("id", .single "abc"), ("page", .single " 7 "), ("ratio", .many ["1.5", "x"]),
        ("tags", .single "a,,b"), ("on", .single "YES"), ("note", .single " as is "),
        ("sort", .many ["a", ""])]
    let query : Bag :=
      .ofPairs ["id", "ghost", "note"]
        [("id", .single "7"), ("ghost", .single "late"), ("note", .single "later")]
    let request : Request := .ofBags "POST" "/x" [("body", .ofPairs keys pairs), ("query", query)]
    let other : Request :=
      .ofBags "POST" "/x"
        [("cookies", query), ("query", query), ("body", .ofPairs (keys.reverse ++ keys) pairs)]
    (∀ name ∈ e.order, ∀ key, other.held? name key = request.held? name key) ∧
      e.gather other = e.gather request ∧
      (e.gather request).get? "id" = none ∧
      (e.gather request).get? "ghost" = some (.text "late") ∧
      (e.gather request).get? "page" = some (.number (.ofNat 7)) ∧
      (e.gather request).get? "ratio" = some (.list [.number (.ofRatio false 3 2)]) ∧
      (e.gather request).get? "tags" = some (.list [.text "a", .text "b"]) ∧
      (e.gather request).get? "on" = some (.boolean true) ∧
      (e.gather request).get? "note" = some (.text " as is ") ∧
      (e.gather request).get? "sort" = some (.list [.text "a", .text ""]) ∧
      (e.gather request).get? "nowhere" = none := by
  intro declared e keys pairs query request other
  have same : ∀ name ∈ e.order, ∀ key, other.held? name key = request.held? name key := by
    intro name member key
    have listed : key ∈ keys.reverse ++ keys ↔ key ∈ keys := by
      rw [List.mem_append, List.mem_reverse, or_self]
    have body : other.held? "body" key = request.held? "body" key := by
      show (if key ∈ keys.reverse ++ keys then pairs.lookup key else none)
        = if key ∈ keys then pairs.lookup key else none
      simp only [listed]
    rcases List.mem_cons.1 member with rfl | member
    · exact body
    rcases List.mem_cons.1 member with rfl | member
    · rfl
    rcases List.mem_cons.1 member with rfl | member
    · exact body
    · obtain rfl := List.mem_singleton.1 member
      rfl
  obtain ⟨found, congr⟩ := gather_by_first_holder e request
  exact ⟨same, congr other same, (found "id").trans (by decide +kernel), (found "ghost").trans rfl,
    (found "page").trans (by decide +kernel), (found "ratio").trans (by decide +kernel),
    (found "tags").trans rfl, (found "on").trans rfl, (found "note").trans rfl,
    (found "sort").trans rfl, (found "nowhere").trans rfl⟩

end Endpoint
end RequestParams
