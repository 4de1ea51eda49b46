/-!
# Things filed by name

Failures, values, attachments and endpoints are all filed under a name and reported in name order,
which is the order of code points. `ByName α` is such a file: its entries are strictly ascending, so
a name occurs once, and two files with the same answer for every name are equal
(`ByName.ext_get?`).

* `insert` replaces what is filed under a name, `insertNew` keeps it.
* `lookup_filterMap_eq_some`, `lookup_reverse_eq_some`: which entry of a list decides where several
  have one name, the first for which something is found or the last.
* `get?_insert`, `get?_insertNew`, `get?_foldl_insertNew`, `get?_filterMap`, `get?_ofList_eq_some`:
  what each operation does to every answer.
-/

set_option autoImplicit false

namespace RequestParams

/-- Entries in strictly ascending order of their names. -/
structure ByName (α : Type) where
  entries : List (String × α)
  ascending : entries.Pairwise fun a b => a.1 < b.1

namespace ByName

variable {α β : Type}

instance [DecidableEq α] : DecidableEq (ByName α) := fun a b =>
  decidable_of_iff (a.entries = b.entries)
    ⟨fun h => by cases a; cases b; cases h; rfl, fun h => by rw [h]⟩

/-! ## Entries in order -/

/-- Puts an entry in its place, replacing the one of the same name. -/
def place (name : String) (a : α) : List (String × α) → List (String × α)
  | [] => [(name, a)]
  | e :: rest =>
    if name < e.1 then (name, a) :: e :: rest
    else if name = e.1 then (name, a) :: rest
    else e :: place name a rest

theorem mem_place {name : String} {a : α} {e : String × α} {l : List (String × α)}
    (h : e ∈ place name a l) : e = (name, a) ∨ e ∈ l := by
  induction l with
  | nil => simpa [place] using h
  | cons head rest ih =>
    rw [place] at h
    split at h
    · simpa using h
    · split at h
      · rcases List.mem_cons.1 h with h | h
        · exact .inl h
        · exact .inr (List.mem_cons_of_mem _ h)
      · rcases List.mem_cons.1 h with h | h
        · exact .inr (h ▸ List.mem_cons_self)
        · exact (ih h).imp id (List.mem_cons_of_mem _)

theorem lt_of_not_lt_of_ne {a b : String} (notLt : ¬ a < b) (ne : a ≠ b) : b < a :=
  Classical.byContradiction fun notAbove =>
    ne (String.le_antisymm (String.not_lt.1 notAbove) (String.not_lt.1 notLt))

theorem ascending_place (name : String) (a : α) {l : List (String × α)}
    (h : l.Pairwise fun x y => x.1 < y.1) : (place name a l).Pairwise fun x y => x.1 < y.1 := by
  induction l with
  | nil => simp [place]
  | cons head rest ih =>
    have below := (List.pairwise_cons.1 h).1
    have tail := (List.pairwise_cons.1 h).2
    rw [place]
    split
    · rename_i lt
      refine List.pairwise_cons.2 ⟨fun e he => ?_, h⟩
      rcases List.mem_cons.1 he with rfl | he
      · exact lt
      · exact String.lt_trans lt (below e he)
    · split
      · rename_i eq
        exact List.pairwise_cons.2 ⟨fun e he => by
          show name < e.1
          rw [eq]
          exact below e he, tail⟩
      · rename_i notLt ne
        refine List.pairwise_cons.2 ⟨fun e he => ?_, ih tail⟩
        rcases mem_place he with rfl | he
        · exact lt_of_not_lt_of_ne notLt ne
        · exact below e he

/-! ## Files -/

def empty : ByName α := ⟨[], List.Pairwise.nil⟩

instance : Inhabited (ByName α) := ⟨empty⟩

def get? (d : ByName α) (name : String) : Option α := d.entries.lookup name

def contains (d : ByName α) (name : String) : Bool := (d.get? name).isSome

/-- Files under a name, in place of what was there. -/
def insert (d : ByName α) (name : String) (a : α) : ByName α :=
  ⟨place name a d.entries, ascending_place name a d.ascending⟩

/-- Files under a name unless something is there already. -/
def insertNew (d : ByName α) (name : String) (a : α) : ByName α :=
  if d.contains name then d else d.insert name a

def names (d : ByName α) : List String := d.entries.map Prod.fst

def size (d : ByName α) : Nat := d.entries.length

def isEmpty (d : ByName α) : Bool := d.entries.isEmpty

/-- Files every pair of a list in turn; of two with one name the later stays. -/
def ofList (pairs : List (String × α)) : ByName α :=
  pairs.foldl (fun d pair => d.insert pair.1 pair.2) empty

/-- Applies a function to everything filed and drops what it gives no answer for. -/
def filterMap (f : String → α → Option β) (d : ByName α) : ByName β where
  entries := d.entries.filterMap fun e => (f e.1 e.2).map fun b => (e.1, b)
  ascending := by
    refine List.Pairwise.filterMap _ (fun x y lt b hb c hc => ?_) d.ascending
    obtain ⟨_, _, rfl⟩ := Option.map_eq_some_iff.1 hb
    obtain ⟨_, _, rfl⟩ := Option.map_eq_some_iff.1 hc
    exact lt

def map (f : String → α → β) (d : ByName α) : ByName β :=
  d.filterMap fun name a => some (f name a)

/-! ## Looking up in a list -/

theorem lookup_cons_ite (key name : String) (a : α) (l : List (String × α)) :
    ((key, a) :: l).lookup name = if name = key then some a else l.lookup name := by
  rw [List.lookup_cons]
  by_cases eq : name = key
  · simp [eq]
  · have differs : (name == key) = false := by simpa using eq
    simp [differs, eq]

theorem lookup_place (name other : String) (a : α) (l : List (String × α)) :
    (place name a l).lookup other = if other = name then some a else l.lookup other := by
  induction l with
  | nil => rw [place, lookup_cons_ite]
  | cons head rest ih =>
    obtain ⟨key, x⟩ := head
    rw [place]
    split
    · rw [lookup_cons_ite]
    · split
      · rename_i same
        simp only at same
        subst same
        rw [lookup_cons_ite, lookup_cons_ite]
        by_cases eq : other = name <;> simp [eq]
      · rename_i ne
        rw [lookup_cons_ite, lookup_cons_ite, ih]
        by_cases eq : other = key
        · have apart : ¬ other = name := fun e => ne (e ▸ eq)
          simp [eq, eq ▸ apart]
        · simp [eq]

/-- Changing what is in the entries does not change what is filed under which name. -/
theorem lookup_map (f : α → β) (l : List (String × α)) (name : String) :
    (l.map fun e => (e.1, f e.2)).lookup name = (l.lookup name).map f := by
  induction l with
  | nil => rfl
  | cons head rest ih =>
    rw [List.map_cons, lookup_cons_ite, ih, lookup_cons_ite]
    split <;> rfl

/-! ## Looking up among distinct names -/

theorem lookup_eq_none_iff_not_mem {name : String} {l : List (String × α)} :
    l.lookup name = none ↔ name ∉ l.map Prod.fst := by
  induction l with
  | nil => simp
  | cons head rest ih =>
    rw [lookup_cons_ite, List.map_cons, List.mem_cons, not_or, ← ih]
    by_cases eq : name = head.1 <;> simp [eq]

theorem mem_of_lookup {l : List (String × α)} {name : String} {a : α}
    (found : l.lookup name = some a) : (name, a) ∈ l := by
  obtain ⟨before, after, rfl, -⟩ := List.lookup_eq_some_iff.1 found
  exact List.mem_append_right before List.mem_cons_self

theorem lookup_eq_some_iff_mem {l : List (String × α)} (distinct : (l.map Prod.fst).Nodup)
    {name : String} {a : α} : l.lookup name = some a ↔ (name, a) ∈ l := by
  induction l with
  | nil => simp
  | cons head rest ih =>
    obtain ⟨key, x⟩ := head
    obtain ⟨fresh, tail⟩ := List.nodup_cons.1 distinct
    rw [lookup_cons_ite, List.mem_cons, ← ih tail, Prod.mk.injEq]
    by_cases eq : name = key
    · subst eq
      simp [lookup_eq_none_iff_not_mem.2 fresh, eq_comm]
    · simp [eq]

/-- Among distinct names the order does not matter. -/
theorem lookup_perm {l k : List (String × α)} (distinct : (l.map Prod.fst).Nodup)
    (same : l.Perm k) (name : String) : l.lookup name = k.lookup name := by
  have distinct' : (k.map Prod.fst).Nodup := (same.map Prod.fst).nodup_iff.1 distinct
  refine Option.ext fun a => ?_
  rw [lookup_eq_some_iff_mem distinct, lookup_eq_some_iff_mem distinct', same.mem_iff]

/-- Dropping entries and changing what is in them does not mix up names. -/
theorem lookup_filterMap (f : String → α → Option β) {l : List (String × α)}
    (distinct : (l.map Prod.fst).Nodup) (name : String) :
    (l.filterMap fun e => (f e.1 e.2).map fun b => (e.1, b)).lookup name
      = (l.lookup name).bind (f name) := by
  induction l with
  | nil => rfl
  | cons head rest ih =>
    obtain ⟨key, x⟩ := head
    obtain ⟨fresh, tail⟩ := List.nodup_cons.1 distinct
    rw [lookup_cons_ite, List.filterMap_cons]
    by_cases eq : name = key
    · subst eq
      have gone := lookup_eq_none_iff_not_mem.2 fresh
      cases fx : f name x with
      | some b => simp [fx]
      | none => simp [fx, ih tail, gone]
    · cases fx : f key x with
      | none => simp [eq, ih tail]
      | some b => simp [eq, lookup_cons_ite, ih tail]

theorem lookup_filterMap_eq_findSome? (f : String → α → Option β) (l : List (String × α))
    (name : String) :
    (l.filterMap fun e => (f e.1 e.2).map fun b => (e.1, b)).lookup name
      = l.findSome? fun e => if e.1 = name then f name e.2 else none := by
  induction l with
  | nil => rfl
  | cons e rest ih =>
    obtain ⟨key, a⟩ := e
    rw [List.filterMap_cons, List.findSome?_cons, ← ih]
    by_cases same : key = name
    · subst same
      cases f key a <;> simp
    · cases f key a <;> simp [same, lookup_cons_ite, Ne.symm same]

/-- Of several entries with one name the first for which something is found decides. -/
theorem lookup_filterMap_eq_some (f : String → α → Option β) {l : List (String × α)}
    {name : String} {b : β} :
    (l.filterMap fun e => (f e.1 e.2).map fun b => (e.1, b)).lookup name = some b ↔
      ∃ before a after, l = before ++ (name, a) :: after ∧ f name a = some b ∧
        ∀ earlier ∈ before, earlier.1 = name → f name earlier.2 = none := by
  rw [lookup_filterMap_eq_findSome?, List.findSome?_eq_some_iff]
  constructor
  · rintro ⟨before, ⟨key, a⟩, after, split, found, nothing⟩
    obtain ⟨same, found⟩ := Option.ite_none_right_eq_some.1 found
    obtain rfl : key = name := same
    refine ⟨before, a, after, split, found, fun earlier member same => ?_⟩
    have none := nothing earlier member
    rwa [if_pos same] at none
  · rintro ⟨before, a, after, split, found, nothing⟩
    refine ⟨before, (name, a), after, split, (if_pos rfl).trans found, fun earlier member => ?_⟩
    split
    · rename_i same
      exact nothing earlier member same
    · rfl

/-- Read from its end, a list holds under a name what it holds there last. -/
theorem lookup_reverse_eq_some {l : List (String × α)} {name : String} {a : α} :
    l.reverse.lookup name = some a ↔
      ∃ before after, l = before ++ (name, a) :: after ∧ name ∉ after.map Prod.fst := by
  rw [List.lookup_eq_some_iff]
  constructor
  · rintro ⟨after, before, split, others⟩
    refine ⟨before.reverse, after.reverse, ?_, fun member => ?_⟩
    · rw [← l.reverse_reverse, split]
      simp
    · obtain ⟨later, listed, rfl⟩ := List.mem_map.1 member
      simpa using others later (List.mem_reverse.1 listed)
  · rintro ⟨before, after, rfl, last⟩
    refine ⟨after.reverse, before.reverse, by simp, fun later member => ?_⟩
    have differs : name ≠ later.1 := fun same =>
      last (List.mem_map.2 ⟨later, List.mem_reverse.1 member, same.symm⟩)
    simpa using differs

theorem nodup_of_ascending {l : List (String × α)} (h : l.Pairwise fun x y => x.1 < y.1) :
    (l.map Prod.fst).Nodup := by
  refine List.pairwise_map.2 (h.imp fun {x y} lt eq => ?_)
  rw [eq] at lt
  exact String.lt_irrefl y.1 lt

/-! ## What each operation does to every answer of a file -/

@[simp] theorem get?_empty (name : String) : (empty : ByName α).get? name = none := rfl

theorem contains_iff_mem_names (d : ByName α) (name : String) :
    d.contains name = true ↔ name ∈ d.names := by
  unfold contains get? names
  rw [Option.isSome_iff_ne_none, ne_eq, lookup_eq_none_iff_not_mem, Classical.not_not]

theorem get?_insert (d : ByName α) (name other : String) (a : α) :
    (d.insert name a).get? other = if other = name then some a else d.get? other :=
  lookup_place name other a d.entries

theorem get?_insertNew (d : ByName α) (name other : String) (a : α) :
    (d.insertNew name a).get? other =
      if other = name then some ((d.get? name).getD a) else d.get? other := by
  unfold insertNew contains
  cases h : d.get? name with
  | none => simp [get?_insert]
  | some b =>
    by_cases eq : other = name
    · subst eq; simp [h]
    · simp [eq]

/-- Filing pairs in turn, each unless its name is taken: what is there already stays, and of several
pairs with one name the first is filed. -/
theorem get?_foldl_insertNew (pairs : List (String × α)) (d : ByName α) (name : String) :
    (pairs.foldl (fun d pair => d.insertNew pair.1 pair.2) d).get? name
      = (d.get? name).or (pairs.lookup name) := by
  induction pairs generalizing d with
  | nil => simp
  | cons pair rest ih =>
    obtain ⟨key, a⟩ := pair
    rw [List.foldl_cons, ih, get?_insertNew, lookup_cons_ite]
    by_cases same : name = key
    · subst same
      cases d.get? name <;> simp
    · simp [same]

/-- Filing pairs in turn, each in place of what was there: of several pairs with one name the last
is filed. -/
theorem get?_foldl_insert (pairs : List (String × α)) (d : ByName α) (name : String) :
    (pairs.foldl (fun d pair => d.insert pair.1 pair.2) d).get? name
      = (pairs.reverse.lookup name).or (d.get? name) := by
  induction pairs generalizing d with
  | nil => rfl
  | cons pair rest ih =>
    obtain ⟨key, a⟩ := pair
    rw [List.foldl_cons, ih, get?_insert, List.reverse_cons, List.lookup_append, lookup_cons_ite]
    by_cases same : name = key
    · simp [same]
    · simp [same]

theorem get?_ofList_last (pairs : List (String × α)) (name : String) :
    (ofList pairs).get? name = pairs.reverse.lookup name := by
  unfold ofList
  rw [get?_foldl_insert, get?_empty, Option.or_none]

/-- Of several pairs with one name the last is filed. -/
theorem get?_ofList_eq_some {pairs : List (String × α)} {name : String} {a : α} :
    (ofList pairs).get? name = some a ↔
      ∃ before after, pairs = before ++ (name, a) :: after ∧ name ∉ after.map Prod.fst := by
  rw [get?_ofList_last, lookup_reverse_eq_some]

theorem get?_ofList {pairs : List (String × α)} (distinct : (pairs.map Prod.fst).Nodup)
    (name : String) : (ofList pairs).get? name = pairs.lookup name := by
  rw [get?_ofList_last, lookup_perm distinct pairs.reverse_perm.symm]

/-- Going through pairs and filing what is found for each: what is there already stays, and of
several pairs with one name the first for which something is found decides. -/
theorem get?_foldl_first {step : ByName β → String × α → ByName β} (f : String → α → Option β)
    (files : ∀ d e, step d e = ((f e.1 e.2).map (d.insertNew e.1)).getD d)
    (l : List (String × α)) (d : ByName β) (name : String) :
    (l.foldl step d).get? name
      = (d.get? name).or
        ((l.filterMap fun e => (f e.1 e.2).map fun b => (e.1, b)).lookup name) := by
  have walk : l.foldl step d
      = (l.filterMap fun e => (f e.1 e.2).map fun b => (e.1, b)).foldl
        (fun d pair => d.insertNew pair.1 pair.2) d := by
    rw [List.foldl_filterMap]
    congr
    funext d e
    rw [files]
    cases f e.1 e.2 <;> rfl
  rw [walk, get?_foldl_insertNew]

/-- Among distinct names no name has a bearing on another. -/
theorem get?_foldl_found {step : ByName β → String × α → ByName β} (f : String → α → Option β)
    (files : ∀ d e, step d e = ((f e.1 e.2).map (d.insertNew e.1)).getD d)
    {l : List (String × α)} (distinct : (l.map Prod.fst).Nodup) (d : ByName β) (name : String) :
    (l.foldl step d).get? name = (d.get? name).or ((l.lookup name).bind (f name)) := by
  rw [get?_foldl_first f files, lookup_filterMap f distinct]

theorem get?_filterMap (f : String → α → Option β) (d : ByName α) (name : String) :
    (d.filterMap f).get? name = (d.get? name).bind (f name) :=
  lookup_filterMap f (nodup_of_ascending d.ascending) name

theorem get?_map (f : String → α → β) (d : ByName α) (name : String) :
    (d.map f).get? name = (d.get? name).map (f name) := by
  rw [map, get?_filterMap]
  cases d.get? name <;> rfl

/-! ## Equal answers, equal files -/

theorem mem_entries_iff (d : ByName α) (name : String) (a : α) :
    (name, a) ∈ d.entries ↔ d.get? name = some a :=
  (lookup_eq_some_iff_mem (nodup_of_ascending d.ascending)).symm

theorem isEmpty_iff (d : ByName α) : d.isEmpty = true ↔ ∀ name, d.get? name = none := by
  unfold isEmpty
  constructor
  · intro h name
    unfold get?
    rw [List.isEmpty_iff.1 h]
    rfl
  · intro none
    refine List.isEmpty_iff.2 (List.eq_nil_iff_forall_not_mem.2 fun e member => ?_)
    have filed := (mem_entries_iff d e.1 e.2).1 member
    rw [none e.1] at filed
    cases filed

theorem isEmpty_insert (d : ByName α) (name : String) (a : α) :
    (d.insert name a).isEmpty = false := by
  refine Bool.eq_false_iff.2 fun empty => ?_
  have gone := (isEmpty_iff _).1 empty name
  rw [get?_insert, if_pos rfl] at gone
  cases gone

/-- Two files with the same answer for every name are equal. -/
theorem ext_get? {d e : ByName α} (same : ∀ name, d.get? name = e.get? name) : d = e := by
  have members : ∀ p, p ∈ d.entries ↔ p ∈ e.entries := fun ⟨name, a⟩ => by
    rw [mem_entries_iff, mem_entries_iff, same name]
  obtain ⟨l, hl⟩ := d
  obtain ⟨k, hk⟩ := e
  simp only at members
  have eq : l = k := by
    clear same
    induction l generalizing k with
    | nil =>
      cases k with
      | nil => rfl
      | cons head rest => simpa using members head
    | cons head rest ih =>
      cases k with
      | nil => simpa using members head
      | cons head' rest' =>
        have below := (List.pairwise_cons.1 hl).1
        have below' := (List.pairwise_cons.1 hk).1
        have heads : head = head' := by
          rcases List.mem_cons.1 ((members head).1 List.mem_cons_self) with h | h
          · exact h
          · rcases List.mem_cons.1 ((members head').2 List.mem_cons_self) with h' | h'
            · exact h'.symm
            · exact absurd (below' _ h) (String.lt_asymm (below _ h'))
        subst heads
        rw [ih (List.pairwise_cons.1 hl).2 rest' (List.pairwise_cons.1 hk).2 fun p => ?_]
        have differs : ∀ q : String × α, q ∈ rest → q ≠ head := fun q hq eq =>
          String.lt_irrefl q.1 (eq ▸ below q hq)
        have differs' : ∀ q : String × α, q ∈ rest' → q ≠ head := fun q hq eq =>
          String.lt_irrefl q.1 (eq ▸ below' q hq)
        constructor
        · intro hp
          rcases List.mem_cons.1 ((members p).1 (List.mem_cons_of_mem _ hp)) with h | h
          · exact absurd h (differs p hp)
          · exact h
        · intro hp
          rcases List.mem_cons.1 ((members p).2 (List.mem_cons_of_mem _ hp)) with h | h
          · exact absurd h (differs' p hp)
          · exact h
  subst eq
  rfl

theorem names_map (f : String → α → β) (d : ByName α) : (d.map f).names = d.names := by
  unfold names map filterMap
  simp

/-- Two files with something under the same names list the same names. -/
theorem names_eq_of_contains {d : ByName α} {e : ByName β}
    (same : ∀ name, d.contains name = e.contains name) : d.names = e.names := by
  have blank : d.map (fun _ _ => ()) = e.map (fun _ _ => ()) := by
    refine ext_get? fun name => ?_
    have both : (d.get? name).isSome = (e.get? name).isSome := same name
    rw [get?_map, get?_map]
    cases here : d.get? name <;> cases there : e.get? name <;> simp_all
  rw [← names_map (fun _ _ => ()) d, blank, names_map]

end ByName
end RequestParams
