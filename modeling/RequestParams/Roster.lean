import RequestParams.ByName

/-!
# Rosters

A roster is a list of named things in the order in which the names first came up. Naming something
again replaces it where it stands.

* `lookup_put`, `names_put`: what naming one thing does to every answer and to the names.
* `lookup_putAll`, `names_putAll`: the same for several things in turn. The last one with a name has
  it, and new names follow in the order in which they come up.
-/

set_option autoImplicit false

namespace RequestParams.Roster

variable {α : Type}

/-- Names something: in place of what has the name already, else at the end. -/
def put (name : String) (a : α) : List (String × α) → List (String × α)
  | [] => [(name, a)]
  | e :: rest => if e.1 = name then (name, a) :: rest else e :: put name a rest

/-- Names several things in turn. -/
def putAll (pairs : List (String × α)) (roster : List (String × α)) : List (String × α) :=
  pairs.foldl (fun roster pair => put pair.1 pair.2 roster) roster

theorem lookup_put (name other : String) (a : α) (roster : List (String × α)) :
    (put name a roster).lookup other = if other = name then some a else roster.lookup other := by
  induction roster with
  | nil => rw [put, ByName.lookup_cons_ite]
  | cons e rest ih =>
    obtain ⟨key, b⟩ := e
    rw [put]
    by_cases same : key = name
    · subst same
      by_cases h : other = key <;> simp [ByName.lookup_cons_ite, h]
    · by_cases h : other = key
      · subst h
        simp [same]
      · simp [ByName.lookup_cons_ite, same, ih, h]

/-- A new name goes to the end; a known one stays where it is. -/
theorem names_put (name : String) (a : α) (roster : List (String × α)) :
    (put name a roster).map Prod.fst
      = if name ∈ roster.map Prod.fst then roster.map Prod.fst
        else roster.map Prod.fst ++ [name] := by
  induction roster with
  | nil => simp [put]
  | cons e rest ih =>
    obtain ⟨key, b⟩ := e
    rw [put]
    by_cases hk : key = name
    · subst hk; simp
    · have hk' : ¬ name = key := fun h => hk h.symm
      by_cases hm : name ∈ rest.map Prod.fst
      · simp only [hk, if_false, List.map_cons, ih, hm, if_true, List.mem_cons, or_true]
      · simp only [hk, if_false, List.map_cons, ih, hm, List.mem_cons, hk', or_self,
          List.cons_append]

/-- Names stay distinct. -/
theorem nodup_put {name : String} {a : α} {roster : List (String × α)}
    (h : (roster.map Prod.fst).Nodup) : ((put name a roster).map Prod.fst).Nodup := by
  rw [names_put]
  split
  · exact h
  · rename_i absent
    rw [List.nodup_append]
    refine ⟨h, by simp, fun x hx y hy => ?_⟩
    rw [List.mem_singleton.1 hy]
    exact fun eq => absent (eq ▸ hx)

theorem put_of_fresh {name : String} (a : α) {roster : List (String × α)}
    (fresh : name ∉ roster.map Prod.fst) : put name a roster = roster ++ [(name, a)] := by
  induction roster with
  | nil => rfl
  | cons e rest ih =>
    rw [List.map_cons, List.mem_cons, not_or] at fresh
    rw [put, if_neg (Ne.symm fresh.1), ih fresh.2, List.cons_append]

theorem nodup_putAll (pairs : List (String × α)) {roster : List (String × α)}
    (distinct : (roster.map Prod.fst).Nodup) : ((putAll pairs roster).map Prod.fst).Nodup := by
  unfold putAll
  induction pairs generalizing roster with
  | nil => exact distinct
  | cons pair rest ih => exact ih (nodup_put distinct)

/-- The last of several things with one name has it. -/
theorem lookup_putAll (pairs roster : List (String × α)) (name : String) :
    (putAll pairs roster).lookup name = (pairs.reverse.lookup name).or (roster.lookup name) := by
  unfold putAll
  induction pairs generalizing roster with
  | nil => rfl
  | cons pair rest ih =>
    obtain ⟨key, a⟩ := pair
    rw [List.foldl_cons, ih, lookup_put, List.reverse_cons, List.lookup_append,
      ByName.lookup_cons_ite]
    by_cases same : name = key
    · simp [same]
    · simp [same]

/-- What is left of names without those known is left without one more. -/
theorem removeAll_concat (names known : List String) (name : String) :
    names.removeAll (known ++ [name]) = (names.removeAll known).filter (!· == name) := by
  unfold List.removeAll
  rw [List.filter_filter]
  refine List.filter_congr fun other _ => ?_
  have one : [name].contains other = (other == name) := Bool.or_false _
  rw [List.elem_eq_contains, List.elem_eq_contains, List.contains_append, one, Bool.not_or,
    Bool.and_comm]

/-- Names that are new follow in the order in which they first come up. -/
theorem names_putAll (pairs roster : List (String × α)) :
    (putAll pairs roster).map Prod.fst
      = roster.map Prod.fst
        ++ ((pairs.map Prod.fst).removeAll (roster.map Prod.fst)).eraseDups := by
  unfold putAll
  induction pairs generalizing roster with
  | nil => exact (List.append_nil _).symm
  | cons pair rest ih =>
    rw [List.foldl_cons, ih, names_put, List.map_cons, List.cons_removeAll]
    by_cases known : pair.1 ∈ roster.map Prod.fst
    · have there : (roster.map Prod.fst).contains pair.1 = true := List.contains_iff_mem.2 known
      rw [if_pos known, there]
      rfl
    · have absent : (roster.map Prod.fst).contains pair.1 = false :=
        Bool.eq_false_iff.2 (mt List.contains_iff_mem.1 known)
      rw [if_neg known, absent, if_pos rfl, List.eraseDups_cons, removeAll_concat,
        List.append_assoc]
      rfl

/-- Naming things by names of their own just adds them. -/
theorem putAll_of_distinct {pairs roster : List (String × α)}
    (distinct : ((roster ++ pairs).map Prod.fst).Nodup) :
    putAll pairs roster = roster ++ pairs := by
  unfold putAll
  induction pairs generalizing roster with
  | nil => exact (List.append_nil roster).symm
  | cons pair rest ih =>
    have split : roster ++ pair :: rest = (roster ++ [pair]) ++ rest := by simp
    rw [split] at distinct ⊢
    have fresh : pair.1 ∉ roster.map Prod.fst := by
      intro member
      rw [List.map_append, List.map_append, List.nodup_append] at distinct
      have apart := (List.nodup_append.1 distinct.1).2.2
      exact apart _ member _ (List.mem_singleton.2 rfl) rfl
    rw [List.foldl_cons, put_of_fresh pair.2 fresh]
    exact ih distinct

end RequestParams.Roster
