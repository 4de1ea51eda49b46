import RequestParams.Proofs.Compiling

/-!
# Blueprints from the members of an object

The members of a JSON object are taken over one after the other, each into the field of its name, so
that the last member of a name counts (`ofMembers_foundIn`). Where names are distinct the order does
not matter: what the blueprint becomes depends only on which value is found under which name
(`FoundIn`), and `ofMembers_eq_ok` is the statement.

It goes from one member (`TakesOver`, all that a member can do) to all of them, for one field at a
time (`ofMembers_field`).
-/

set_option autoImplicit false

namespace RequestParams.Blueprint

/-! ## One member -/

/-- The names of the fields. -/
def names : List String := record.fields.map Json.Field.name

/-- What taking over a member does to a blueprint. A member that is no field does nothing. -/
inductive TakesOver (b : Blueprint) (name : String) (value : Json) : Blueprint → Prop where
  | type {token : String} (named : name = "type") (reads : value = .string token) :
      TakesOver b name value { b with token := token }
  | default (named : name = "default") :
      TakesOver b name value { b with default := optionalJson value }
  | required (named : name = "required") :
      TakesOver b name value { b with required := optionalJson value }
  | list (named : name = "array") : TakesOver b name value { b with list := optionalJson value }
  | least {bound : Option Binary64} (named : name = "min")
      (reads : optionalReal value = .ok bound) : TakesOver b name value { b with least := bound }
  | greatest {bound : Option Binary64} (named : name = "max")
      (reads : optionalReal value = .ok bound) : TakesOver b name value { b with greatest := bound }
  | description {text : Option String} (named : name = "description")
      (reads : optionalText value = .ok text) :
      TakesOver b name value { b with description := text }
  | unknown (apart : name ∉ names) : TakesOver b name value b

theorem withMember_takesOver {b b' : Blueprint} {name : String} {value : Json}
    (h : b.withMember name value = .ok b') : b.TakesOver name value b' := by
  unfold withMember at h
  split at h
  · rename_i named
    split at h
    · cases h
      exact .type named rfl
    · cases h
  split at h
  · rename_i named
    cases h
    exact .default named
  split at h
  · rename_i named
    cases h
    exact .required named
  split at h
  · rename_i named
    cases h
    exact .list named
  split at h
  · rename_i named
    obtain ⟨bound, reads, h⟩ := bind_eq_ok.1 h
    cases h
    exact .least named reads
  split at h
  · rename_i named
    obtain ⟨bound, reads, h⟩ := bind_eq_ok.1 h
    cases h
    exact .greatest named reads
  split at h
  · rename_i named
    obtain ⟨text, reads, h⟩ := bind_eq_ok.1 h
    cases h
    exact .description named reads
  · cases h
    refine .unknown ?_
    simp only [names, record, List.map_cons, List.map_nil, List.mem_cons, List.not_mem_nil]
    grind

/-! ## All members -/

/-- What a field holds: what is accepted from the value found for it, or else what it held. -/
def Held {β : Type} (accept : Json → β → Prop) (before : β) (found : Option Json) (after : β) :
    Prop :=
  match found with
  | some value => accept value after
  | none => after = before

/-- A field that only the members of one name have a bearing on: the last of them decides what it
holds. -/
theorem ofMembers_field {β : Type} (field : Blueprint → β) (key : String) {accept : Json → β → Prop}
    (own : ∀ {b b' value}, TakesOver b key value b' → accept value (field b'))
    (other : ∀ {b b' name value}, name ≠ key → TakesOver b name value b' → field b' = field b)
    {members : List (String × Json)} {b : Blueprint} (h : ofMembers members = .ok b) :
    Held accept (field record.blank) (members.reverse.lookup key) (field b) := by
  unfold ofMembers at h
  generalize record.blank = before at h ⊢
  induction members generalizing before with
  | nil =>
    cases h
    exact rfl
  | cons member others ih =>
    obtain ⟨name, value⟩ := member
    obtain ⟨next, step, h⟩ := bind_eq_ok.1 h
    have rest := ih next h
    have step := withMember_takesOver step
    rw [List.reverse_cons, List.lookup_append]
    cases later : others.reverse.lookup key with
    | some last =>
      rw [later] at rest
      exact rest
    | none =>
      -- No later member has the name, so the field stays as this one has left it.
      rw [later] at rest
      have kept : field b = field next := rest
      rw [Option.none_or, ByName.lookup_cons_ite]
      by_cases same : key = name
      · subst same
        rw [if_pos rfl]
        show accept value (field b)
        rw [kept]
        exact own step
      · rw [if_neg same]
        exact kept.trans (other (Ne.symm same) step)

/-- The blueprint that stands under names. -/
structure FoundIn (find : String → Option Json) (b : Blueprint) : Prop where
  token : Held (fun value a => value = .string a) "" (find "type") b.token
  default : Held (fun value a => a = optionalJson value) none (find "default") b.default
  required : Held (fun value a => a = optionalJson value) none (find "required") b.required
  list : Held (fun value a => a = optionalJson value) none (find "array") b.list
  least : Held (fun value a => optionalReal value = .ok a) none (find "min") b.least
  greatest : Held (fun value a => optionalReal value = .ok a) none (find "max") b.greatest
  description : Held (fun value a => optionalText value = .ok a) none (find "description")
    b.description
  callbacks : b.callbacks = {}

/-- What members become stands under their names, and the last member of a name counts. -/
theorem ofMembers_foundIn {members : List (String × Json)} {b : Blueprint}
    (h : ofMembers members = .ok b) : b.FoundIn fun name => members.reverse.lookup name := by
  -- Field by field: the member of its name decides it, and a member of another name is no matter.
  refine ⟨ofMembers_field token "type" (fun step => ?_) (fun apart step => ?_) h,
    ofMembers_field default "default" (fun step => ?_) (fun apart step => ?_) h,
    ofMembers_field required "required" (fun step => ?_) (fun apart step => ?_) h,
    ofMembers_field list "array" (fun step => ?_) (fun apart step => ?_) h,
    ofMembers_field least "min" (fun step => ?_) (fun apart step => ?_) h,
    ofMembers_field greatest "max" (fun step => ?_) (fun apart step => ?_) h,
    ofMembers_field description "description" (fun step => ?_) (fun apart step => ?_) h,
    Declaration.ofMembers_callbacks h⟩
  all_goals cases step <;> simp_all [names, record]

theorem Held.unique {β : Type} {accept : Json → β → Prop} {before a a' : β} {found : Option Json}
    (only : ∀ value a a', accept value a → accept value a' → a = a')
    (h : Held accept before found a) (h' : Held accept before found a') : a = a' := by
  cases found with
  | none =>
    have h : a = before := h
    have h' : a' = before := h'
    rw [h, h']
  | some value => exact only value a a' h h'

theorem FoundIn.unique {find : String → Option Json} {b b' : Blueprint} (h : b.FoundIn find)
    (h' : b'.FoundIn find) : b = b' := by
  have reads : ∀ {α : Type} {read : Json → Except Json.Mismatch α} (value : Json) (a a' : α),
      read value = .ok a → read value = .ok a' → a = a' := by
    intro α read value a a' h h'
    rw [h] at h'
    cases h'
    rfl
  have token : b.token = b'.token := by
    refine h.token.unique (fun value a a' h h' => ?_) h'.token
    rw [h] at h'
    cases h'
    rfl
  have default := h.default.unique (fun value a a' h h' => h.trans h'.symm) h'.default
  have required := h.required.unique (fun value a a' h h' => h.trans h'.symm) h'.required
  have list := h.list.unique (fun value a a' h h' => h.trans h'.symm) h'.list
  have least := h.least.unique reads h'.least
  have greatest := h.greatest.unique reads h'.greatest
  have description := h.description.unique reads h'.description
  have callbacks := h.callbacks.trans h'.callbacks.symm
  cases b
  cases b'
  simp_all

theorem withMember_ok (b : Blueprint) {name : String} {value : Json}
    (token : name = "type" → ∃ token, value = .string token)
    (bound : name = "min" ∨ name = "max" → ∃ bound, optionalReal value = .ok bound)
    (text : name = "description" → ∃ text, optionalText value = .ok text) :
    ∃ b', b.withMember name value = .ok b' := by
  unfold withMember
  split
  · rename_i named
    obtain ⟨token, rfl⟩ := token named
    exact ⟨_, rfl⟩
  iterate 3
    split
    · exact ⟨_, rfl⟩
  iterate 2
    split
    · rename_i named
      obtain ⟨bound, reads⟩ := bound (by simp [named])
      rw [reads]
      exact ⟨_, rfl⟩
  split
  · rename_i named
    obtain ⟨text, reads⟩ := text named
    rw [reads]
    exact ⟨_, rfl⟩
  · exact ⟨_, rfl⟩

theorem foldlM_ok {members : List (String × Json)}
    (each : ∀ member ∈ members, ∀ b : Blueprint, ∃ b', b.withMember member.1 member.2 = .ok b')
    (b : Blueprint) :
    ∃ b', members.foldlM (fun b member => b.withMember member.1 member.2) b = .ok b' := by
  induction members generalizing b with
  | nil => exact ⟨b, rfl⟩
  | cons member others ih =>
    obtain ⟨next, step⟩ := each member List.mem_cons_self b
    obtain ⟨last, rest⟩ :=
      ih (fun other known => each other (List.mem_cons_of_mem member known)) next
    exact ⟨last, bind_eq_ok.2 ⟨next, step, rest⟩⟩

/-- **A blueprint in writing is the one that stands under its names**, in whatever order. -/
theorem ofMembers_eq_ok {members : List (String × Json)} (distinct : (members.map Prod.fst).Nodup)
    {b : Blueprint} :
    ofMembers members = .ok b ↔ b.FoundIn fun name => members.lookup name := by
  have any : (fun name => members.reverse.lookup name) = fun name => members.lookup name :=
    funext fun name => (ByName.lookup_perm distinct members.reverse_perm.symm name).symm
  constructor
  · intro h
    rw [← any]
    exact ofMembers_foundIn h
  · intro found
    have each : ∀ member ∈ members, ∀ b : Blueprint,
        ∃ b', b.withMember member.1 member.2 = .ok b' := by
      rintro ⟨name, value⟩ member start
      have filed := (ByName.lookup_eq_some_iff_mem distinct).2 member
      refine start.withMember_ok ?_ ?_ ?_
      · rintro rfl
        have reads := found.token
        rw [filed] at reads
        exact ⟨_, reads⟩
      · rintro (rfl | rfl)
        · have reads := found.least
          rw [filed] at reads
          exact ⟨_, reads⟩
        · have reads := found.greatest
          rw [filed] at reads
          exact ⟨_, reads⟩
      · rintro rfl
        have reads := found.description
        rw [filed] at reads
        exact ⟨_, reads⟩
    obtain ⟨b', all⟩ := foldlM_ok each record.blank
    rw [← any] at found
    rw [found.unique (ofMembers_foundIn all)]
    exact all

end RequestParams.Blueprint
