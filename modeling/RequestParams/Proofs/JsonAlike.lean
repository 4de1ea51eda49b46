import Mathlib.Data.List.Forall2
import RequestParams.Json.Record

/-!
# Records that are written alike

Two records may be read from the same text into different types. If their fields have the same names
in the same order, and each takes up the same text as its counterpart, then the records take up the
same text and fail with the same error (`Record.read_agree`). What the fields make of the text may
differ, as long as related records stay related (`Record.Mirrors`).
-/

set_option autoImplicit false

namespace RequestParams

/-! ## Steps that agree -/

section Steps

variable {ε α β γ δ : Type} {R : α → β → Prop} {S : γ → δ → Prop} {x x' : Except ε α}
  {y y' : Except ε β}

/-- Two steps both succeed, with related results, or fail with the same error. -/
inductive Agree (R : α → β → Prop) : Except ε α → Except ε β → Prop where
  | ok {a : α} {b : β} (related : R a b) : Agree R (.ok a) (.ok b)
  | error (e : ε) : Agree R (.error e) (.error e)

namespace Agree

theorem bind {next : α → Except ε γ} {next' : β → Except ε δ} (first : Agree R x y)
    (second : ∀ a b, R a b → Agree S (next a) (next' b)) :
    Agree S (x >>= next) (y >>= next') := by
  cases first with
  | ok related => exact second _ _ related
  | error e => exact .error e

/-- A step that both take. -/
theorem bind_same {next : α → Except ε γ} {next' : α → Except ε δ} (x : Except ε α)
    (second : ∀ a, Agree S (next a) (next' a)) : Agree S (x >>= next) (x >>= next') := by
  cases x with
  | ok a => exact second a
  | error e => exact .error e

theorem ite {c : Prop} [Decidable c] (holds : c → Agree R x y) (fails : ¬ c → Agree R x' y') :
    Agree R (if c then x else x') (if c then y else y') := by
  split
  · exact holds ‹c›
  · exact fails ‹¬ c›

theorem eq_map {f : α → β} (agree : Agree (fun a b => b = f a) x y) : y = f <$> x := by
  cases agree with
  | ok related => exact congrArg Except.ok related
  | error e => rfl

end Agree

end Steps

namespace Json

variable {ρ τ : Type} {R : ρ → τ → Prop}

/-- What two readers find is related, and they leave the same. -/
def Alike (R : ρ → τ → Prop) (x : ρ × List Char) (y : τ × List Char) : Prop :=
  R x.1 y.1 ∧ x.2 = y.2

theorem readElements_agree {ε : Type} {fault : Fault → ε} {close : Char}
    {element : ρ → List Char → Except ε (ρ × List Char)}
    {other : τ → List Char → Except ε (τ × List Char)}
    (each : ∀ s t cs, R s t → Agree (Alike R) (element s cs) (other t cs)) (fuel : Nat)
    (first : Bool) {s : ρ} {t : τ} (related : R s t) (cs : List Char) :
    Agree (Alike R) (readElements fault close element fuel first s cs)
      (readElements fault close other fuel first t cs) := by
  induction fuel generalizing first s t cs with
  | zero => exact .error _
  | succ fuel ih =>
    have turn : ∀ cs, Agree (Alike R)
        (element s cs >>= fun found =>
          readElements fault close element fuel false found.1 found.2)
        (other t cs >>= fun found =>
          readElements fault close other fuel false found.1 found.2) := by
      intro cs
      refine (each s t cs related).bind fun x y found => ?_
      rw [found.2]
      exact ih false found.1 y.2
    rw [readElements, readElements]
    split
    · exact .error _
    · refine .ite (fun _ => .ok ⟨related, rfl⟩) fun _ => .ite (fun _ => turn _) fun _ =>
        .ite (fun _ => ?_) fun _ => .error _
      split
      · exact .error _
      · exact .ite (fun _ => .error _) fun _ => turn _

theorem refuse_agree (expected : String) (cs : List Char) :
    Agree (Alike R) (refuse expected cs) (refuse expected cs) := by
  unfold refuse
  dsimp only
  split
  · exact .error _
  · -- Words, strings and numbers are read first, and brackets are refused as they are.
    refine .ite (fun null => ?_) fun _ => .ite (fun true => ?_) fun _ => .ite (fun false => ?_)
      fun _ => .ite (fun quote => ?_) fun _ => .ite (fun square => .error _) fun _ =>
      .ite (fun curly => .error _) fun _ => .ite (fun number => ?_) fun _ => .error _
    all_goals exact .bind_same _ fun _ => .error _

/-- Two fields of one name take up the same text, and change records in related ways. -/
structure Field.Mirrors (R : ρ → τ → Prop) (field : Field ρ) (other : Field τ) : Prop where
  name : field.name = other.name
  needed : field.needed = other.needed
  read : ∀ depth cs, Agree (Alike fun change change' => ∀ s t, R s t → R (change s) (change' t))
    (field.read depth cs) (other.read depth cs)

/-- Two records are written in the same way. -/
structure Record.Mirrors (R : ρ → τ → Prop) (record : Record ρ) (other : Record τ) : Prop where
  title : record.title = other.title
  blank : R record.blank other.blank
  fields : List.Forall₂ (Field.Mirrors R) record.fields other.fields

namespace Record

variable {record : Record ρ} {other : Record τ}

theorem find?_mirrors {fields : List (Field ρ)} {others : List (Field τ)}
    (same : List.Forall₂ (Field.Mirrors R) fields others) {p : Field ρ → Bool} {q : Field τ → Bool}
    (alike : ∀ field other, Field.Mirrors R field other → p field = q other) :
    (fields.find? p = none ∧ others.find? q = none) ∨
      ∃ field other, fields.find? p = some field ∧ others.find? q = some other ∧
        Field.Mirrors R field other := by
  induction same with
  | nil => exact .inl ⟨rfl, rfl⟩
  | @cons field other fields others here _ ih =>
    rw [List.find?_cons, List.find?_cons, alike field other here]
    cases q other with
    | true => exact .inr ⟨field, other, rfl, rfl, here⟩
    | false => exact ih

theorem findIdx?_mirrors {fields : List (Field ρ)} {others : List (Field τ)}
    (same : List.Forall₂ (Field.Mirrors R) fields others) :
    fields.findIdx? Field.needed = others.findIdx? Field.needed := by
  induction same with
  | nil => rfl
  | @cons field other fields others here _ ih =>
    rw [List.findIdx?_cons, List.findIdx?_cons, here.needed, ih]

/-- The fields that were given, and related records. -/
def Given (R : ρ → τ → Prop) (s : List String × ρ) (t : List String × τ) : Prop :=
  s.1 = t.1 ∧ R s.2 t.2

theorem readMember_unquoted {cs : List Char} (unquoted : ∀ rest, cs ≠ '"' :: rest) (depth : Nat)
    (state : List String × ρ) : record.readMember depth state cs = .error (.fault .malformed) := by
  unfold readMember
  split
  · exact absurd rfl (unquoted _)
  · rfl

theorem readMember_agree (same : record.Mirrors R other) (depth : Nat) (s : List String × ρ)
    (t : List String × τ) (cs : List Char) (related : Given R s t) :
    Agree (Alike (Given R)) (record.readMember depth s cs) (other.readMember depth t cs) := by
  obtain ⟨given, value⟩ := s
  obtain ⟨_, value'⟩ := t
  obtain ⟨rfl, related⟩ := related
  by_cases quoted : ∃ rest, cs = '"' :: rest
  · obtain ⟨rest, rfl⟩ := quoted
    unfold readMember
    refine .bind_same _ fun found => ?_
    obtain ⟨name, rest⟩ := found
    dsimp only
    rcases find?_mirrors same.fields (fun field other here => congrArg (· == name) here.name) with
      ⟨none, none'⟩ | ⟨field, field', some, some', here⟩
    · rw [none, none']
      exact .bind_same _ fun _ => .bind_same _ fun _ => .ok ⟨⟨rfl, related⟩, rfl⟩
    · rw [some, some']
      dsimp only
      refine .ite (fun _ => .error _) fun _ => .bind_same _ fun rest => ?_
      refine (here.read depth rest).bind fun x y found => .ok ⟨⟨rfl, found.1 _ _ related⟩, found.2⟩
  · have unquoted : ∀ rest, cs ≠ '"' :: rest := fun rest first => quoted ⟨rest, first⟩
    rw [readMember_unquoted unquoted, readMember_unquoted unquoted]
    exact .error _

theorem readPositions_agree (same : record.Mirrors R other) (depth : Nat)
    {fields : List (Field ρ)} {others : List (Field τ)}
    (left : List.Forall₂ (Field.Mirrors R) fields others) (position : Nat) {s : ρ} {t : τ}
    (related : R s t) (cs : List Char) :
    Agree (Alike R) (record.readPositions depth fields position s cs)
      (other.readPositions depth others position t cs) := by
  induction left generalizing position s t cs with
  | nil =>
    rw [readPositions, readPositions]
    split
    · exact .error _
    · exact .ite (fun _ => .ok ⟨related, rfl⟩) fun _ => .error _
  | @cons field other' fields others here left ih =>
    have turn : ∀ cs, Agree (Alike R)
        (field.read depth cs >>= fun found =>
          record.readPositions depth fields (position + 1) (found.1 s) found.2)
        (other'.read depth cs >>= fun found =>
          other.readPositions depth others (position + 1) (found.1 t) found.2) := by
      intro cs
      refine (here.read depth cs).bind fun x y found => ?_
      rw [found.2]
      exact ih (position + 1) (found.1 _ _ related) y.2
    rw [readPositions, readPositions]
    dsimp only
    split
    · exact .error _
    · refine .ite (fun _ => ?_) fun _ => .ite (fun _ => turn _) fun _ => .ite (fun _ => ?_) fun _ =>
        .error _
      · rw [findIdx?_mirrors (.cons here left), same.title, same.fields.length_eq]
        split
        · exact .error _
        · exact .ok ⟨related, rfl⟩
      · split
        · exact .error _
        · exact .ite (fun _ => .error _) fun _ => turn _

theorem readAt_agree (same : record.Mirrors R other) (depth : Nat) (cs : List Char) :
    Agree (Alike R) (record.readAt depth cs) (other.readAt depth cs) := by
  unfold readAt
  split
  · exact .error _
  · refine .ite (fun _ => ?_) fun _ => .ite (fun _ => ?_) fun _ => ?_
    · exact .ite (fun _ => .error _) fun _ => readPositions_agree same _ same.fields 0 same.blank _
    · refine .ite (fun _ => .error _) fun _ => ?_
      refine (readElements_agree (readMember_agree same _) _ true ⟨rfl, same.blank⟩ _).bind
        fun x y found => ?_
      obtain ⟨⟨given, value⟩, rest⟩ := x
      obtain ⟨⟨given', value'⟩, rest'⟩ := y
      obtain ⟨⟨sameGiven, related⟩, sameRest⟩ := found
      dsimp only at sameGiven related sameRest ⊢
      subst sameGiven sameRest
      have lacking : ∀ field other, Field.Mirrors R field other →
          (field.needed && !given.contains field.name)
            = (other.needed && !given.contains other.name) := by
        intro field other here
        rw [here.needed, here.name]
      rcases find?_mirrors same.fields lacking with
        ⟨none, none'⟩ | ⟨field, field', some, some', here⟩
      · rw [none, none']
        exact .ok ⟨related, rfl⟩
      · rw [some, some']
        dsimp only
        rw [here.name]
        exact .error _
    · rw [same.title]
      exact refuse_agree _ cs

/-- **Records that are written in the same way are read in the same way.** -/
theorem read_agree (same : record.Mirrors R other) (text : String) :
    Agree R (record.read text) (other.read text) := by
  refine (readAt_agree same maxDepth text.toList).bind fun x y found => ?_
  obtain ⟨value, rest⟩ := x
  obtain ⟨value', rest'⟩ := y
  obtain ⟨related, rfl⟩ := found
  dsimp only
  split
  · exact .ok related
  · exact .error _

end Record
end Json
end RequestParams
