import RequestParams.Proofs.QueryText
import RequestParams.Request.Bag

/-!
# What a form has after a history

A form is read from a query and then edited: texts are added under keys, or put in place of what is
there. Reading a query is itself a series of additions, so that a form is the outcome of one history
of edits (`editAll_ofQuery`). Which texts count under a key at its end is said without running it
(`Edit.Standing`). What one edit does to each key (`under_edit`) gives what a history leaves there
(`under_of_standing`); and since no edit leaves a key without a text (`Filled`), the bag of a form
answers with one text or with two and more (`form_keeps`).
-/

set_option autoImplicit false

namespace RequestParams.Form

/-! ## Histories -/

/-- What may be done to a form. -/
inductive Edit where
  | add (key text : String)
  | set (key text : String)

namespace Edit

def key : Edit → String
  | add key _ => key
  | set key _ => key

/-- The text that is added under a key, if one is. -/
def added? (key : String) : Edit → Option String
  | add other text => if other = key then some text else none
  | set _ _ => none

/-- The texts that are added under a key, in order. -/
def added (key : String) (edits : List Edit) : List String := edits.filterMap (added? key)

/-- The texts that count under a key at the end of a history: all that were added, or, if the key
was ever set, the text that it was set to last and what was added since. -/
inductive Standing (key : String) : List Edit → List String → Prop where
  | added {history : List Edit} (unset : ∀ text, set key text ∉ history) :
      Standing key history (added key history)
  | set {before after : List Edit} {text : String} (last : ∀ later, set key later ∉ after) :
      Standing key (before ++ set key text :: after) (text :: Edit.added key after)

/-- What an edit makes of the texts under its key. -/
def apply : Edit → List String → List String
  | add _ text, texts => texts ++ [text]
  | set _ text, _ => [text]

theorem apply_ne_nil (e : Edit) (texts : List String) : e.apply texts ≠ [] := by
  cases e with
  | add key text => exact List.append_ne_nil_of_right_ne_nil texts (List.cons_ne_nil text [])
  | set key text => exact List.cons_ne_nil text []

theorem added?_of_ne {key : String} {e : Edit} (other : e.key ≠ key) : e.added? key = none := by
  cases e with
  | add _ text => exact if_neg other
  | set _ text => rfl

/-- There is always something that counts, be it nothing. -/
theorem exists_standing (key : String) (history : List Edit) :
    ∃ texts, Standing key history texts := by
  induction history with
  | nil => exact ⟨_, .added fun text => List.not_mem_nil⟩
  | cons e history ih =>
    obtain ⟨texts, standing⟩ := ih
    cases standing with
    | @set before after text last => exact ⟨_, @Standing.set key (e :: before) after text last⟩
    | added unset =>
      by_cases setHere : ∃ text, e = set key text
      · obtain ⟨text, rfl⟩ := setHere
        exact ⟨_, @Standing.set key [] history text unset⟩
      · refine ⟨_, .added fun text member => ?_⟩
        rcases List.mem_cons.1 member with rfl | member
        · exact setHere ⟨text, rfl⟩
        · exact unset text member

end Edit

def edit (form : Form) : Edit → Form
  | .add key text => form.add key text
  | .set key text => form.set key text

def editAll (form : Form) (edits : List Edit) : Form := edits.foldl edit form

/-- Everything that was done to a form that was read from a query and then edited. -/
def history (query : String) (edits : List Edit) : List Edit :=
  (Query.decode query).map (fun pair => .add pair.1 pair.2) ++ edits

theorem editAll_ofQuery (query : String) (edits : List Edit) :
    (ofQuery query).editAll edits = empty.editAll (history query edits) := by
  unfold history editAll ofQuery addAll
  rw [List.foldl_append, List.foldl_map]
  rfl

/-! ## One edit -/

variable {form : Form} {key : String}

/-- The texts under a key, none if the form does not have it. -/
def under (form : Form) (key : String) : List String := (form.texts.get? key).getD []

/-- An edit files under its key what it makes of the texts there, and nothing else. -/
theorem get?_edit (form : Form) (e : Edit) (key : String) :
    (form.edit e).texts.get? key
      = if key = e.key then some (e.apply (form.under e.key)) else form.texts.get? key := by
  cases e <;> exact ByName.get?_insert _ _ _ _

theorem under_edit (form : Form) (e : Edit) (key : String) :
    (form.edit e).under key
      = if key = e.key then e.apply (form.under e.key) else form.under key := by
  unfold under
  rw [get?_edit]
  split <;> rfl

theorem contains_edit (form : Form) (e : Edit) (key : String) :
    (form.edit e).contains key = true ↔ form.contains key = true ∨ e.key = key := by
  unfold contains ByName.contains
  rw [get?_edit]
  by_cases here : key = e.key
  · simp [here]
  · simp [here, Ne.symm here]

/-- No key stands without a text. -/
def Filled (form : Form) : Prop := ∀ key, form.texts.get? key ≠ some []

theorem Filled.edit (filled : form.Filled) (e : Edit) : (form.edit e).Filled := by
  intro key
  rw [get?_edit]
  split
  · exact fun none => e.apply_ne_nil _ (Option.some.inj none)
  · exact filled key

/-! ## All edits -/

theorem filled_editAll (filled : form.Filled) (edits : List Edit) :
    (form.editAll edits).Filled := by
  induction edits generalizing form with
  | nil => exact filled
  | cons e edits ih => exact ih (filled.edit e)

theorem contains_editAll (edits : List Edit) :
    (form.editAll edits).contains key = true ↔
      form.contains key = true ∨ ∃ e ∈ edits, e.key = key := by
  induction edits generalizing form with
  | nil => simp [editAll]
  | cons e edits ih =>
    show ((form.edit e).editAll edits).contains key = true ↔ _
    rw [ih, contains_edit]
    simp [or_assoc]

/-- As long as a key is not set, texts are added behind those that it has. -/
theorem under_editAll {edits : List Edit} (unset : ∀ text, .set key text ∉ edits) :
    (form.editAll edits).under key = form.under key ++ Edit.added key edits := by
  induction edits generalizing form with
  | nil => exact (List.append_nil _).symm
  | cons e edits ih =>
    have later : ∀ text, .set key text ∉ edits := fun text member => unset text (.tail e member)
    show ((form.edit e).editAll edits).under key = _
    rw [ih later, under_edit]
    unfold Edit.added
    rw [List.filterMap_cons]
    by_cases here : key = e.key
    · subst here
      cases e with
      | set key text => exact absurd List.mem_cons_self (unset text)
      | add key text => simp [Edit.apply, Edit.added?, Edit.key]
    · rw [if_neg here, Edit.added?_of_ne (Ne.symm here)]

theorem under_of_standing {edits : List Edit} {texts : List String}
    (standing : Edit.Standing key edits texts) : (empty.editAll edits).under key = texts := by
  cases standing with
  | added unset => exact under_editAll unset
  | @set before after text last =>
    have here : ((empty.editAll before).edit (.set key text)).under key = [text] := by
      rw [under_edit]
      exact if_pos rfl
    unfold editAll
    rw [List.foldl_append, List.foldl_cons]
    exact (under_editAll last).trans (congrArg (· ++ _) here)

/-! ## What the bag of a form answers -/

/-- Without keys that stand alone, a form is what it has under each key. -/
theorem Filled.get?_texts (filled : form.Filled) (key : String) :
    form.texts.get? key = if form.under key = [] then none else some (form.under key) := by
  unfold under
  cases held : form.texts.get? key with
  | none => rfl
  | some texts =>
    have some : texts ≠ [] := fun none => filled key (held.trans (congrArg _ none))
    exact (if_neg some).symm

theorem Filled.get?_bag (filled : form.Filled) (key : String) :
    form.bag.get? key
      = if form.under key = [] then none else some (Supplied.ofTexts (form.under key)) := by
  show (form.texts.get? key).map Supplied.ofTexts = _
  rw [filled.get?_texts]
  split <;> rfl

theorem mem_keys_bag : key ∈ form.bag.keys ↔ form.contains key = true :=
  (ByName.contains_iff_mem_names form.texts key).symm

theorem Filled.mem_keys (filled : form.Filled) : key ∈ form.bag.keys ↔ form.under key ≠ [] := by
  rw [mem_keys_bag]
  unfold contains ByName.contains
  rw [filled.get?_texts]
  by_cases none : form.under key = [] <;> simp [none]

theorem ofTexts_of_several {texts : List String} (several : 2 ≤ texts.length) :
    Supplied.ofTexts texts = .many texts := by
  rcases texts with _ | ⟨first, _ | ⟨second, others⟩⟩
  · rfl
  · exact absurd several (by simp)
  · rfl

/-- What is answered as a list has two texts at least. -/
theorem Filled.two_le_length (filled : form.Filled) {texts : List String}
    (answer : form.bag.get? key = some (.many texts)) : 2 ≤ texts.length := by
  rw [filled.get?_bag] at answer
  obtain ⟨some, answer⟩ := Option.ite_none_left_eq_some.1 answer
  generalize form.under key = held at some answer
  rcases held with _ | ⟨first, _ | ⟨second, others⟩⟩
  · exact absurd rfl some
  · cases answer
  · cases answer
    exact Nat.le_add_left 2 others.length

/-- **A form keeps what it is given.** Pairs that are written as query text, with question marks in
front or without, are read as a form to which the pairs were added in order. And whatever query a
form was read from and whatever was added and set since, it lists every key of its history once and
no other; and under a key it has the texts that count since the key was last set: one as a single
text, several as a list in the order of their arrival. -/
theorem form_keeps :
    (∀ (marks : Nat) (pairs : List (String × String)),
      ofQuery (String.ofList (List.replicate marks '?') ++ Query.encode pairs)
        = empty.addAll pairs) ∧
    ∀ (query : String) (edits : List Edit),
      let history := history query edits
      let form := (ofQuery query).editAll edits
      form.bag.keys.Nodup ∧ form.size = form.bag.keys.length ∧
      ∀ key, (key ∈ form.bag.keys ↔ ∃ e ∈ history, e.key = key) ∧
        (key ∉ form.bag.keys → form.bag.get? key = none) ∧
        (∃ texts, Edit.Standing key history texts ∧ (key ∈ form.bag.keys ↔ texts ≠ [])) ∧
        (∀ text, Edit.Standing key history [text] → form.bag.get? key = some (.single text)) ∧
        (∀ texts, Edit.Standing key history texts → 2 ≤ texts.length →
          form.bag.get? key = some (.many texts)) ∧
        ∀ texts, form.bag.get? key = some (.many texts) → 2 ≤ texts.length := by
  refine ⟨fun marks pairs => ?_, fun query edits => ?_⟩
  · unfold ofQuery
    rw [Query.decode_encode]
  intro history form
  have whole : form = empty.editAll history := editAll_ofQuery query edits
  have filled : form.Filled := by
    rw [whole]
    exact filled_editAll (fun key => Option.some_ne_none [] ∘ Eq.symm) history
  have names : form.bag.keys.Nodup := ByName.nodup_of_ascending form.texts.ascending
  refine ⟨names, (List.length_map Prod.fst).symm, fun key => ⟨?_, ?_, ?_, ?_, ?_, ?_⟩⟩
  · rw [mem_keys_bag, whole, contains_editAll]
    simp [contains, empty, ByName.contains]
  · intro absent
    rw [filled.get?_bag]
    exact if_pos (Classical.not_not.1 (mt filled.mem_keys.2 absent))
  · obtain ⟨texts, standing⟩ := Edit.exists_standing key history
    refine ⟨texts, standing, ?_⟩
    rw [filled.mem_keys, whole, under_of_standing standing]
  · intro text standing
    rw [filled.get?_bag, whole, under_of_standing standing]
    rfl
  · intro texts standing several
    have some : texts ≠ [] := List.ne_nil_of_length_pos (Nat.lt_of_succ_lt several)
    rw [filled.get?_bag, whole, under_of_standing standing, if_neg some,
      ofTexts_of_several several]
  · exact fun texts => filled.two_le_length

/-- A key that comes up twice in a query and is set after that, one with a letter beyond ASCII and a
space under it, and one that is added without a text. -/
theorem form_keeps_sample :
    let query := "??a=1&%C3%BC=x+y&a=2"
    let edits : List Edit := [.set "a" "3", .add "a" "4", .add "b" ""]
    let form := (ofQuery query).editAll edits
    ofQuery query = empty.addAll [("a", "1"), ("ü", "x y"), ("a", "2")] ∧
      Edit.Standing "a" (history query edits) ["3", "4"] ∧
      form.bag.get? "a" = some (.many ["3", "4"]) ∧
      Edit.Standing "ü" (history query edits) ["x y"] ∧
      form.bag.get? "ü" = some (.single "x y") ∧
      form.bag.get? "b" = some (.single "") ∧ form.bag.get? "c" = none := by
  intro query edits form
  have written : query = String.ofList (List.replicate 2 '?')
      ++ Query.encode [("a", "1"), ("ü", "x y"), ("a", "2")] := by
    decide
  have decoded : Query.decode query = [("a", "1"), ("ü", "x y"), ("a", "2")] := by
    rw [written, Query.decode_encode]
  have past : history query edits
      = [.add "a" "1", .add "ü" "x y", .add "a" "2", .set "a" "3", .add "a" "4", .add "b" ""] := by
    unfold history
    rw [decoded]
    rfl
  have a : Edit.Standing "a" (history query edits) ["3", "4"] := by
    have last : ∀ later, Edit.set "a" later ∉ [Edit.add "a" "4", .add "b" ""] := by simp
    rw [past]
    exact @Edit.Standing.set "a" [.add "a" "1", .add "ü" "x y", .add "a" "2"] _ "3" last
  have u : Edit.Standing "ü" (history query edits) ["x y"] := by
    have unset : ∀ text, Edit.set "ü" text ∉ history query edits := by simp [past]
    have added : Edit.added "ü" (history query edits) = ["x y"] := by
      rw [past]
      decide
    exact added ▸ .added unset
  have b : Edit.Standing "b" (history query edits) [""] := by
    have unset : ∀ text, Edit.set "b" text ∉ history query edits := by simp [past]
    have added : Edit.added "b" (history query edits) = [""] := by
      rw [past]
      decide
    exact added ▸ .added unset
  obtain ⟨read, keeps⟩ := form_keeps
  obtain ⟨-, -, each⟩ := keeps query edits
  have c : "c" ∉ form.bag.keys := by
    rw [(each "c").1, past]
    decide
  refine ⟨?_, a, (each "a").2.2.2.2.1 _ a (by decide), u, (each "ü").2.2.2.1 _ u,
    (each "b").2.2.2.1 _ b, (each "c").2.1 c⟩
  rw [written, read]

end RequestParams.Form
