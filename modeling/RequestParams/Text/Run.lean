import RequestParams.Text.Blank

/-!
# Runs of characters

Readers take the longest run of characters of a kind from the start of a text: blanks, digits, the
letters of a name. What a run is followed by decides where it ends, so the statements here say of a
text that it does not go on with another character of the kind (`Stops`).

* `takeWhile_append_stops`, `dropWhile_append_stops`: a run that is followed by such a text is taken
  as it is, and that text is left.
* `trimStart_append_stops`, `trimEnd_append_stops`, `trim_between`: the same for blanks, at both ends
  of a text.
-/

set_option autoImplicit false

namespace RequestParams.Text

variable {p : Char → Bool} {run rest other : List Char}

/-- The text does not start with a character of the kind. -/
def Stops (p : Char → Bool) (rest : List Char) : Prop := ∀ c ∈ rest.head?, p c = false

theorem stops_nil : Stops p [] := nofun

theorem stops_cons {c : Char} (h : p c = false) : Stops p (c :: rest) := by
  intro d member
  obtain rfl := Option.mem_some_iff.1 member
  exact h

theorem stops_of_all (all : ∀ c ∈ rest, p c = false) : Stops p rest :=
  fun c first => all c (List.mem_of_mem_head? first)

theorem Stops.append (first : Stops p rest) (second : Stops p other) : Stops p (rest ++ other) := by
  cases rest with
  | nil => exact second
  | cons c rest => exact stops_cons (first c rfl)

/-- Characters of another kind do not go on, and neither does what follows them. -/
theorem Stops.append_of_all {q : Char → Bool} (all : ∀ c ∈ run, q c = true)
    (apart : ∀ c, q c = true → p c = false) (stops : Stops p rest) : Stops p (run ++ rest) := by
  refine Stops.append ?_ stops
  cases run with
  | nil => exact stops_nil
  | cons c run => exact stops_cons (apart c (all c List.mem_cons_self))

theorem dropWhile_of_stops (stops : Stops p rest) : rest.dropWhile p = rest := by
  cases rest with
  | nil => rfl
  | cons c rest =>
    rw [List.dropWhile_cons_of_neg]
    rw [stops c rfl]
    exact Bool.false_ne_true

theorem dropWhile_append_stops (all : ∀ c ∈ run, p c = true) (stops : Stops p rest) :
    (run ++ rest).dropWhile p = rest := by
  rw [List.dropWhile_append_of_pos all, dropWhile_of_stops stops]

theorem takeWhile_append_stops (all : ∀ c ∈ run, p c = true) (stops : Stops p rest) :
    (run ++ rest).takeWhile p = run := by
  rw [List.takeWhile_append_of_pos all]
  cases rest with
  | nil => rw [List.takeWhile_nil, List.append_nil]
  | cons c rest =>
    rw [List.takeWhile_cons_of_neg, List.append_nil]
    rw [stops c rfl]
    exact Bool.false_ne_true

theorem all_takeWhile {text : List Char} {c : Char} (h : c ∈ text.takeWhile p) : p c = true := by
  have passes : (text.takeWhile p).all p = true := List.all_takeWhile
  exact List.all_eq_true.1 passes c h

theorem stops_dropWhile (text : List Char) : Stops p (text.dropWhile p) := by
  induction text with
  | nil => exact stops_nil
  | cons c text ih =>
    rw [List.dropWhile_cons]
    split
    · exact ih
    · rename_i other
      exact stops_cons (Bool.eq_false_iff.2 other)

/-! ## Blanks -/

/-- The visible characters of ASCII are no blanks. -/
theorem isBlank_eq_false {c : Char} (low : 0x20 < c.toNat) (high : c.toNat < 0x7f) :
    isBlank c = false := by
  simp only [isBlank, blankRanges, List.any_cons, List.any_nil, Bool.or_eq_false_iff,
    Bool.and_eq_false_iff, decide_eq_false_iff_not, and_true]
  omega

theorem trimStart_append_stops {run rest : List Char} (blanks : ∀ c ∈ run, isBlank c = true)
    (stops : Stops isBlank rest) : trimStart (run ++ rest) = rest :=
  dropWhile_append_stops blanks stops

theorem trimStart_blanks {run : List Char} (blanks : ∀ c ∈ run, isBlank c = true) :
    trimStart run = [] := by
  have trimmed := trimStart_append_stops blanks stops_nil
  rw [List.append_nil] at trimmed
  exact trimmed

theorem trimEnd_append_stops {run rest : List Char} (blanks : ∀ c ∈ rest, isBlank c = true)
    (stops : Stops isBlank run.reverse) : trimEnd (run ++ rest) = run := by
  unfold trimEnd
  rw [List.reverse_append, dropWhile_append_stops _ stops, List.reverse_reverse]
  intro c member
  exact blanks c (List.mem_reverse.1 member)

theorem exists_blanks_trimStart (text : List Char) :
    ∃ blanks, (∀ c ∈ blanks, isBlank c = true) ∧ text = blanks ++ trimStart text :=
  ⟨text.takeWhile isBlank, fun _ => all_takeWhile, List.takeWhile_append_dropWhile.symm⟩

theorem exists_trimEnd_blanks (text : List Char) :
    ∃ blanks, (∀ c ∈ blanks, isBlank c = true) ∧ text = trimEnd text ++ blanks := by
  obtain ⟨blanks, all, split⟩ := exists_blanks_trimStart text.reverse
  refine ⟨blanks.reverse, ?_, ?_⟩
  · intro c member
    exact all c (List.mem_reverse.1 member)
  · have split := congrArg List.reverse split
    rw [List.reverse_reverse, List.reverse_append] at split
    exact split

theorem exists_blanks_trim (text : List Char) :
    ∃ before after, (∀ c ∈ before, isBlank c = true) ∧ (∀ c ∈ after, isBlank c = true) ∧
      text = before ++ trim text ++ after := by
  obtain ⟨before, hBefore, start⟩ := exists_blanks_trimStart text
  obtain ⟨after, hAfter, last⟩ := exists_trimEnd_blanks (trimStart text)
  refine ⟨before, after, hBefore, hAfter, ?_⟩
  rw [List.append_assoc]
  exact start.trans (congrArg (before ++ ·) last)

/-- Trimming takes the blanks away, and a text without blanks stays as it is. -/
theorem trim_between {before text after : List Char} (hBefore : ∀ c ∈ before, isBlank c = true)
    (hAfter : ∀ c ∈ after, isBlank c = true) (visible : ∀ c ∈ text, isBlank c = false) :
    trim (before ++ text ++ after) = text := by
  unfold trim
  cases text with
  | nil =>
    -- No visible character stops the blanks at the start, so they take those at the end along.
    have blanks : ∀ c ∈ before ++ after, isBlank c = true := by
      intro c member
      rcases List.mem_append.1 member with member | member
      · exact hBefore c member
      · exact hAfter c member
    rw [List.append_nil, trimStart_blanks blanks]
    rfl
  | cons c rest =>
    have last : Stops isBlank (c :: rest).reverse :=
      stops_of_all fun d member => visible d (List.mem_reverse.1 member)
    have first : Stops isBlank (c :: rest ++ after) :=
      stops_cons (visible c List.mem_cons_self)
    rw [List.append_assoc, trimStart_append_stops hBefore first, trimEnd_append_stops hAfter last]

theorem trim_of_visible {text : List Char} (visible : ∀ c ∈ text, isBlank c = false) :
    trim text = text := by
  have trimmed := trim_between (List.forall_mem_nil _) (List.forall_mem_nil _) visible
  rw [List.nil_append, List.append_nil] at trimmed
  exact trimmed

end RequestParams.Text
