import RequestParams.Proofs.Defaults

/-!
# Lists as one text

A list may be written as one text with commas between its items, and a parameter that is declared
with a list takes it apart again. What is put together of texts without commas comes apart into just
these texts (`parts_intercalate`), and nothing else does, since there is no comma in a part
(`separator_not_mem_of_mem_parts`).

So a list that was read is read again from what is shown of it, exactly if there is no comma in its
texts (`Shape.read?_shown`). Numbers and truth values never have one: no mark of a numeral is a
comma. A scalar is read again from what is shown of it in any case.
-/

set_option autoImplicit false

namespace RequestParams

/-! ## Parts -/

/-- The pieces between separators have no separator in them. -/
theorem not_mem_of_mem_splitOn {α : Type} [BEq α] [LawfulBEq α] {separator : α}
    {items piece : List α} (h : piece ∈ items.splitOn separator) : separator ∉ piece := by
  induction items generalizing piece with
  | nil =>
    rw [List.splitOn_nil] at h
    rw [List.mem_singleton.1 h]
    exact List.not_mem_nil
  | cons a rest ih =>
    rw [List.splitOn_cons_eq_if_modifyHead] at h
    split at h
    · rcases List.mem_cons.1 h with rfl | h
      · exact List.not_mem_nil
      · exact ih h
    · -- The item is no separator, and it goes to the first piece of the rest.
      rename_i other
      obtain ⟨first, others, split⟩ :=
        List.exists_cons_of_ne_nil (List.splitOn_ne_nil separator rest)
      rw [split] at h ih
      rcases List.mem_cons.1 h with rfl | h
      · intro inside
        rcases List.mem_cons.1 inside with rfl | inside
        · exact other (beq_self_eq_true _)
        · exact ih List.mem_cons_self inside
      · exact ih (List.mem_cons_of_mem first h)

/-- There is no comma in a part. -/
theorem separator_not_mem_of_mem_parts {s part : String} (h : part ∈ parts s) :
    Value.separator ∉ part.toList := by
  obtain ⟨piece, split, rfl⟩ := List.mem_map.1 h
  rw [String.toList_ofList]
  exact not_mem_of_mem_splitOn split

/-- Texts without commas are the parts of the text that they are joined to. -/
theorem parts_intercalate {texts : List String} (some : texts ≠ [])
    (unseparated : ∀ s ∈ texts, Value.separator ∉ s.toList) :
    parts (",".intercalate texts) = texts := by
  have apart : ∀ cs ∈ texts.map String.toList, Value.separator ∉ cs :=
    List.forall_mem_map.2 unseparated
  have whole : String.ofList ∘ String.toList = id := funext fun _ => String.ofList_toList
  unfold parts
  rw [String.toList_intercalate, show ",".toList = [Value.separator] from rfl,
    List.splitOn_intercalate _ apart (mt List.map_eq_nil_iff.1 some), List.map_map, whole,
    List.map_id]

/-! ## What is shown of a list -/

namespace Value

theorem joined_eq_intercalate (items : List Value) :
    joined items = [separator].intercalate (items.map chars) := by
  induction items with
  | nil => rfl
  | cons v rest ih =>
    cases rest with
    | nil =>
      rw [joined, List.map_singleton, List.intercalate_singleton]
    | cons next rest =>
      rw [joined, ih, List.map_cons, List.map_cons, List.map_cons, List.intercalate_cons_cons,
        List.append_assoc, List.singleton_append]

theorem display_list (items : List Value) :
    (list items).display = ",".intercalate (items.map display) := by
  have texts : (items.map display).map String.toList = items.map chars := by
    rw [List.map_map]
    exact List.map_congr_left fun _ _ => String.toList_ofList
  rw [← String.toList_inj, String.toList_intercalate, texts]
  exact String.toList_ofList.trans (joined_eq_intercalate items)

end Value

/-! ## Where commas come from -/

theorem separator_not_mem_plainText {x : Binary64} (finite : x.isFinite = true) :
    Value.separator ∉ x.plainText := by
  obtain ⟨negative, steps, held, rfl⟩ := Binary64.exists_finite finite
  obtain ⟨n, spells, -⟩ := Binary64.plainMagnitude_spelled held
  have digit : ∀ c : Char, c.isDigit = true → c ≠ Value.separator := by
    rintro c digit rfl
    cases digit
  have magnitude := spells.forall_mem digit (by decide) (by decide) (by decide) (by decide)
  have sign : Value.separator ∉ signOf negative := by cases negative <;> decide
  intro member
  rcases List.mem_append.1 member with member | member
  · exact sign member
  · exact magnitude _ member rfl

/-- Among scalars only texts may have a comma in what is shown of them. -/
theorem ScalarType.Admits.separator_not_mem_display {type : ScalarType} {v : Value}
    (h : type.Admits v) (unseparated : ∀ s, v = .text s → Value.separator ∉ s.toList) :
    Value.separator ∉ v.display.toList := by
  unfold Value.display
  rw [String.toList_ofList]
  cases h with
  | text nonempty => exact unseparated _ rfl
  | number finite => exact separator_not_mem_plainText finite
  | integer exactly =>
    obtain ⟨negative, held, same, -⟩ := exactly
    exact separator_not_mem_plainText (by rw [same]; rfl)
  | boolean b => cases b <;> decide

/-! ## Reading again what is shown -/

theorem ScalarType.not_admits_list {type : ScalarType} {items : List Value} :
    ¬ type.Admits (.list items) := nofun

/-- A text is read as it is. -/
theorem ScalarType.read?_eq_text {type : ScalarType} {s t : String}
    (h : type.read? s = some (.text t)) : t = s := by
  cases type with
  | text =>
    simp only [read?] at h
    split at h
    · cases h
    · cases h
      rfl
  | number | integer | boolean => cases read?_admits h

namespace Shape

variable {shape : Shape} {supplied : Supplied} {items : List Value} {v : Value}

/-- A list is read from several texts, whether they were supplied so or as one. -/
theorem exists_readList?_of_read? (h : shape.read? supplied = some (.list items)) :
    ∃ texts, shape.type.readList? texts = some (.list items) := by
  obtain several | ⟨s, -, -, reads⟩ := read?_cases h
  · exact several
  · exact absurd (ScalarType.read?_admits reads) ScalarType.not_admits_list

/-- A scalar is read from one text, and where no list is declared. -/
theorem read?_scalar (h : shape.read? supplied = some v) (scalar : ∀ items, v ≠ .list items) :
    ∃ s, shape.list = false ∧ shape.type.read? s = some v := by
  obtain ⟨texts, reads⟩ | ⟨s, -, single, reads⟩ := read?_cases h
  · exact absurd (ScalarType.readList?_eq_some.1 reads).2 (scalar _)
  · exact ⟨s, single, reads⟩

/-- A list is read again from the text of it, if no item of it is taken apart there. -/
theorem readList?_display_list {texts : List String}
    (reads : shape.type.readList? texts = some (.list items)) :
    shape.type.readList? (parts (Value.list items).display) = some (.list items) ↔
      ∀ s, Value.text s ∈ items → Value.separator ∉ s.toList := by
  constructor
  · -- An item that is a text is one of the parts, and there is no comma in them.
    intro again s member
    obtain ⟨-, same⟩ := ScalarType.readList?_eq_some.1 again
    rw [Value.list.inj same] at member
    obtain ⟨part, known, readsPart⟩ := List.mem_filterMap.1 member
    rw [ScalarType.read?_eq_text readsPart]
    exact separator_not_mem_of_mem_parts known
  · intro unseparated
    cases readList?_admits reads with
    | scalar _ admits => exact absurd admits ScalarType.not_admits_list
    | list nonempty each =>
      have apart : ∀ text ∈ items.map Value.display, Value.separator ∉ text.toList := by
        refine List.forall_mem_map.2 fun item member => ?_
        exact (each item member).separator_not_mem_display fun s same =>
          unseparated s (same ▸ member)
      obtain ⟨_, same, again⟩ := ScalarType.readList?_display reads
      cases same
      rw [Value.display_list, parts_intercalate (mt List.map_eq_nil_iff.1 nonempty) apart]
      exact again

/-- **What is read is read again from what is shown of it.** A list is, by a parameter that is
declared with a list, exactly if no text among its items has a comma; a scalar always is, by the
parameter that read it, and by its type alone. -/
theorem read?_shown (shape : Shape) :
    (∀ supplied items, shape.read? supplied = some (.list items) →
      (read? ⟨shape.type, true⟩ (.single (Value.list items).display) = some (.list items) ↔
        ∀ s, Value.text s ∈ items → ',' ∉ s.toList)) ∧
    (∀ supplied v, shape.read? supplied = some v → (∀ items, v ≠ .list items) →
      shape.read? (.single v.display) = some v) ∧
    ∀ s v, shape.type.read? s = some v → shape.type.read? v.display = some v := by
  refine ⟨fun supplied items reads => ?_, fun supplied v reads scalar => ?_,
    fun s v reads => ScalarType.read?_display reads⟩
  · obtain ⟨texts, reads⟩ := exists_readList?_of_read? reads
    exact readList?_display_list reads
  · obtain ⟨s, single, reads⟩ := read?_scalar reads scalar
    rw [read?_of_not_list single]
    exact ScalarType.read?_display reads

/-- Integers from repeated entries, two of which do not read; a text with a comma, which comes apart
when it is shown; and a word for yes. -/
theorem read?_shown_sample :
    (∃ items, read? ⟨.integer, false⟩ (.many ["+007", "x", " -12 ", "2.5"]) = some (.list items) ∧
      (Value.list items).display = "7,-12" ∧
      read? ⟨.integer, true⟩ (.single (Value.list items).display) = some (.list items)) ∧
    (read? ⟨.text, true⟩ (.many ["a,b", ""]) = some (.list [.text "a,b"]) ∧
      read? ⟨.text, true⟩ (.single (Value.list [.text "a,b"]).display)
        ≠ some (.list [.text "a,b"])) ∧
    read? ⟨.boolean, false⟩ (.single " Yes ") = some (.boolean true) ∧
      read? ⟨.boolean, false⟩ (.single (Value.boolean true).display) = some (.boolean true) ∧
      ScalarType.boolean.read? (Value.boolean true).display = some (.boolean true) := by
  refine ⟨⟨[.number (.ofInt 7), .number (.ofInt (-12))], ?_, ?_, ?_⟩, ⟨rfl, fun again => ?_⟩, ?_⟩
  · decide +kernel
  · decide +kernel
  · refine ((read?_shown ⟨.integer, false⟩).1 (.many ["+007", "x", " -12 ", "2.5"]) _ ?_).2 ?_
    · decide +kernel
    · intro s member
      simp at member
  · have unseparated := ((read?_shown ⟨.text, true⟩).1 (.many ["a,b", ""]) _ rfl).1 again
    exact unseparated "a,b" List.mem_cons_self (by decide)
  · have reads : read? ⟨.boolean, false⟩ (.single " Yes ") = some (.boolean true) := by decide
    exact ⟨reads, (read?_shown ⟨.boolean, false⟩).2.1 _ _ reads nofun,
      (read?_shown ⟨.boolean, false⟩).2.2 " Yes " _ reads⟩

end Shape
end RequestParams
