import RequestParams.Json.Record
import RequestParams.Proofs.JsonScalars

/-!
# JSON text reads back

What is written in JSON is read again, with the members of objects in name order. A value may be a
part of any other text, so every statement is about a value followed by something else.

* `readElements_bracketed`: what stands between brackets. Arrays, objects and records differ in what
  they do with an element only (`Takes`).
* `ComesBack`: values, by the depth of their brackets.
* `Record.read_object`: records that are written as an object.
-/

set_option autoImplicit false

namespace RequestParams.Json

open Text (stops_cons)

/-! ## Brackets -/

/-- The elements that are left, each behind a comma, and the closing bracket. -/
def further (close : Char) : List (List Char) → List Char
  | [] => [close]
  | text :: texts => ',' :: (text ++ further close texts)

/-- The elements between brackets, without the opening one. -/
def bracketed (close : Char) : List (List Char) → List Char
  | [] => [close]
  | text :: texts => text ++ further close texts

theorem length_le_further (close : Char) (texts : List (List Char)) :
    texts.length < (further close texts).length := by
  induction texts with
  | nil => exact Nat.zero_lt_one
  | cons text texts ih =>
    rw [further, List.length_cons, List.length_cons, List.length_append]
    omega

theorem length_le_bracketed (close : Char) (texts : List (List Char)) :
    texts.length ≤ (bracketed close texts).length := by
  cases texts with
  | nil => exact Nat.zero_le _
  | cons text texts =>
    have longer := length_le_further close texts
    rw [bracketed, List.length_cons, List.length_append]
    omega

theorem itemsChars_eq_bracketed (items : List Json) :
    itemsChars items = bracketed ']' (items.map chars) := by
  cases items with
  | nil => rfl
  | cons item items =>
    induction items generalizing item with
    | nil => rfl
    | cons next items ih => rw [itemsChars, ih]; rfl

/-- The text of a member. -/
def memberChars (member : String × Json) : List Char :=
  quote member.1 ++ ':' :: member.2.chars

theorem membersChars_eq_bracketed (members : List (String × Json)) :
    membersChars members = bracketed '\x7d' (members.map memberChars) := by
  cases members with
  | nil => rfl
  | cons member members =>
    induction members generalizing member with
    | nil => simp [membersChars, bracketed, further, memberChars]
    | cons next members ih =>
      rw [membersChars, ih]
      simp [bracketed, further, memberChars]

section Elements

variable {α σ ε : Type} {fault : Fault → ε} {close : Char}
  {element : σ → List Char → Except ε (σ × List Char)} {text : α → List Char}

/-- Elements are read from their texts in turn, whatever comes after each, and lead from one state
to another. -/
inductive Takes (element : σ → List Char → Except ε (σ × List Char)) (text : α → List Char) :
    σ → List α → σ → Prop where
  | nil {state : σ} : Takes element text state [] state
  | cons {state next last : σ} {a : α} {others : List α}
      (reads : ∀ rest, Ends rest → element state (text a ++ rest) = .ok (next, rest))
      (more : Takes element text next others last) : Takes element text state (a :: others) last

/-- Where every element takes a step, all of them take the steps in turn. -/
theorem Takes.of_step {step : σ → α → σ} {elements : List α}
    (reads : ∀ state, ∀ a ∈ elements, ∀ rest, Ends rest →
      element state (text a ++ rest) = .ok (step state a, rest)) (state : σ) :
    Takes element text state elements (elements.foldl step state) := by
  induction elements generalizing state with
  | nil => exact .nil
  | cons a others ih =>
    exact .cons (reads state a List.mem_cons_self)
      (ih (fun state b member => reads state b (List.mem_cons_of_mem a member)) _)

/-- The text starts with something other than a space or a closing bracket. -/
def Begins (text : List Char) : Prop :=
  ∃ c rest, text = c :: rest ∧ isSpace c = false ∧ c ≠ ']' ∧ c ≠ '\x7d'

theorem Begins.cons {text : List Char} (h : Begins text) (closing : close = ']' ∨ close = '\x7d') :
    ∃ c rest, text = c :: rest ∧ isSpace c = false ∧ c ≠ close := by
  obtain ⟨c, rest, split, visible, square, curly⟩ := h
  rcases closing with rfl | rfl
  · exact ⟨c, rest, split, visible, square⟩
  · exact ⟨c, rest, split, visible, curly⟩

theorem Begins.append {text : List Char} (begins : Begins text) (rest : List Char) :
    Begins (text ++ rest) := by
  obtain ⟨c, tail, rfl, apart⟩ := begins
  exact ⟨c, tail ++ rest, rfl, apart⟩

theorem ends_further (closing : close = ']' ∨ close = '\x7d') (texts : List (List Char))
    (rest : List Char) : Ends (further close texts ++ rest) := by
  cases texts with
  | nil => rcases closing with rfl | rfl <;> exact stops_cons (by decide)
  | cons text texts => exact stops_cons (by decide)

theorem readElements_close (closing : close = ']' ∨ close = '\x7d') (first : Bool) (state : σ)
    (fuel : Nat) (rest : List Char) :
    readElements fault close element (fuel + 1) first state (close :: rest)
      = .ok (state, rest) := by
  have visible : isSpace close = false := by
    rcases closing with rfl | rfl <;> rfl
  rw [readElements, skipSpace_cons visible]
  exact if_pos rfl

/-- By induction on the elements that are left, of which every one takes a unit of fuel. -/
theorem readElements_further (closing : close = ']' ∨ close = '\x7d') {elements : List α}
    (begins : ∀ a ∈ elements, Begins (text a)) {state last : σ}
    (takes : Takes element text state elements last) {fuel : Nat} (enough : elements.length < fuel)
    (rest : List Char) :
    readElements fault close element fuel false state
      (further close (elements.map text) ++ rest) = .ok (last, rest) := by
  have comma : ',' ≠ close := by
    rcases closing with rfl | rfl <;> decide
  induction takes generalizing fuel with
  | nil =>
    obtain ⟨fuel, rfl⟩ := Nat.exists_eq_add_one.2 enough
    exact readElements_close closing false _ fuel rest
  | @cons state next last a others reads more ih =>
    obtain ⟨c, tail, split, visible, apart⟩ := (begins a List.mem_cons_self).cons closing
    obtain ⟨fuel, rfl⟩ := Nat.exists_eq_add_one.2 (Nat.zero_lt_of_lt enough)
    have read := reads (further close (others.map text) ++ rest) (ends_further closing _ rest)
    have left := ih (fun b member => begins b (List.mem_cons_of_mem a member))
      (Nat.lt_of_succ_lt_succ enough)
    rw [List.map_cons, further, List.cons_append, List.append_assoc, readElements,
      skipSpace_cons (by decide)]
    rw [split, List.cons_append] at read ⊢
    simp only [comma, if_false, Bool.false_eq_true, if_true, skipSpace_cons visible, apart, read,
      bind, Except.bind]
    exact left

/-- **What stands between brackets is read element by element**, up to the closing bracket. The
length of the text is fuel enough for that. -/
theorem readElements_bracketed (closing : close = ']' ∨ close = '\x7d') {elements : List α}
    (begins : ∀ a ∈ elements, Begins (text a)) {state last : σ}
    (takes : Takes element text state elements last) (rest : List Char) :
    readElements fault close element ((bracketed close (elements.map text) ++ rest).length + 1) true
      state (bracketed close (elements.map text) ++ rest) = .ok (last, rest) := by
  have enough : elements.length < (bracketed close (elements.map text) ++ rest).length + 1 := by
    have room := length_le_bracketed close (elements.map text)
    rw [List.length_map] at room
    rw [List.length_append]
    omega
  generalize (bracketed close (elements.map text) ++ rest).length + 1 = fuel at enough ⊢
  obtain ⟨fuel, rfl⟩ := Nat.exists_eq_add_one.2 (Nat.zero_lt_of_lt enough)
  cases takes with
  | nil => exact readElements_close closing true _ fuel rest
  | @cons _ next _ a others reads more =>
    obtain ⟨c, tail, split, visible, apart⟩ := (begins a List.mem_cons_self).cons closing
    have read := reads (further close (others.map text) ++ rest) (ends_further closing _ rest)
    have left := @readElements_further _ _ _ fault _ _ _ closing _
      (fun b member => begins b (List.mem_cons_of_mem a member)) _ _ more fuel
      (Nat.lt_of_succ_lt_succ enough) rest
    rw [List.map_cons, bracketed, List.append_assoc, readElements]
    rw [split, List.cons_append] at read ⊢
    simp only [skipSpace_cons visible, apart, if_false, if_true, read, bind, Except.bind]
    exact left

/-- Where the first element fails, so does everything. -/
theorem readElements_fails (closing : close = ']' ∨ close = '\x7d') {state : σ} {cs : List Char}
    {e : ε} (begins : Begins cs) (fails : element state cs = .error e) (fuel : Nat) :
    readElements fault close element (fuel + 1) true state cs = .error e := by
  obtain ⟨c, rest, rfl, visible, apart⟩ := begins.cons closing
  rw [readElements, skipSpace_cons visible]
  dsimp only
  rw [if_neg apart, if_pos rfl, fails]
  rfl

/-- The step of readers that collect the elements, the last one first. -/
def push (read : List Char → Except ε (σ × List Char)) (items : List σ) (cs : List Char) :
    Except ε (List σ × List Char) := do
  let (item, rest) ← read cs
  .ok (item :: items, rest)

theorem takes_push {read : List Char → Except ε (σ × List Char)} {value : α → σ}
    {elements : List α} (reads : ∀ a ∈ elements, ∀ rest, Ends rest →
      read (text a ++ rest) = .ok (value a, rest)) :
    Takes (push read) text [] elements (elements.map value).reverse := by
  have takes := @Takes.of_step _ _ _ (push read) text (fun items a => value a :: items) elements
    (fun items a member rest ends => by
      unfold push
      rw [reads a member rest ends]
      rfl) []
  rw [List.foldl_flip_cons_eq_append, List.append_nil] at takes
  exact takes

/-- The step of readers that enter each member under its name. -/
def enter {β : Type} (readKey : List Char → Except ε (String × List Char))
    (read : List Char → Except ε (β × List Char)) (put : String → β → σ → σ) (state : σ)
    (cs : List Char) : Except ε (σ × List Char) := do
  let (name, rest) ← readKey cs
  let (value, rest) ← read rest
  .ok (put name value state, rest)

theorem takes_enter {β : Type} {readKey : List Char → Except ε (String × List Char)}
    {read : List Char → Except ε (β × List Char)} {put : String → β → σ → σ} {name : α → String}
    {json : α → Json} {value : α → β} {elements : List α}
    (keys : ∀ member rest,
      readKey (memberChars member ++ rest) = .ok (member.1, member.2.chars ++ rest))
    (reads : ∀ a ∈ elements, ∀ rest, Ends rest →
      read ((json a).chars ++ rest) = .ok (value a, rest)) (state : σ) :
    Takes (enter readKey read put) (fun a => memberChars (name a, json a)) state elements
      (elements.foldl (fun state a => put (name a) (value a) state) state) := by
  apply Takes.of_step
  intro state a member rest ends
  unfold enter
  rw [keys]
  show (read ((json a).chars ++ rest) >>= _) = _
  rw [reads a member rest ends]
  rfl

end Elements

/-! ## Values -/

theorem ne_of_startsNumber {c d : Char} (h : startsNumber c = true)
    (other : startsNumber d = false) : c ≠ d := by
  rintro rfl
  rw [h] at other
  cases other

theorem isSpace_of_startsNumber {c : Char} (h : startsNumber c = true) : isSpace c = false := by
  have apart : ∀ d, startsNumber d = false → c ≠ d := fun _ => ne_of_startsNumber h
  simp only [isSpace, Bool.or_eq_false_iff, decide_eq_false_iff_not]
  exact ⟨⟨⟨apart _ (by decide), apart _ (by decide)⟩, apart _ (by decide)⟩, apart _ (by decide)⟩

/-- The text starts like a number. -/
def StartsNumber (text : List Char) : Prop := ∃ c rest, text = c :: rest ∧ startsNumber c = true

theorem StartsNumber.begins {text : List Char} (h : StartsNumber text) : Begins text := by
  obtain ⟨c, rest, split, starts⟩ := h
  exact ⟨c, rest, split, isSpace_of_startsNumber starts, ne_of_startsNumber starts (by decide),
    ne_of_startsNumber starts (by decide)⟩

theorem startsNumber_spelled {n : Numeral} {power : Option Int} {text : List Char}
    (h : n.Spells power text) (negative : Bool) : StartsNumber (signOf negative ++ text) := by
  obtain ⟨c, rest, split, digit⟩ := h.starts
  rw [split]
  cases negative with
  | true => exact ⟨'-', _, rfl, rfl⟩
  | false => exact ⟨c, rest, rfl, by rw [startsNumber, digit, Bool.or_true]⟩

theorem startsNumber_integer (z : Int) : StartsNumber (Number.integer z).chars :=
  startsNumber_spelled (Numeral.spells_digitsOf z.natAbs) _

theorem startsNumber_real {x : Binary64} (finite : x.isFinite = true) :
    StartsNumber (Number.real x).chars := by
  obtain ⟨negative, steps, held, rfl⟩ := Binary64.exists_finite finite
  obtain ⟨n, power, spells, -, -⟩ := Binary64.realMagnitude_spelled held
  exact startsNumber_spelled spells negative

theorem Number.begins_chars (n : Number) : Begins n.chars := by
  have null : Begins "null".toList := ⟨'n', _, rfl, rfl, by decide, by decide⟩
  cases n with
  | integer z => exact (startsNumber_integer z).begins
  | real x =>
    cases x with
    | finite negative steps held => exact (startsNumber_real rfl).begins
    | infinite negative => exact null
    | nan => exact null

theorem begins_chars (j : Json) : Begins j.chars := by
  cases j with
  | null => exact ⟨'n', _, rfl, rfl, by decide, by decide⟩
  | boolean b => cases b <;> exact ⟨_, _, rfl, rfl, by decide, by decide⟩
  | number n => exact n.begins_chars
  | string s => exact ⟨'"', _, rfl, rfl, by decide, by decide⟩
  | array items => exact ⟨'[', _, rfl, rfl, by decide, by decide⟩
  | object members => exact ⟨'\x7b', _, rfl, rfl, by decide, by decide⟩

theorem begins_memberChars (member : String × Json) : Begins (memberChars member) :=
  ⟨'"', _, rfl, rfl, by decide, by decide⟩

/-- A value is read from its text, whatever comes after it. Its brackets are at most `nest` deep, so
that there has to be room for as many. -/
def ComesBack (nest : Nat) (j read : Json) : Prop :=
  ∀ fuel depth rest, nest < fuel → nest ≤ depth → Ends rest →
    readValue fuel depth (j.chars ++ rest) = .ok (read, rest)

theorem comesBack_boolean (nest : Nat) (b : Bool) : ComesBack nest (.boolean b) (.boolean b) := by
  intro fuel depth rest enough _ _
  obtain ⟨fuel, rfl⟩ := Nat.exists_eq_add_one.2 (Nat.zero_lt_of_lt enough)
  cases b <;> rfl

theorem comesBack_string (nest : Nat) (s : String) : ComesBack nest (.string s) (.string s) := by
  intro fuel depth rest enough _ _
  obtain ⟨fuel, rfl⟩ := Nat.exists_eq_add_one.2 (Nat.zero_lt_of_lt enough)
  show readValue (fuel + 1) depth (quote s ++ rest) = _
  rw [quote_append, readValue, skipSpace_cons (by decide)]
  show (readString (s.toList.flatMap escapeChar ++ '"' :: rest) >>= _) = _
  rw [readString_escaped]
  rfl

/-- A number comes back where the reader of numbers finds it. -/
theorem comesBack_number (nest : Nat) {n read : Number} (starts : StartsNumber n.chars)
    (reads : ∀ rest, Ends rest → readNumber (n.chars ++ rest) = .ok (read, rest)) :
    ComesBack nest (.number n) (.number read) := by
  intro fuel depth rest enough _ ends
  obtain ⟨fuel, rfl⟩ := Nat.exists_eq_add_one.2 (Nat.zero_lt_of_lt enough)
  obtain ⟨c, tail, split, first⟩ := starts
  have apart : ∀ d, startsNumber d = false → c ≠ d := fun _ => ne_of_startsNumber first
  have found := reads rest ends
  unfold chars
  rw [split, List.cons_append] at found ⊢
  rw [readValue, skipSpace_cons (isSpace_of_startsNumber first)]
  dsimp only
  rw [if_neg (apart _ (by decide)), if_neg (apart _ (by decide)), if_neg (apart _ (by decide)),
    if_neg (apart _ (by decide)), if_neg (apart _ (by decide)), if_neg (apart _ (by decide)),
    if_pos first, found]
  rfl

/-- The brackets of an array are read with what is left of fuel and depth. -/
theorem readValue_array (fuel depth : Nat) (rest : List Char) :
    readValue (fuel + 1) (depth + 1) ('[' :: rest) = (do
      let (items, rest) ←
        readElements id ']' (push (readValue fuel depth)) (rest.length + 1) true [] rest
      .ok (.array items.reverse, rest)) := by
  rw [readValue, skipSpace_cons (by decide)]
  rfl

theorem readValue_object (fuel depth : Nat) (rest : List Char) :
    readValue (fuel + 1) (depth + 1) ('\x7b' :: rest) = (do
      let member := enter readName (readValue fuel depth) fun name value (file : ByName Json) =>
        file.insert name value
      let (members, rest) ←
        readElements id '\x7d' member (rest.length + 1) true ByName.empty rest
      .ok (objectByName id members, rest)) := by
  rw [readValue, skipSpace_cons (by decide)]
  rfl

theorem comesBack_array {nest : Nat} {items : List Json} {read : Json → Json}
    (each : ∀ item ∈ items, ComesBack nest item (read item)) :
    ComesBack (nest + 1) (.array items) (.array (items.map read)) := by
  intro fuel depth rest enough deep _
  obtain ⟨fuel, rfl⟩ := Nat.exists_eq_add_one.2 (Nat.zero_lt_of_lt enough)
  obtain ⟨depth, rfl⟩ := Nat.exists_eq_add_one.2 (Nat.zero_lt_of_lt deep)
  have takes : Takes (push (readValue fuel depth)) chars [] items (items.map read).reverse :=
    takes_push fun item member rest ends =>
      each item member fuel depth rest (Nat.lt_of_succ_lt_succ enough)
        (Nat.le_of_succ_le_succ deep) ends
  show readValue (fuel + 1) (depth + 1) ('[' :: (itemsChars items ++ rest)) = _
  rw [readValue_array, itemsChars_eq_bracketed,
    readElements_bracketed (.inl rfl) (fun item _ => begins_chars item) takes rest]
  show Except.ok (Json.array (items.map read).reverse.reverse, rest) = _
  rw [List.reverse_reverse]

theorem readName_quote (name : String) (rest : List Char) :
    readName (quote name ++ ':' :: rest) = .ok (name, rest) := by
  rw [quote_append]
  show (do
    let (name, rest) ← readString (name.toList.flatMap escapeChar ++ '"' :: _)
    Except.ok (name, ← readColon rest)) = _
  rw [readString_escaped]
  show (do Except.ok (name, ← readColon (':' :: rest))) = _
  unfold readColon
  rw [skipSpace_cons (by decide)]
  rfl

theorem readName_memberChars (member : String × Json) (rest : List Char) :
    readName (memberChars member ++ rest) = .ok (member.1, member.2.chars ++ rest) := by
  unfold memberChars
  rw [List.append_assoc, List.cons_append]
  exact readName_quote member.1 _

/-- Objects come back with their members in name order. -/
theorem comesBack_object {nest : Nat} {members : List (String × Json)} {read : Json → Json}
    (each : ∀ member ∈ members, ComesBack nest member.2 (read member.2)) :
    ComesBack (nest + 1) (.object members)
      (objectByName id (ByName.ofList (members.map fun member => (member.1, read member.2)))) := by
  intro fuel depth rest enough deep _
  obtain ⟨fuel, rfl⟩ := Nat.exists_eq_add_one.2 (Nat.zero_lt_of_lt enough)
  obtain ⟨depth, rfl⟩ := Nat.exists_eq_add_one.2 (Nat.zero_lt_of_lt deep)
  have takes : Takes
      (enter readName (readValue fuel depth) fun name value (file : ByName Json) =>
        file.insert name value) memberChars ByName.empty members
      (members.foldl (fun file member => file.insert member.1 (read member.2)) ByName.empty) :=
    takes_enter readName_memberChars (fun member known rest ends =>
      each member known fuel depth rest (Nat.lt_of_succ_lt_succ enough)
        (Nat.le_of_succ_le_succ deep) ends) _
  show readValue (fuel + 1) (depth + 1) ('\x7b' :: (membersChars members ++ rest)) = _
  rw [readValue_object, membersChars_eq_bracketed]
  dsimp only
  rw [readElements_bracketed (.inr rfl) (fun member _ => begins_memberChars member) takes rest]
  unfold ByName.ofList
  rw [List.foldl_map]
  rfl

/-! ## The numbers in a value -/

mutual

/-- The numbers in a value. -/
def numbers : Json → List Number
  | number n => [n]
  | array items => itemsNumbers items
  | object members => membersNumbers members
  | _ => []

def itemsNumbers : List Json → List Number
  | [] => []
  | item :: rest => item.numbers ++ itemsNumbers rest

def membersNumbers : List (String × Json) → List Number
  | [] => []
  | (_, value) :: rest => value.numbers ++ membersNumbers rest

end

theorem mem_itemsNumbers {n : Number} {items : List Json} {item : Json} (member : item ∈ items)
    (inside : n ∈ item.numbers) : n ∈ itemsNumbers items := by
  induction items with
  | nil => cases member
  | cons first rest ih =>
    rw [itemsNumbers, List.mem_append]
    rcases List.mem_cons.1 member with rfl | member
    · exact .inl inside
    · exact .inr (ih member)

theorem mem_membersNumbers {n : Number} {members : List (String × Json)} {name : String}
    {value : Json} (member : (name, value) ∈ members) (inside : n ∈ value.numbers) :
    n ∈ membersNumbers members := by
  induction members with
  | nil => cases member
  | cons first rest ih =>
    obtain ⟨key, other⟩ := first
    rw [membersNumbers, List.mem_append]
    rcases List.mem_cons.1 member with same | member
    · cases same
      exact .inl inside
    · exact .inr (ih member)

/-! ## Records and their fields -/

theorem readText_quote (s : String) (rest : List Char) :
    readText (quote s ++ rest) = .ok (s, rest) := by
  rw [quote_append]
  unfold readText
  rw [skipSpace_cons (by decide)]
  show ReadError.lift (readString _) = _
  rw [readString_escaped]
  rfl

/-- A value that does not look like `null` is not taken for it. -/
theorem readOptional_some {α : Type} {read : List Char → Except ReadError (α × List Char)}
    {c : Char} {text rest : List Char} {a : α} (visible : isSpace c = false) (apart : c ≠ 'n')
    (reads : read (c :: text) = .ok (a, rest)) :
    readOptional read (c :: text) = .ok (some a, rest) := by
  unfold readOptional
  rw [skipSpace_cons visible]
  split
  · rename_i first
    exact absurd (List.cons.inj first).1 apart
  · rw [reads]
    rfl

theorem readOptional_quote (s : String) (rest : List Char) :
    readOptional readText (quote s ++ rest) = .ok (some s, rest) :=
  readOptional_some (by decide) (by decide) (readText_quote s rest)

theorem readTexts_bracket (depth : Nat) (rest : List Char) :
    readTexts (depth + 1) ('[' :: rest) = (do
      let (items, rest) ←
        readElements ReadError.fault ']' (push readText) (rest.length + 1) true [] rest
      .ok (items.reverse, rest)) := by
  unfold readTexts
  rw [skipSpace_cons (by decide)]
  rfl

theorem readTexts_array (depth : Nat) (texts : List String) (rest : List Char) :
    readTexts (depth + 1) ((Json.array (texts.map .string)).chars ++ rest) = .ok (texts, rest) := by
  have takes : Takes (push readText) quote [] texts (texts.map id).reverse :=
    takes_push fun s _ rest _ => readText_quote s rest
  rw [List.map_id] at takes
  show readTexts (depth + 1) ('[' :: (itemsChars (texts.map .string) ++ rest)) = _
  rw [itemsChars_eq_bracketed, List.map_map]
  show readTexts (depth + 1) ('[' :: (bracketed ']' (texts.map quote) ++ rest)) = _
  have begins : ∀ s ∈ texts, Begins (quote s) := fun s _ => begins_chars (.string s)
  rw [readTexts_bracket, readElements_bracketed (.inl rfl) begins takes rest]
  show Except.ok (texts.reverse.reverse, rest) = _
  rw [List.reverse_reverse]

theorem readOptional_texts (depth : Nat) (texts : List String) (rest : List Char) :
    readOptional (readTexts (depth + 1)) ((Json.array (texts.map .string)).chars ++ rest)
      = .ok (some texts, rest) :=
  readOptional_some (by decide) (by decide) (readTexts_array depth texts rest)

/-- A value of any kind, where there is fuel for its brackets. -/
theorem readAny_of_comesBack {nest : Nat} {j read : Json} (h : ComesBack nest j read)
    (long : nest ≤ j.chars.length) {depth : Nat} (deep : nest ≤ depth) {rest : List Char}
    (ends : Ends rest) : readAny depth (j.chars ++ rest) = .ok (read, rest) := by
  unfold readAny
  rw [h _ depth rest (by rw [List.length_append]; omega) deep ends]
  rfl

namespace Record

variable {ρ : Type} {record : Record ρ}

theorem readMember_quote {name : String} {rest after : List Char}
    (named : readName ('"' :: rest) = .ok (name, after)) (depth : Nat) (given : List String)
    (value : ρ) {field : Field ρ}
    (found : (record.fields.find? fun field => field.name == name) = some field)
    (fresh : name ∉ given) :
    record.readMember depth (given, value) ('"' :: rest) = (do
      let (change, rest) ← field.read depth after
      .ok ((name :: given, change value), rest)) := by
  obtain ⟨⟨_, colon⟩, reads, named⟩ := bind_eq_ok.1 named
  obtain ⟨_, next, named⟩ := bind_eq_ok.1 named
  cases named
  unfold readMember
  simp only [reads, ReadError.lift, bind, Except.bind, found, fresh, if_false, next]

/-- A member with the name of a field that has not been given yet is read as that field. -/
theorem readMember_memberChars {depth : Nat} {given : List String} {value : ρ}
    {member : String × Json} {field : Field ρ} {change : ρ → ρ}
    (found : (record.fields.find? fun field => field.name == member.1) = some field)
    (fresh : member.1 ∉ given) {rest : List Char}
    (reads : field.read depth (member.2.chars ++ rest) = .ok (change, rest)) :
    record.readMember depth (given, value) (memberChars member ++ rest)
      = .ok ((member.1 :: given, change value), rest) := by
  have named := readName_memberChars member rest
  have starts : memberChars member ++ rest = '"' :: _ := rfl
  rw [starts] at named ⊢
  rw [readMember_quote named depth given value found fresh, reads]
  rfl

theorem readAt_brace (depth : Nat) (rest : List Char) :
    record.readAt (depth + 1) ('\x7b' :: rest) = (do
      let ((given, value), rest) ←
        readElements ReadError.fault '\x7d' (record.readMember depth) (rest.length + 1) true
          ([], record.blank) rest
      match record.fields.find? fun field => field.needed && !given.contains field.name with
      | some field => .error (.mismatch (.missing field.name))
      | none => .ok (value, rest)) := by
  unfold readAt
  rw [skipSpace_cons (by decide)]
  rfl

/-- A record is read from the texts of its fields between braces, if none is left out that it
needs. -/
theorem read_bracketed {α : Type} {text : α → List Char} {members : List α}
    (begins : ∀ member ∈ members, Begins (text member)) {given : List String} {value : ρ}
    (takes : Takes (record.readMember (maxDepth - 1)) text ([], record.blank) members
      (given, value))
    (whole : (record.fields.find? fun field => field.needed && !given.contains field.name) = none) :
    record.read (String.ofList ('\x7b' :: bracketed '\x7d' (members.map text))) = .ok value := by
  have all := @readElements_bracketed _ _ _ ReadError.fault _ _ _ (.inr rfl) _ begins _ _ takes []
  rw [List.append_nil] at all
  unfold read
  rw [String.toList_ofList]
  show (record.readAt (maxDepth - 1 + 1) ('\x7b' :: bracketed '\x7d' (members.map text)) >>= _) = _
  rw [readAt_brace, all]
  simp only [bind, Except.bind, whole]
  rfl

theorem read_object {members : List (String × Json)} {given : List String} {value : ρ}
    (takes : Takes (record.readMember (maxDepth - 1)) memberChars ([], record.blank) members
      (given, value))
    (whole : (record.fields.find? fun field => field.needed && !given.contains field.name) = none) :
    record.read (Json.object members).text = .ok value := by
  have all := read_bracketed (fun member _ => begins_memberChars member) takes whole
  rw [← membersChars_eq_bracketed] at all
  exact all

end Record

end RequestParams.Json
