import RequestParams.Proofs.JsonBehind
import RequestParams.Proofs.JsonText
import RequestParams.Proofs.Listing

/-!
# Declared parameters are an ordered map

The parameters of a plan are declared by name, and a name that is declared again keeps its place.
Whether they are declared one after the other or loaded from text makes no difference
(`Plan.declared_as_listed`): the text of a plan is read as if its entries were declared in turn
(`Plan.read_eq_map`), and every sequence of entries can be written as such a text
(`Listing.document`).

What can be written is JSON, and JSON nests at most 127 deep. In a document two brackets stand
around each declaration, so that a value that nests deeper than 125 can be declared but not loaded
(`Plan.read_too_deep`).
-/

set_option autoImplicit false

namespace RequestParams

open Json (Ends ReadError Takes bracketed quote readElements)

/-! ## Listings in writing -/

namespace Listing

/-- A member of `params` as it may be written: a name, and text that is read as a value where it
stands, inside the two brackets of the document. -/
structure Entry where
  name : String
  chars : List Char
  value : Json
  reads : Json.readAny (Json.maxDepth - 2) chars = .ok (value, [])

namespace Entry

/-- The text of a member. -/
def memberChars (entry : Entry) : List Char := quote entry.name ++ ':' :: entry.chars

/-- What a member says. -/
def listed (entry : Entry) : String × Json := (entry.name, entry.value)

/-- What a member declares. -/
def declared (entry : Entry) : String × Declaration :=
  (entry.name, Declaration.ofJson entry.value)

theorem begins_memberChars (entry : Entry) : Json.Begins entry.memberChars :=
  ⟨'"', _, rfl, rfl, by decide, by decide⟩

end Entry

/-- The text of the member that lists entries. -/
def paramsChars (entries : List Entry) : List Char :=
  quote "params" ++ ':' :: '\x7b' :: bracketed '\x7d' (entries.map Entry.memberChars)

/-- A document that lists entries and says nothing else. -/
def document (entries : List Entry) : String :=
  String.ofList ('\x7b' :: bracketed '\x7d' [paramsChars entries])

/-- A member of `params` is listed behind those before it. -/
def enterValue (depth : Nat) : List (String × Json) → List Char →
    Except ReadError (List (String × Json) × List Char) :=
  Json.enter (fun cs => ReadError.lift (Json.readName cs)) (Json.readAny depth)
    fun name value entries => entries ++ [(name, value)]

theorem readEntries_brace (depth : Nat) (rest : List Char) :
    readEntries (depth + 1) ('\x7b' :: rest) =
      readElements ReadError.fault '\x7d' (enterValue depth) (rest.length + 1) true [] rest := by
  unfold readEntries
  rw [Json.skipSpace_cons (by decide)]
  rfl

theorem enterValue_name {cs after : List Char} {name : String}
    (named : Json.readName cs = .ok (name, after)) (depth : Nat) (entries : List (String × Json)) :
    enterValue depth entries cs = (do
      let (value, rest) ← Json.readAny depth after
      .ok (entries ++ [(name, value)], rest)) := by
  unfold enterValue Json.enter
  dsimp only
  rw [named]
  rfl

theorem enterValue_memberChars (entry : Entry) (entries : List (String × Json))
    {rest : List Char} (ends : Ends rest) :
    enterValue 125 entries (entry.memberChars ++ rest) = .ok (entries ++ [entry.listed], rest) := by
  have value := Json.readAny_behind ends 125 entry.chars _ entry.reads
  have named := Json.readName_quote entry.name (entry.chars ++ rest)
  unfold Entry.memberChars
  rw [List.append_assoc, List.cons_append, enterValue_name named, value]
  rfl

theorem readEntries_bracketed (entries : List Entry) (rest : List Char) :
    readEntries 126 ('\x7b' :: (bracketed '\x7d' (entries.map Entry.memberChars) ++ rest))
      = .ok (entries.map Entry.listed, rest) := by
  have takes := @Takes.of_step _ _ _ (enterValue 125) Entry.memberChars
    (fun listed entry => listed ++ [entry.listed]) entries
    (fun listed entry _ rest ends => enterValue_memberChars entry listed ends) []
  rw [readEntries_brace, Json.readElements_bracketed (.inr rfl)
    (fun entry _ => entry.begins_memberChars) takes rest, List.foldl_append_eq_append,
    List.nil_append, ← List.flatMap_def, ← List.map_eq_flatMap]

/-- **A document lists the entries that it was written with.** -/
theorem read_document (entries : List Entry) :
    read (document entries) = .ok { entries := entries.map Entry.listed } := by
  have begins : ∀ es ∈ [entries], Json.Begins (paramsChars es) :=
    fun _ _ => ⟨'"', _, rfl, rfl, by decide, by decide⟩
  have takes : Takes (record.readMember 126) paramsChars ([], record.blank) [entries]
      (["params"], { entries := entries.map Entry.listed }) := by
    refine .cons (fun rest _ => ?_) .nil
    have named := Json.readName_quote "params"
      ('\x7b' :: (bracketed '\x7d' (entries.map Entry.memberChars) ++ rest))
    unfold paramsChars
    rw [List.append_assoc, List.cons_append, List.cons_append]
    rw [Json.quote_append] at named ⊢
    rw [Json.Record.readMember_quote named 126 [] _ rfl List.not_mem_nil]
    show (readEntries 126 _ >>= _) >>= _ = _
    rw [readEntries_bracketed]
    rfl
  exact Json.Record.read_bracketed begins takes rfl

/-- A document is refused with the fault of its first declaration. -/
theorem read_refused {name : String} {value : Json} {e : ReadError}
    (refused : ∀ rest, Json.readAny 125 (value.chars ++ rest) = .error e) :
    read (Json.object [("params", .object [(name, value)])]).text = .error e := by
  have entry : ∀ rest, enterValue 125 [] (Json.memberChars (name, value) ++ rest) = .error e := by
    intro rest
    rw [enterValue_name (Json.readName_memberChars _ rest), refused]
    rfl
  have entries : ∀ rest,
      readEntries 126 ((Json.object [(name, value)]).chars ++ rest) = .error e := by
    intro rest
    unfold Json.chars
    rw [Json.membersChars_eq_bracketed, List.cons_append, readEntries_brace]
    show readElements _ _ _ _ _ _ ((Json.memberChars (name, value) ++ ['\x7d']) ++ rest) = _
    rw [List.append_assoc]
    exact Json.readElements_fails (.inr rfl) ((Json.begins_memberChars _).append _) (entry _) _
  have member : ∀ rest, record.readMember 126 ([], record.blank)
      (Json.memberChars ("params", .object [(name, value)]) ++ rest) = .error e := by
    intro rest
    have named := Json.readName_memberChars ("params", .object [(name, value)]) rest
    have starts : Json.memberChars ("params", .object [(name, value)]) ++ rest = '"' :: _ := rfl
    rw [starts] at named ⊢
    rw [Json.Record.readMember_quote named 126 [] _ rfl List.not_mem_nil]
    show (readEntries 126 _ >>= _) >>= _ = _
    rw [entries]
    rfl
  unfold read Json.Record.read Json.text Json.chars
  rw [String.toList_ofList, Json.membersChars_eq_bracketed]
  show (record.readAt (126 + 1) ('\x7b' :: (Json.memberChars _ ++ ['\x7d'])) >>= _) = _
  rw [Json.Record.readAt_brace,
    Json.readElements_fails (.inr rfl) ((Json.begins_memberChars _).append _) (member _)]
  rfl

end Listing

/-! ## Values that nest too deep -/

namespace Json

/-- Arrays inside each other, the innermost empty. -/
def nested : Nat → Json
  | 0 => .array []
  | depth + 1 => .array [nested depth]

theorem chars_nested (depth : Nat) :
    (nested (depth + 1)).chars = '[' :: ((nested depth).chars ++ [']']) := rfl

theorem exists_chars_nested (depth : Nat) : ∃ tail, (nested depth).chars = '[' :: tail := by
  cases depth with
  | zero => exact ⟨_, rfl⟩
  | succ depth => exact ⟨_, chars_nested depth⟩

theorem lt_length_nested (depth : Nat) : depth + 1 < (nested depth).chars.length := by
  induction depth with
  | zero => decide
  | succ depth ih =>
    rw [chars_nested, List.length_cons, List.length_append]
    exact Nat.succ_lt_succ (Nat.lt_of_lt_of_le ih (Nat.le_add_right _ _))

theorem comesBack_nested (depth : Nat) : ComesBack (depth + 1) (nested depth) (nested depth) := by
  induction depth with
  | zero => exact @comesBack_array 0 [] id fun _ member => absurd member List.not_mem_nil
  | succ depth ih =>
    exact @comesBack_array (depth + 1) [nested depth] id fun item member =>
      List.mem_singleton.1 member ▸ ih

theorem readValue_square (fuel : Nat) (rest : List Char) :
    readValue (fuel + 1) 0 ('[' :: rest) = .error .malformed := by
  rw [readValue, skipSpace_cons (by decide)]
  rfl

/-- Where there is room for fewer brackets, arrays inside each other are no JSON. -/
theorem readValue_nested {fuel room depth : Nat} (enough : room < fuel) (deep : room ≤ depth)
    (rest : List Char) :
    readValue fuel room ((nested depth).chars ++ rest) = .error .malformed := by
  induction room generalizing fuel depth rest with
  | zero =>
    obtain ⟨fuel, rfl⟩ := Nat.exists_eq_add_one.2 enough
    obtain ⟨tail, square⟩ := exists_chars_nested depth
    rw [square, List.cons_append, readValue_square]
  | succ room ih =>
    obtain ⟨fuel, rfl⟩ := Nat.exists_eq_add_one.2 (Nat.zero_lt_of_lt enough)
    obtain ⟨depth, rfl⟩ := Nat.exists_eq_add_one.2 (Nat.zero_lt_of_lt deep)
    have inner : push (readValue fuel room) [] ((nested depth).chars ++ ([']'] ++ rest))
        = .error .malformed := by
      unfold push
      rw [ih (Nat.lt_of_succ_lt_succ enough) (Nat.le_of_succ_le_succ deep)]
      rfl
    rw [chars_nested, List.cons_append, List.append_assoc, readValue_array,
      readElements_fails (.inl rfl) ((begins_chars _).append _) inner]
    rfl

theorem read_nested {depth : Nat} (room : depth < maxDepth) :
    read (nested depth).text = .ok (nested depth) := by
  have long := lt_length_nested depth
  have back := comesBack_nested depth ((nested depth).chars.length + 1) maxDepth []
    (Nat.lt_succ_of_lt long) room Text.stops_nil
  rw [List.append_nil] at back
  unfold read text
  rw [String.toList_ofList]
  dsimp only
  rw [back]
  rfl

theorem readAny_nested {room depth : Nat} (deep : room ≤ depth) (rest : List Char) :
    readAny room ((nested depth).chars ++ rest) = .error (.fault .malformed) := by
  have long := lt_length_nested depth
  have enough : room < ((nested depth).chars ++ rest).length + 1 := by
    rw [List.length_append]
    omega
  unfold readAny
  rw [readValue_nested enough deep]
  rfl

end Json

namespace Plan

theorem nodup_declareAll (calls : List (String × Declaration)) {plan : Plan}
    (distinct : (plan.parameters.map Prod.fst).Nodup) :
    ((declareAll calls plan).parameters.map Prod.fst).Nodup := by
  rw [declareAll_eq]
  exact Roster.nodup_putAll calls distinct

/-- The names of a plan stay where they are, and new ones follow in the order in which they first
come up. -/
theorem names_declareAll (calls : List (String × Declaration)) (plan : Plan) :
    (declareAll calls plan).parameters.map Prod.fst
      = plan.parameters.map Prod.fst
        ++ ((calls.map Prod.fst).removeAll (plan.parameters.map Prod.fst)).eraseDups := by
  rw [declareAll_eq]
  exact Roster.names_putAll calls plan.parameters

theorem lookup_declareAll (calls : List (String × Declaration)) (plan : Plan) (name : String) :
    (declareAll calls plan).parameters.lookup name
      = (calls.reverse.lookup name).or (plan.parameters.lookup name) := by
  rw [declareAll_eq]
  exact Roster.lookup_putAll calls plan.parameters name

/-- Each name has the declaration that it was last given. -/
theorem mem_declareAll {entries : List (String × Declaration)} {name : String}
    {declaration : Declaration} :
    (name, declaration) ∈ (declareAll entries {}).parameters ↔
      ∃ before after, entries = before ++ (name, declaration) :: after ∧
        name ∉ after.map Prod.fst := by
  have distinct := @nodup_declareAll entries {} List.nodup_nil
  rw [← ByName.lookup_eq_some_iff_mem distinct, lookup_declareAll, ← ByName.lookup_reverse_eq_some]
  exact Iff.of_eq (congrArg (· = _) Option.or_none)

/-- Names of a plan are distinct if it was loaded from text. -/
theorem nodup_of_read {text : String} {plan : Plan} (loaded : read text = .ok plan) :
    (plan.parameters.map Prod.fst).Nodup := by
  rw [read_eq_map] at loaded
  obtain ⟨listing, -, rfl⟩ := map_eq_ok.1 loaded
  exact nodup_declareAll _ List.nodup_nil

theorem read_document (entries : List Listing.Entry) :
    read (Listing.document entries)
      = .ok (declareAll (entries.map Listing.Entry.declared) {}) := by
  rw [read_eq_map, Listing.read_document, Except.map_ok]
  unfold Listing.plan
  rw [List.map_map]
  rfl

/-- **Declared parameters are an ordered map, whichever way they are loaded.** Declarations that are
made in turn leave distinct names, in the order in which they first came up, each with the
declaration that it was last given. A plan is loaded from text as if the entries that the text lists
were declared in turn, with the same error where the text has none to list; so a document that is
written with entries of any names and values gives the very plan that declaring them gives, and what
that is merged to. The values are those that are JSON where they stand, two brackets inside the
document. Whatever is declared on a loaded plan after that, its names stay where they are and
distinct from each other, and what is declared last counts. -/
theorem declared_as_listed :
    (∀ entries : List (String × Declaration),
      let parameters := (declareAll entries {}).parameters
      (parameters.map Prod.fst).Nodup ∧
      parameters.map Prod.fst = (entries.map Prod.fst).eraseDups ∧
      ∀ name declaration, (name, declaration) ∈ parameters ↔
        ∃ before after, entries = before ++ (name, declaration) :: after ∧
          name ∉ after.map Prod.fst) ∧
    (∀ text, read text = Listing.plan <$> Listing.read text) ∧
    (∀ entries : List Listing.Entry,
      read (Listing.document entries)
        = .ok (declareAll (entries.map Listing.Entry.declared) {})) ∧
    ∀ text plan (calls : List (String × Declaration)), read text = .ok plan →
      let names := plan.parameters.map Prod.fst
      let parameters := (declareAll calls plan).parameters
      (parameters.map Prod.fst).Nodup ∧
      parameters.map Prod.fst = names ++ ((calls.map Prod.fst).removeAll names).eraseDups ∧
      ∀ name, parameters.lookup name
        = (calls.reverse.lookup name).or (plan.parameters.lookup name) := by
  refine ⟨fun entries => ⟨?_, ?_, fun name declaration => mem_declareAll⟩, read_eq_map,
    read_document, fun text plan calls loaded =>
      ⟨?_, names_declareAll calls plan, lookup_declareAll calls plan⟩⟩
  · exact nodup_declareAll entries List.nodup_nil
  · have names := names_declareAll entries {}
    rw [List.map_nil, List.nil_append, List.removeAll_nil] at names
    exact names
  · exact nodup_declareAll calls (nodup_of_read loaded)

/-- A name that is declared twice; one that is listed twice, beside one that is spelled with an
escape; and a document with a value that has blanks in it. -/
theorem declared_as_listed_sample :
    let entries : List (String × Declaration) :=
      [("a", .shorthand "string"), ("b", .shorthand "bool"), ("a", .shorthand "number")]
    let text := " \x7b\"params\": \x7b\"b\": [], \"\\u0061\": null, \"b\": \"bool\"\x7d\x7d"
    let plan : Plan := { parameters := [("b", .shorthand "bool"), ("a", .json .null)] }
    let pair : Listing.Entry := ⟨"a", "[1, null]".toList, .array [.number (.integer 1), .null], rfl⟩
    (declareAll entries {}).parameters.map Prod.fst = ["a", "b"] ∧
      ("a", .shorthand "number") ∈ (declareAll entries {}).parameters ∧
      read text = .ok plan ∧
      (declareAll [("c", .shorthand "text"), ("b", .shorthand "number")] plan).parameters.map
        Prod.fst = ["b", "a", "c"] ∧
      read (Listing.document [pair, pair])
        = .ok { parameters := [("a", .json (.array [.number (.integer 1), .null]))] } := by
  intro entries text plan pair
  obtain ⟨declared, -, written, further⟩ := declared_as_listed
  obtain ⟨-, names, last⟩ := declared entries
  have loaded : read text = .ok plan := by
    subst text plan
    rfl
  have number : ("a", Declaration.shorthand "number") ∈ (declareAll entries {}).parameters :=
    (last _ _).2 ⟨[("a", .shorthand "string"), ("b", .shorthand "bool")], [], rfl, List.not_mem_nil⟩
  exact ⟨names.trans (by decide), number, loaded,
    (further text plan [("c", .shorthand "text"), ("b", .shorthand "number")] loaded).2.1.trans
      (by decide), written [pair, pair]⟩

/-- A value that is JSON on its own and may be declared, but nests too deep inside the two brackets
of a document. -/
theorem read_too_deep :
    let deep := Json.nested 125
    Json.read deep.text = .ok deep ∧
      (declareAll [("a", Declaration.ofJson deep)] {}).parameters = [("a", .json deep)] ∧
      read (Json.object [("params", .object [("a", deep)])]).text
        = .error (.fault .malformed) := by
  intro deep
  refine ⟨Json.read_nested (by decide), rfl, ?_⟩
  rw [read_eq_map, Listing.read_refused (Json.readAny_nested (Nat.le_refl 125))]
  rfl

end Plan
end RequestParams
