import RequestParams.Declaration.Compile
import RequestParams.Text.Run

/-!
# Shorthand and its spellings

`Shorthand.Spelling` says what a shorthand declaration looks like, and `Shorthand.parse` takes one
apart. This file says that they are the same thing (`parse_by_spelling`): what has a spelling is
parsed into the parts that are spelled, and what is parsed has one. Since parsing is a function,
**no text spells two declarations**, however its blanks are distributed and however many parentheses
stand in its default.

The part with content is the default. Its group is closed by the *last* parenthesis, which is found
from the end of the text: behind it there are only blanks, and a parenthesis is none, so nothing in
the default can be mistaken for the end of it.
-/

set_option autoImplicit false

namespace RequestParams

namespace Shorthand

open Text (Stops isBlank trimStart trimEnd)

/-! ## Which characters can follow which -/

theorem continuesToken_visible {c : Char} (h : continuesToken c = true) :
    0x20 < c.toNat ∧ c.toNat < 0x7f := by
  unfold continuesToken Char.isAlpha Char.isUpper Char.isLower at h
  simp only [Bool.or_eq_true, Bool.and_eq_true, decide_eq_true_eq, ge_iff_le,
    UInt32.le_iff_toNat_le] at h
  change (((65 ≤ c.toNat ∧ c.toNat ≤ 90) ∨ (97 ≤ c.toNat ∧ c.toNat ≤ 122)) ∨ c = '_') ∨ c = '-' at h
  rcases h with ((h | h) | rfl) | rfl
  · omega
  · omega
  · decide
  · decide

theorem isBlank_of_continuesToken {c : Char} (h : continuesToken c = true) : isBlank c = false := by
  obtain ⟨low, high⟩ := continuesToken_visible h
  exact Text.isBlank_eq_false low high

theorem continuesToken_of_startsToken {c : Char} (h : startsToken c = true) :
    continuesToken c = true := by
  have letter : c.isAlpha = true := h
  simp [continuesToken, letter]

theorem continuesToken_of_isBlank {c : Char} (h : isBlank c = true) : continuesToken c = false := by
  cases goes : continuesToken c with
  | false => rfl
  | true =>
    rw [isBlank_of_continuesToken goes] at h
    cases h

theorem Mark.stops {p : Char → Bool} {list : Bool} {mark rest : List Char} (h : Mark list mark)
    (bracket : p '[' = false) (stops : Stops p rest) : Stops p (mark ++ rest) := by
  cases h with
  | absent => exact stops
  | present inside _ => exact Text.stops_cons bracket

theorem Group.stops {p : Char → Bool} {default : Option String} {group rest : List Char}
    (h : Group default group) (parenthesis : p '(' = false) (stops : Stops p rest) :
    Stops p (group ++ rest) := by
  cases h with
  | absent => exact stops
  | present text => exact Text.stops_cons parenthesis

/-- What follows a token does not go on with it: blanks, a mark, a group, or nothing. -/
theorem stops_token {list : Bool} {default : Option String}
    {after mark behind group last : List Char}
    (hAfter : Blanks after) (hMark : Mark list mark) (hBehind : Blanks behind)
    (hGroup : Group default group) (hLast : Blanks last) :
    Stops continuesToken (after ++ (mark ++ (behind ++ (group ++ last)))) := by
  have apart : ∀ c, isBlank c = true → continuesToken c = false :=
    fun _ => continuesToken_of_isBlank
  have ends : Stops continuesToken last := by
    have stops := Stops.append_of_all hLast apart Text.stops_nil
    rw [List.append_nil] at stops
    exact stops
  apply Stops.append_of_all hAfter apart
  apply hMark.stops (by decide)
  apply Stops.append_of_all hBehind apart
  exact hGroup.stops (by decide) ends

/-! ## What is spelled is parsed -/

/-- A group is closed by the last parenthesis, whatever its text is. -/
theorem group?_spelled {default : Option String} {behind group last : List Char}
    (hBehind : Blanks behind) (hGroup : Group default group) (hLast : Blanks last) :
    (group? (trimStart (behind ++ (group ++ last)))).map (Option.map String.ofList)
      = some default := by
  cases hGroup with
  | absent =>
    have blanks : Blanks (behind ++ last) := by
      intro c member
      rcases List.mem_append.1 member with member | member
      · exact hBehind c member
      · exact hLast c member
    rw [List.nil_append, Text.trimStart_blanks blanks]
    rfl
  | present text =>
    have opens : Stops isBlank ('(' :: (text.toList ++ [')']) ++ last) :=
      Text.stops_cons (by decide)
    have closes : Stops isBlank (text.toList ++ [')']).reverse := by
      rw [List.reverse_append]
      exact Text.stops_cons (by decide)
    rw [Text.trimStart_append_stops hBehind opens, List.cons_append]
    simp only [group?]
    rw [Text.trimEnd_append_stops hLast closes, List.reverse_append]
    simp

/-- The mark is found, and what is left of the text differs from what follows the mark in blanks
only. -/
theorem takeMark_spelled {list : Bool} {default : Option String}
    {after mark behind group last : List Char} (hAfter : Blanks after) (hMark : Mark list mark)
    (hBehind : Blanks behind) (hGroup : Group default group) (hLast : Blanks last) :
    ∃ rest, takeMark (trimStart (after ++ (mark ++ (behind ++ (group ++ last))))) = (list, rest) ∧
      trimStart rest = trimStart (behind ++ (group ++ last)) := by
  cases hMark with
  | present inside blanks =>
    have opens : Stops isBlank ('[' :: (inside ++ [']']) ++ (behind ++ (group ++ last))) :=
      Text.stops_cons (by decide)
    have closes : Stops isBlank (']' :: (behind ++ (group ++ last))) := Text.stops_cons (by decide)
    refine ⟨behind ++ (group ++ last), ?_, rfl⟩
    rw [Text.trimStart_append_stops hAfter opens, List.cons_append]
    simp only [takeMark]
    rw [List.append_assoc, List.singleton_append, Text.trimStart_append_stops blanks closes]
    rfl
  | absent =>
    have both : Blanks (after ++ behind) := by
      intro c member
      rcases List.mem_append.1 member with member | member
      · exact hAfter c member
      · exact hBehind c member
    rw [List.nil_append, ← List.append_assoc]
    cases hGroup with
    | absent =>
      -- Nothing but blanks is left.
      have all : Blanks (after ++ behind ++ ([] ++ last)) := by
        intro c member
        rcases List.mem_append.1 member with member | member
        · exact both c member
        · exact hLast c member
      have rests : Blanks (behind ++ ([] ++ last)) := by
        intro c member
        apply all c
        rw [List.append_assoc]
        exact List.mem_append_right after member
      rw [Text.trimStart_blanks all, Text.trimStart_blanks rests]
      exact ⟨[], rfl, rfl⟩
    | present text =>
      have opens : Stops isBlank ('(' :: (text.toList ++ [')']) ++ last) :=
        Text.stops_cons (by decide)
      rw [Text.trimStart_append_stops both opens, Text.trimStart_append_stops hBehind opens]
      exact ⟨_, rfl, Text.dropWhile_of_stops opens⟩

theorem parse?_of_spelling {s : Shorthand} {declaration : String} (h : Spelling s declaration) :
    parse? declaration = some s := by
  obtain ⟨before, after, mark, behind, group, last, hBefore, hAfter, hBehind, hLast, token, hMark,
    hGroup, spelled⟩ := h
  obtain ⟨c, letters, token, starts, continues⟩ := token
  have split : declaration.toList
      = before ++ (c :: (letters ++ (after ++ (mark ++ (behind ++ (group ++ last)))))) := by
    rw [spelled, token]
    simp only [List.append_assoc, List.cons_append]
  have name : Stops isBlank (c :: (letters ++ (after ++ (mark ++ (behind ++ (group ++ last)))))) :=
    Text.stops_cons (isBlank_of_continuesToken (continuesToken_of_startsToken starts))
  have ends := stops_token hAfter hMark hBehind hGroup hLast
  obtain ⟨rest, marked, same⟩ := takeMark_spelled hAfter hMark hBehind hGroup hLast
  have grouped := group?_spelled hBehind hGroup hLast
  unfold parse?
  rw [split, Text.trimStart_append_stops hBefore name]
  simp only [starts, if_true]
  rw [Text.takeWhile_append_stops continues ends, Text.dropWhile_append_stops continues ends,
    marked]
  simp only
  rw [same]
  obtain ⟨found, answer, text⟩ := Option.map_eq_some_iff.1 grouped
  rw [answer, Option.map_some, ← token, text, String.ofList_toList]

/-! ## What is parsed is spelled -/

theorem mark_of_takeMark {text rest : List Char} {list : Bool} (h : takeMark text = (list, rest)) :
    ∃ mark, Mark list mark ∧ text = mark ++ rest := by
  unfold takeMark at h
  split at h
  · rename_i inner
    split at h
    · rename_i left closes
      cases h
      obtain ⟨blanks, all, split⟩ := Text.exists_blanks_trimStart inner
      refine ⟨_, .present blanks all, ?_⟩
      rw [List.cons_append, List.append_assoc, List.singleton_append, ← closes, ← split]
    · cases h
      exact ⟨[], .absent, rfl⟩
  · cases h
    exact ⟨[], .absent, rfl⟩

theorem group_of_group? {text : List Char} {found : Option (List Char)}
    (h : group? text = some found) :
    ∃ group last, Group (found.map String.ofList) group ∧ Blanks last ∧ text = group ++ last := by
  unfold group? at h
  split at h
  · cases h
    exact ⟨[], [], .absent, nofun, rfl⟩
  · rename_i inner
    split at h
    · rename_i inside closes
      cases h
      obtain ⟨blanks, all, split⟩ := Text.exists_trimEnd_blanks inner
      have closes := congrArg List.reverse closes
      rw [List.reverse_reverse, List.reverse_cons] at closes
      refine ⟨_, blanks, .present (String.ofList inside.reverse), all, ?_⟩
      rw [String.toList_ofList, List.cons_append, ← closes, ← split]
    · cases h
  · cases h

theorem spelling_of_parse? {s : Shorthand} {declaration : String}
    (h : parse? declaration = some s) : Spelling s declaration := by
  obtain ⟨before, hBefore, outer⟩ := Text.exists_blanks_trimStart declaration.toList
  unfold parse? at h
  split at h
  · cases h
  · rename_i c letters name
    split at h
    · rename_i starts
      obtain ⟨after, hAfter, inner⟩ :=
        Text.exists_blanks_trimStart (letters.dropWhile continuesToken)
      generalize marked : takeMark (trimStart (letters.dropWhile continuesToken)) = taken at h
      obtain ⟨list, rest⟩ := taken
      obtain ⟨mark, hMark, opened⟩ := mark_of_takeMark marked
      obtain ⟨behind, hBehind, shifted⟩ := Text.exists_blanks_trimStart rest
      obtain ⟨found, answer, rfl⟩ := Option.map_eq_some_iff.1 h
      obtain ⟨group, last, hGroup, hLast, closed⟩ := group_of_group? answer
      refine ⟨before, after, mark, behind, group, last, hBefore, hAfter, hBehind, hLast,
        ⟨c, _, String.toList_ofList, starts, fun _ => Text.all_takeWhile⟩, hMark, hGroup, ?_⟩
      rw [closed] at shifted
      rw [shifted] at opened
      rw [opened] at inner
      have token : letters
          = letters.takeWhile continuesToken
            ++ (after ++ (mark ++ (behind ++ (group ++ last)))) := by
        rw [← inner, List.takeWhile_append_dropWhile]
      calc
        declaration.toList = before ++ (c :: letters) := by rw [outer, name]
        _ = before ++ (c :: (letters.takeWhile continuesToken
              ++ (after ++ (mark ++ (behind ++ (group ++ last)))))) := by rw [← token]
        _ = _ := by simp only [String.toList_ofList, List.append_assoc, List.cons_append]
    · cases h

theorem parse?_eq_some_iff {s : Shorthand} {declaration : String} :
    parse? declaration = some s ↔ Spelling s declaration :=
  ⟨spelling_of_parse?, parse?_of_spelling⟩

theorem parse_eq_ok_iff {s : Shorthand} {declaration : String} :
    parse declaration = .ok s ↔ Spelling s declaration := by
  rw [← parse?_eq_some_iff]
  unfold parse
  cases parse? declaration <;> simp

theorem mark_render (list : Bool) : Mark list (if list then "[]" else "").toList := by
  cases list with
  | false => exact .absent
  | true => exact .present [] nofun

theorem group_render (default : Option String) :
    Group default (match default with
      | some text => "(" ++ text ++ ")"
      | none => "").toList := by
  cases default with
  | none => exact .absent
  | some text =>
    dsimp only
    rw [String.toList_append, String.toList_append]
    exact .present text

/-- The shortest spelling is one. -/
theorem spelling_render {s : Shorthand} (token : IsToken s.token.toList) :
    Spelling s (render s) := by
  obtain ⟨name, list, default⟩ := s
  refine ⟨[], [], _, [], _, [], nofun, nofun, nofun, nofun, token, mark_render list,
    group_render default, ?_⟩
  cases default <;> simp only [render, String.toList_append, List.nil_append, List.append_nil]

/-- **What is parsed is exactly what is spelled, and a text spells at most one declaration.** What
spells none is turned down as no shorthand. Any parts can be spelled, whatever text the default
is. -/
theorem parse_by_spelling :
    (∀ declaration s, parse declaration = .ok s ↔ Spelling s declaration) ∧
    (∀ declaration s t, Spelling s declaration → Spelling t declaration → s = t) ∧
    (∀ declaration, (∀ s, ¬ Spelling s declaration) →
      parse declaration = .error (.misshapen (.notShorthand declaration))) ∧
    ∀ s, IsToken s.token.toList → parse (render s) = .ok s := by
  refine ⟨fun declaration s => parse_eq_ok_iff, ?_, ?_, ?_⟩
  · intro declaration s t first second
    rw [← parse_eq_ok_iff] at first second
    rw [first] at second
    exact Except.ok.inj second
  · intro declaration none
    unfold parse
    cases found : parse? declaration with
    | none => rfl
    | some s => exact absurd (parse?_eq_some_iff.1 found) (none s)
  · intro s token
    exact parse_eq_ok_iff.2 (spelling_render token)

/-- Blanks in every place, and a default with parentheses and a line break of its own; a text whose
only closing parenthesis stands before its opening one; and a list with an empty default. -/
theorem parse_by_spelling_sample :
    let declaration := "\u00a0Integer [ ]\t((1),\n2)) "
    let parts : Shorthand := ⟨"Integer", true, some "(1),\n2)"⟩
    (Spelling parts declaration ∧ ∀ t, Spelling t declaration → t = parts) ∧
    ((∀ s, ¬ Spelling s "number)x(") ∧
      parse "number)x(" = .error (.misshapen (.notShorthand "number)x("))) ∧
    IsToken "text-list".toList ∧
      parse "text-list[]()" = .ok ⟨"text-list", true, some ""⟩ := by
  intro declaration parts
  obtain ⟨accepts, unique, refuses, renders⟩ := parse_by_spelling
  have parsed : parse declaration = .ok parts := by
    subst declaration parts
    rfl
  have spelled : Spelling parts declaration := (accepts declaration parts).1 parsed
  have turnedDown : ∀ s, ¬ Spelling s "number)x(" := by
    intro s spells
    have parsed := (accepts "number)x(" s).2 spells
    cases parsed
  have token : IsToken "text-list".toList := ⟨'t', _, rfl, rfl, List.all_eq_true.1 rfl⟩
  exact ⟨⟨spelled, fun t other => unique declaration t parts other spelled⟩,
    ⟨turnedDown, refuses _ turnedDown⟩, token, renders ⟨"text-list", true, some ""⟩ token⟩

end Shorthand
end RequestParams
