/-!
# White space, trimming, and words without case

"Blank" means the Unicode property White_Space: 25 characters in ten ranges, unchanged since Unicode
6.3. It is the white space of shorthand declarations and the white space that is ignored around
numbers, type names and words for yes and no.

Case is ignored for ASCII letters only; every other character stands for itself.
-/

set_option autoImplicit false

namespace RequestParams.Text

/-- The closed ranges of code points with the property White_Space, ascending and apart. -/
def blankRanges : List (Nat × Nat) :=
  [(0x09, 0x0D), (0x20, 0x20), (0x85, 0x85), (0xA0, 0xA0), (0x1680, 0x1680), (0x2000, 0x200A),
   (0x2028, 0x2029), (0x202F, 0x202F), (0x205F, 0x205F), (0x3000, 0x3000)]

/-- A white space character. -/
def isBlank (c : Char) : Bool :=
  blankRanges.any fun range => range.1 ≤ c.toNat && c.toNat ≤ range.2

/-- The text without the blanks at its start. -/
def trimStart (cs : List Char) : List Char := cs.dropWhile isBlank

/-- The text without the blanks at its end. -/
def trimEnd (cs : List Char) : List Char := (cs.reverse.dropWhile isBlank).reverse

/-- The text without the blanks around it. -/
def trim (cs : List Char) : List Char := trimEnd (trimStart cs)

/-- The text with its ASCII letters in lower case. -/
def lower (cs : List Char) : List Char := cs.map Char.toLower

/-- The text with its ASCII letters in upper case. -/
def upper (s : String) : String := String.ofList (s.toList.map Char.toUpper)

/-- The word that a text consists of, blanks around it and the case of ASCII letters ignored. -/
def word (s : String) : String := String.ofList (lower (trim s.toList))

/-- Equality that ignores the case of ASCII letters. -/
def sameIgnoringCase (s t : String) : Bool := lower s.toList == lower t.toList

/-! ## Case -/

theorem toUpper_toLower (c : Char) : c.toLower.toUpper = c.toUpper := by
  refine Char.ext ?_
  unfold Char.toLower Char.toUpper
  split <;> split <;> grind

theorem toLower_toUpper (c : Char) : c.toUpper.toLower = c.toLower := by
  refine Char.ext ?_
  unfold Char.toLower Char.toUpper
  split <;> split <;> grind

theorem upper_lower (s : String) : upper (String.ofList (lower s.toList)) = upper s := by
  unfold upper lower
  rw [String.toList_ofList, List.map_map]
  exact congrArg String.ofList (List.map_congr_left fun c _ => toUpper_toLower c)

theorem lower_upper (s : String) : lower (upper s).toList = lower s.toList := by
  unfold upper lower
  rw [String.toList_ofList, List.map_map]
  exact List.map_congr_left fun c _ => toLower_toUpper c

theorem upper_upper (s : String) : upper (upper s) = upper s := by
  rw [← upper_lower (upper s), lower_upper, upper_lower]

theorem sameIgnoringCase_iff {s t : String} :
    sameIgnoringCase s t = true ↔ upper s = upper t := by
  unfold sameIgnoringCase
  rw [beq_iff_eq]
  constructor
  · intro same
    rw [← upper_lower s, same, upper_lower]
  · intro same
    rw [← lower_upper s, same, lower_upper]

end RequestParams.Text
