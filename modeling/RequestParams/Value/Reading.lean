import RequestParams.Value.Basic

/-!
# Reading what a request supplies

A request supplies text: once under a key, or several times. `Shape.read?` turns that into a value
of the declared type, or into nothing, which every caller treats as if nothing had been supplied.
The same function reads declared defaults, so that a default is a value that a request could have
supplied.
-/

set_option autoImplicit false

namespace RequestParams

/-- What a request supplies under one key: one text, or a list of texts from repeated entries. -/
inductive Supplied where
  | single (s : String)
  | many (items : List String)
deriving DecidableEq, Repr, Inhabited

namespace Supplied

/-- The value of a key that no parameter declares: its texts as they are. -/
def asText : Supplied → Value
  | single s => .text s
  | many items => .list (items.map .text)

end Supplied

def yesWords : List String := ["true", "t", "yes", "y", "1"]

def noWords : List String := ["false", "f", "no", "n", "0"]

/-- The truth value that a text names, whatever its case and the blanks around it. -/
def truth? (s : String) : Option Bool :=
  let word := Text.word s
  if word ∈ yesWords then some true
  else if word ∈ noWords then some false
  else none

namespace ScalarType

/-- Reads one text.

* A text is anything but the empty text, blanks included.
* A number is finite; blanks around it do not count.
* An integer is an optional sign and digits, of magnitude at most 2⁵³ − 1; blanks around it do not
  count.
* A boolean is one of the words for yes and no. -/
def read? : ScalarType → String → Option Value
  | text, s => if s = "" then none else some (.text s)
  | number, s =>
    match Binary64.ofText? (Text.trim s.toList) with
    | some x => if x.isFinite then some (.number x) else none
    | none => none
  | integer, s =>
    match Numeral.integer? (Text.trim s.toList) with
    | some z =>
      if z.natAbs ≤ Binary64.maxSafeInteger then some (.number (Binary64.ofInt z)) else none
    | none => none
  | boolean, s => (truth? s).map .boolean

/-- Reads several texts into a list, leaving out those that do not read. A list without items is no
value. -/
def readList? (type : ScalarType) (items : List String) : Option Value :=
  match items.filterMap type.read? with
  | [] => none
  | values => some (.list values)

end ScalarType

/-- The parts of a text between its commas; a text without commas is one part. -/
def parts (s : String) : List String :=
  (s.toList.splitOn Value.separator).map String.ofList

/-- What values a parameter takes: a scalar type, and whether one text is a list of parts. -/
structure Shape where
  type : ScalarType
  list : Bool
deriving DecidableEq, Repr, Inhabited

namespace Shape

/-- Reads what a request supplies under one key. Repeated entries are read one by one even where no
list was declared. -/
def read? (shape : Shape) : Supplied → Option Value
  | .many items => shape.type.readList? items
  | .single s => if shape.list then shape.type.readList? (parts s) else shape.type.read? s

end Shape
end RequestParams
