import RequestParams.Binary64.Numeral

/-!
# Types and values of parameters

A parameter is declared with one of four scalar types. Its value is a scalar or a list; lists nest
only when a caller builds them by hand, since reading never produces a list inside a list.

* `ScalarType.ofToken?`: the names under which a type may be declared.
* `Value.chars`: the text of a value, which reads back as that value.
-/

set_option autoImplicit false

namespace RequestParams

/-- The declared type of a parameter. An `integer` is a `number` that is written without a point
and held exactly. -/
inductive ScalarType where
  | text
  | number
  | integer
  | boolean
deriving DecidableEq, Repr, Inhabited

namespace ScalarType

/-- The name in reports and in documentation; both numeric types are called a number there. -/
def name : ScalarType → String
  | text => "string"
  | number => "number"
  | integer => "number"
  | boolean => "boolean"

/-- The type that a token names, whatever the case of its letters and the blanks around it. -/
def ofToken? (token : String) : Option ScalarType :=
  let word := Text.word token
  if word = "string" then some text
  else if word = "number" ∨ word = "float" ∨ word = "double" then some number
  else if word = "integer" ∨ word = "short" then some integer
  else if word = "bool" ∨ word = "boolean" then some boolean
  else none

end ScalarType

inductive Value where
  | text (s : String)
  | number (x : Binary64)
  | boolean (b : Bool)
  | list (items : List Value)

namespace Value

instance : Inhabited Value := ⟨list []⟩

/-! ## Equality is decidable

Structural equality: the two zeros differ, and not-a-number equals itself. -/

mutual

def decEq : (a b : Value) → Decidable (a = b)
  | text s, text t => decidable_of_iff (s = t) (by simp)
  | number x, number y => decidable_of_iff (x = y) (by simp)
  | boolean x, boolean y => decidable_of_iff (x = y) (by simp)
  | list xs, list ys =>
    match decEqAll xs ys with
    | isTrue h => isTrue (by rw [h])
    | isFalse h => isFalse fun e => h (by cases e; rfl)
  | text _, number _ | text _, boolean _ | text _, list _
  | number _, text _ | number _, boolean _ | number _, list _
  | boolean _, text _ | boolean _, number _ | boolean _, list _
  | list _, text _ | list _, number _ | list _, boolean _ => isFalse (by simp)

def decEqAll : (xs ys : List Value) → Decidable (xs = ys)
  | [], [] => isTrue rfl
  | [], _ :: _ => isFalse (by simp)
  | _ :: _, [] => isFalse (by simp)
  | x :: xs, y :: ys =>
    match decEq x y, decEqAll xs ys with
    | isTrue h, isTrue t => isTrue (by rw [h, t])
    | isFalse h, _ => isFalse fun e => h (List.cons.inj e).1
    | _, isFalse t => isFalse fun e => t (List.cons.inj e).2

end

instance : DecidableEq Value := decEq

/-! ## Text -/

def truthWord (b : Bool) : String := if b then "true" else "false"

/-- The character between the items of a list given as one text. -/
def separator : Char := ','

mutual

/-- The text of a value: a list is the texts of its items with commas between them. -/
def chars : Value → List Char
  | text s => s.toList
  | number x => x.plainText
  | boolean b => (truthWord b).toList
  | list items => joined items

/-- The texts of several values with commas between them. -/
def joined : List Value → List Char
  | [] => []
  | [v] => v.chars
  | v :: next :: rest => v.chars ++ separator :: joined (next :: rest)

end

def display (v : Value) : String := String.ofList v.chars

/-- A list without items; a scalar is never empty. -/
def isEmptyList : Value → Bool
  | list [] => true
  | _ => false

end Value
end RequestParams
