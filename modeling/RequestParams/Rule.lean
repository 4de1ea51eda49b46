import RequestParams.Value.Reading

/-!
# Rules

A `Rule` is what a declaration comes to: everything there is to know about a parameter in order to
read it, check it, fill it in and document it.
-/

set_option autoImplicit false

namespace RequestParams

structure Rule where
  shape : Shape
  /-- Put in when a request supplies no usable value. -/
  default : Option Value := none
  /-- A request without a usable value is refused. -/
  required : Bool := true
  /-- The least number, or the least length of a text. -/
  least : Option Binary64 := none
  /-- The greatest number, or the greatest length of a text. -/
  greatest : Option Binary64 := none
  description : Option String := none
deriving Inhabited

/-- What a scalar is measured by: a text by its characters, a number by itself, a truth value not at
all. -/
def Value.measure? : Value → Option Binary64
  | .text s => some (Binary64.ofNat s.length)
  | .number x => some x
  | _ => none

end RequestParams
