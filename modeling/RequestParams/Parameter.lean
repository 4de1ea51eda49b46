import RequestParams.Reply
import RequestParams.Request.Basic

/-!
# Parameters and the functions that hosts supply

A host may supply functions of its own: validators, which take the place of the built-in rules, and
handlers, which answer in place of the fixed refusal or before the next handler has its turn.
Whoever has such functions has `Callbacks`: a single parameter, an endpoint, or all endpoints of a
router.
-/

set_option autoImplicit false

namespace RequestParams

/-- Judges the value of a parameter under its rule: a message, or nothing if the value is fine. An
empty message is no message. -/
abbrev Validator := Rule → Option Value → Option String

/-- What a handler answers: a verdict, and values to attach to the request before it. -/
structure Answer where
  verdict : Verdict
  attachments : List (String × Values) := []

/-- Answers a refused request, with all failures at hand. -/
abbrev FailureHandler := Failures → Request → Answer

/-- Answers a verified request, with all values at hand. -/
abbrev SuccessHandler := Values → Request → Answer

/-- The functions that a host supplies in one place. -/
structure Callbacks where
  validate : Option Validator := none
  onFailure : Option FailureHandler := none
  onSuccess : Option SuccessHandler := none

/-- The callbacks of one place, completed by those of the place around it. -/
def Callbacks.orElse (inner outer : Callbacks) : Callbacks where
  validate := inner.validate <|> outer.validate
  onFailure := inner.onFailure <|> outer.onFailure
  onSuccess := inner.onSuccess <|> outer.onSuccess

/-- A compiled parameter: its rule, and the functions it was declared with. -/
structure Parameter where
  rule : Rule
  callbacks : Callbacks := {}

/-- Runs a validator; an empty message means that the value is fine. -/
def Validator.judge (validate : Validator) (rule : Rule) (value : Option Value) : Option String :=
  match validate rule value with
  | some message => if message = "" then none else some message
  | none => none

end RequestParams
