import RequestParams.Rule
import RequestParams.Value.Json

/-!
# Failures

Why a request is refused: for every parameter at fault the first rule that it breaks.
-/

set_option autoImplicit false

namespace RequestParams

inductive Violation where
  /-- A required parameter has no usable value. -/
  | missing
  /-- A value, or its length, exceeds the bound. -/
  | aboveGreatest (bound : Binary64)
  /-- A value, or its length, falls short of the bound. -/
  | belowLeast (bound : Binary64)
  /-- A validator has turned the value down. -/
  | turnedDown (message : String)
deriving DecidableEq, Inhabited

def Violation.message : Violation → String
  | missing => "not set"
  | aboveGreatest _ => "value exceeds max value"
  | belowLeast _ => "value below min value"
  | turnedDown message => message

/-- A parameter at fault: its declared type, and the rule that it breaks. -/
structure Failure where
  type : ScalarType
  violation : Violation
deriving DecidableEq, Inhabited

namespace Failure

def message (failure : Failure) : String := failure.violation.message

/-- A failure in JSON. A broken bound is part of it. -/
def toJson (failure : Failure) : Json :=
  .object
    ([("type", .string failure.type.name), ("error", .string failure.message)]
      ++ match failure.violation with
        | .aboveGreatest bound => [("max", Json.ofBinary64 bound)]
        | .belowLeast bound => [("min", Json.ofBinary64 bound)]
        | .missing => []
        | .turnedDown _ => [])

end Failure

abbrev Failures := ByName Failure

namespace Failures

/-- Notes a failure. What was noted first under a name stays. -/
def record (failures : Failures) (name : String) (failure : Failure) : Failures :=
  failures.insertNew name failure

def messages (failures : Failures) : List (String × String) :=
  failures.entries.map fun e => (e.1, e.2.message)

/-- One line that names every failure. -/
def summary (failures : Failures) : String :=
  ", ".intercalate (failures.messages.map fun e => e.1 ++ ": " ++ e.2)

def toJson (failures : Failures) : Json := Json.objectByName Failure.toJson failures

end Failures
end RequestParams
