import RequestParams.Failure

/-!
# Replies and verdicts

What is sent back for a request, and what is done with it next.
-/

set_option autoImplicit false

namespace RequestParams

/-- A reply: a status and, unless it is empty, a body. -/
structure Reply where
  status : Nat
  body : Option Json := none
deriving Inhabited

inductive Verdict where
  /-- The next handler has its turn. -/
  | proceed
  /-- The reply is sent and no other handler has a turn. -/
  | respond (reply : Reply)
deriving Inhabited

/-- The reply of a verdict, if it has one. -/
def Verdict.reply? : Verdict → Option Reply
  | proceed => none
  | respond reply => some reply

/-- Whether replies to refused requests say what was wrong. -/
inductive Diagnostics where
  | disabled
  | enabled
deriving DecidableEq, Repr, Inhabited

namespace Diagnostics

/-- The mode for a stage of deployment: diagnostics are meant for development. -/
def ofStage (stage : Option String) : Diagnostics :=
  match stage with
  | some name => if Text.word name = "development" then enabled else disabled
  | none => disabled

end Diagnostics

/-- The status of every reply that refuses a request. -/
def refusalStatus : Nat := 422

def refusalMessage : String := "Required parameters are missing"

/-- The reply to a refused request that no handler answers. With diagnostics it lists the
failures. -/
def refusal (failures : Failures) : Diagnostics → Reply
  | .disabled => ⟨refusalStatus, none⟩
  | .enabled =>
    ⟨refusalStatus,
      some (.object [("error", .string refusalMessage), ("params", failures.toJson)])⟩

end RequestParams
