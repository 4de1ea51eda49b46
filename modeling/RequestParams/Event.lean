/-!
# Events

What is logged while endpoints are registered and requests are verified. An event carries the method
and the path that it is about, so that events of requests that are served at the same time can be
told apart. It never carries a value of a request, only names.
-/

set_option autoImplicit false

namespace RequestParams

inductive Level where
  | trace
  | debug
  | warning
deriving DecidableEq, Repr, Inhabited

structure Event where
  level : Level
  method : String
  path : String
  message : String
deriving DecidableEq, Repr, Inhabited

end RequestParams
