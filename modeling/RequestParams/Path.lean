/-!
# Paths

`Path.join` puts the path of a mount in front of the path of a route, with one slash between them.
-/

set_option autoImplicit false

namespace RequestParams.Path

/-- A text without the slashes at its end. -/
def trimSlashes (cs : List Char) : List Char := (cs.reverse.dropWhile (· = '/')).reverse

/-- Joins two paths given by their characters. -/
def joinChars (base path : List Char) : List Char :=
  match trimSlashes base with
  | [] => path
  | base =>
    match path with
    | [] => base
    | ['/'] => base
    | '/' :: _ => base ++ path
    | _ => base ++ '/' :: path

/-- The path of a route below a mount. Slashes at the end of the mount do not count; a mount of
slashes alone leaves the path as it is, and the root below a mount is the mount itself. -/
def join (base path : String) : String := String.ofList (joinChars base.toList path.toList)

end RequestParams.Path
