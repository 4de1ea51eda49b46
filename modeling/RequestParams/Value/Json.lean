import RequestParams.Value.Reading
import RequestParams.Json.Basic

/-!
# Values in JSON

Replies and documentation show values in JSON, and declarations take defaults from it.
-/

set_option autoImplicit false

namespace RequestParams

namespace Value

mutual

def toJson : Value → Json
  | text s => .string s
  | number x => Json.ofBinary64 x
  | boolean b => .boolean b
  | list items => .array (toJsonAll items)

def toJsonAll : List Value → List Json
  | [] => []
  | v :: rest => v.toJson :: toJsonAll rest

end

end Value

abbrev Values := ByName Value

def Values.toJson (values : Values) : Json := Json.objectByName Value.toJson values

end RequestParams
