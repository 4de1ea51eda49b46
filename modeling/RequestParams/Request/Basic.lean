import RequestParams.Request.Bag
import RequestParams.Value.Json

/-!
# Requests

What a request is to this library: a method, the path of its route, bags by name, and the values
that have been attached to it for the handlers to come.
-/

set_option autoImplicit false

namespace RequestParams

/-- A request: its method, the path of its route, what it supplies, and what is attached to it. -/
structure Request where
  method : String
  path : String
  /-- The bag of a name, if the request has one. -/
  bag? : String → Option Bag
  attached : ByName Values := ByName.empty

namespace Request

/-- Attaches values under a slot, in place of what was there. -/
def attach (request : Request) (slot : String) (values : Values) : Request :=
  { request with attached := request.attached.insert slot values }

def attachAll (request : Request) (attachments : List (String × Values)) : Request :=
  attachments.foldl (fun request a => request.attach a.1 a.2) request

/-- A request with its texts in forms. -/
def ofForms (method path : String) (forms : ByName Form) : Request where
  method := method
  path := path
  bag? name := (forms.get? name).map Form.bag

end Request
end RequestParams
