import RequestParams.ByName
import RequestParams.Value.Reading
import RequestParams.Request.Query

/-!
# Bags of supplied texts

A request brings its texts in named bags: body, query, path parameters, cookies. A `Bag` is whatever
lists keys and answers with what is supplied under one; nothing is assumed about the order of the
listing, about repetitions in it, or about keys without an answer.

A `Form` is the usual bag: several texts may be filed under one key, and they come out in the order
in which they went in.
-/

set_option autoImplicit false

namespace RequestParams

structure Bag where
  keys : List String
  get? : String → Option Supplied

/-- What a list of texts supplies: one text is a single, any other number of them is a list. -/
def Supplied.ofTexts : List String → Supplied
  | [s] => single s
  | texts => many texts

namespace Bag

def ofTexts (texts : ByName String) : Bag where
  keys := texts.names
  get? key := (texts.get? key).map .single

def ofLists (lists : ByName (List String)) : Bag where
  keys := lists.names
  get? key := (lists.get? key).map Supplied.ofTexts

/-- A bag holds a key if it lists it and has an answer for it. -/
def Holds (bag : Bag) (key : String) : Prop := key ∈ bag.keys ∧ (bag.get? key).isSome

end Bag

/-- Texts filed under keys, in order of arrival. -/
structure Form where
  texts : ByName (List String)

namespace Form

def empty : Form := ⟨ByName.empty⟩

/-- Adds a text behind those already there. -/
def add (form : Form) (key text : String) : Form :=
  ⟨form.texts.insert key ((form.texts.get? key).getD [] ++ [text])⟩

/-- Puts a text in place of those already there. -/
def set (form : Form) (key text : String) : Form :=
  ⟨form.texts.insert key [text]⟩

def addAll (form : Form) (pairs : List (String × String)) : Form :=
  pairs.foldl (fun form pair => form.add pair.1 pair.2) form

def ofQuery (query : String) : Form := empty.addAll (Query.decode query)

def contains (form : Form) (key : String) : Bool := form.texts.contains key

def size (form : Form) : Nat := form.texts.size

def isEmpty (form : Form) : Bool := form.texts.isEmpty

def bag (form : Form) : Bag := Bag.ofLists form.texts

end Form
end RequestParams
