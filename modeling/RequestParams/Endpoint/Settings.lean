import RequestParams.Json.Record
import RequestParams.Parameter

/-!
# Settings

What holds for all endpoints of a router unless they say otherwise.
-/

set_option autoImplicit false

namespace RequestParams

/-- The bags that are looked into, in order, where nothing else is set. -/
def defaultOrder : List String := ["body", "query", "params", "cookies"]

/-- The slot under which values are attached where nothing else is set. -/
def defaultSlot : String := "args"

structure Settings where
  order : Option (List String) := none
  slot : Option String := none
  /-- What the paths of endpoints start with. -/
  mountedAt : Option String := none
  diagnostics : Diagnostics := .disabled
  callbacks : Callbacks := {}

namespace Settings

def ofStage (stage : Option String) : Settings :=
  { diagnostics := Diagnostics.ofStage stage }

open Json in
def record : Json.Record Settings where
  title := "struct RouterConfig"
  blank := {}
  fields :=
    [{ name := "paramOrder"
       read := fun depth cs => do
        let (order, rest) ← readOptional (readTexts depth) cs
        .ok (fun s => { s with order := order }, rest) },
     { name := "paramMap"
       read := fun _ cs => do
        let (slot, rest) ← readOptional readText cs
        .ok (fun s => { s with slot := slot }, rest) },
     { name := "prefix"
       read := fun _ cs => do
        let (path, rest) ← readOptional readText cs
        .ok (fun s => { s with mountedAt := path }, rest) },
     { name := "diagnostics"
       read := fun depth cs => do
        let (word, rest) ← readChoice ["disabled", "enabled"] depth cs
        let mode : Diagnostics := if word = "enabled" then .enabled else .disabled
        .ok (fun s => { s with diagnostics := mode }, rest) }]

def read (text : String) : Except Json.ReadError Settings := record.read text

end Settings
end RequestParams
