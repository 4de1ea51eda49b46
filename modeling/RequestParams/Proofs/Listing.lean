import RequestParams.Endpoint.Plan
import RequestParams.Proofs.JsonAlike

/-!
# A plan is declared as it is listed

The text of a plan lists declarations, some of them perhaps under one name. A `Listing` is that text
with all of them, in text order and with nothing put in place of anything else. A plan is loaded
from text by putting each declaration in its place as it is read; here is that this comes to the
same as reading the listing and declaring its entries one after the other (`Plan.read_eq_map`), for
every text, and with the same error where there is one.
-/

set_option autoImplicit false

namespace RequestParams

open Json (Alike ReadError)

/-! ## Declaring in turn -/

namespace Plan

/-- Declares parameters one after the other. -/
def declareAll (entries : List (String × Declaration)) (plan : Plan) : Plan :=
  entries.foldl (fun plan entry => plan.declare entry.1 entry.2) plan

theorem declareAll_eq (entries : List (String × Declaration)) (plan : Plan) :
    declareAll entries plan
      = { plan with parameters := Roster.putAll entries plan.parameters } := by
  unfold declareAll
  induction entries generalizing plan with
  | nil => rfl
  | cons entry rest ih =>
    rw [List.foldl_cons, ih]
    rfl

end Plan

/-! ## Listings -/

/-- What the text of a plan says, member by member. -/
structure Listing where
  description : Option String := none
  /-- The members of `params` in text order, each a name and a JSON value. -/
  entries : List (String × Json) := []
  order : Option (List String) := none
  slot : Option String := none

namespace Listing

/-- An entry as a declaration. -/
def declared (entry : String × Json) : String × Declaration :=
  (entry.1, Declaration.ofJson entry.2)

/-- The plan that declares the entries of a listing one after the other. -/
def plan (listing : Listing) : Plan :=
  Plan.declareAll (listing.entries.map declared)
    { description := listing.description, order := listing.order, slot := listing.slot }

open Json in
/-- The entries of an object, one behind the other. -/
def readEntries (depth : Nat) (cs : List Char) :
    Except ReadError (List (String × Json) × List Char) :=
  match skipSpace cs with
  | [] => .error (.fault .truncated)
  | c :: rest =>
    if c = '\x7b' then
      if depth = 0 then .error (.fault .malformed)
      else
        let member := fun (entries : List (String × Json)) cs => do
          let (name, rest) ← ReadError.lift (readName cs)
          let (value, rest) ← readAny (depth - 1) rest
          .ok (entries ++ [(name, value)], rest)
        readElements ReadError.fault '\x7d' member (rest.length + 1) true [] rest
    else refuse "a map of parameter names to declarations" cs

open Json in
/-- A listing is written like the plan that it lists. -/
def record : Json.Record Listing where
  title := Plan.record.title
  blank := {}
  fields :=
    [{ name := "description"
       read := fun _ cs => do
        let (text, rest) ← readOptional readText cs
        .ok (fun l => { l with description := text }, rest) },
     { name := "params"
       read := fun depth cs => do
        let (entries, rest) ← readEntries depth cs
        .ok (fun l => { l with entries := entries }, rest) },
     { name := "paramOrder"
       read := fun depth cs => do
        let (order, rest) ← readOptional (readTexts depth) cs
        .ok (fun l => { l with order := order }, rest) },
     { name := "paramMap"
       read := fun _ cs => do
        let (slot, rest) ← readOptional readText cs
        .ok (fun l => { l with slot := slot }, rest) }]

def read (text : String) : Except ReadError Listing := record.read text

theorem plan_eq (listing : Listing) : listing.plan =
    { description := listing.description
      parameters := Roster.putAll (listing.entries.map declared) []
      order := listing.order
      slot := listing.slot } :=
  Plan.declareAll_eq _ _

/-- The roster holds the entries, each put in its place. -/
def Fills (entries : List (String × Json)) (roster : List (String × Declaration)) : Prop :=
  roster = Roster.putAll (entries.map declared) []

theorem Fills.append {entries : List (String × Json)} {roster : List (String × Declaration)}
    (fills : Fills entries roster) (name : String) (value : Json) :
    Fills (entries ++ [(name, value)]) (Roster.put name (Declaration.ofJson value) roster) := by
  unfold Fills Roster.putAll at fills ⊢
  rw [fills, List.map_append, List.foldl_append]
  rfl

theorem readEntries_agree (depth : Nat) (cs : List Char) :
    Agree (Alike Fills) (readEntries depth cs) (Plan.readDeclarations depth cs) := by
  unfold readEntries Plan.readDeclarations
  cases Json.skipSpace cs with
  | nil => exact .error _
  | cons c rest =>
    refine .ite (fun _ => .ite (fun _ => .error _) fun _ => ?_) fun _ => Json.refuse_agree _ cs
    refine Json.readElements_agree (R := Fills) (fun entries roster cs fills => ?_) _ true rfl rest
    exact .bind_same _ fun named => .bind_same _ fun found =>
      .ok ⟨fills.append named.1 found.1, rfl⟩

theorem record_mirrors :
    Json.Record.Mirrors (fun listing plan => plan = listing.plan) record Plan.record where
  title := rfl
  blank := rfl
  fields := by
    refine .cons ⟨rfl, rfl, fun _ cs => ?_⟩ <| .cons ⟨rfl, rfl, fun depth cs => ?_⟩ <|
      .cons ⟨rfl, rfl, fun depth cs => ?_⟩ <| .cons ⟨rfl, rfl, fun _ cs => ?_⟩ .nil
    · refine .bind_same _ fun found => .ok ⟨?_, rfl⟩
      rintro listing _ rfl
      rw [plan_eq, plan_eq]
    · refine (readEntries_agree depth cs).bind fun x y found => .ok ⟨?_, found.2⟩
      rintro listing _ rfl
      rw [plan_eq, plan_eq, show y.1 = _ from found.1]
    · refine .bind_same _ fun found => .ok ⟨?_, rfl⟩
      rintro listing _ rfl
      rw [plan_eq, plan_eq]
    · refine .bind_same _ fun found => .ok ⟨?_, rfl⟩
      rintro listing _ rfl
      rw [plan_eq, plan_eq]

end Listing

/-- **A plan is loaded as if its entries were declared one after the other**, and fails to be loaded
where the listing does. -/
theorem Plan.read_eq_map (text : String) : Plan.read text = Listing.plan <$> Listing.read text :=
  (Json.Record.read_agree Listing.record_mirrors text).eq_map

end RequestParams
