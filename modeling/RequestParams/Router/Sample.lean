import RequestParams.Router.Basic

/-!
# A sample service

A router with three routes, to try things out: a search behind a plan, an echo of everything that
was supplied, and a check of health without a plan.
-/

set_option autoImplicit false

namespace RequestParams.Sample

def bound (n : Nat) : Option Binary64 := some (Binary64.ofNat n)

def searchPlan : Plan where
  description := some "Full-text search"
  parameters :=
    [("q", .blueprint { token := "string", least := bound 1, greatest := bound 200 }),
     ("page", .shorthand "integer(1)"),
     ("tags", .shorthand "string[]()"),
     ("exact", .shorthand "bool(false)")]

def echoPlan : Plan where
  parameters := [("id", .shorthand "number")]

/-- A value that may be absent, in JSON. -/
def optional (value : Option Value) : Json :=
  match value with
  | some v => v.toJson
  | none => .null

def search : Handler := fun request =>
  match request.attached.get? defaultSlot with
  | none => .respond ⟨500, none⟩
  | some args =>
    .respond
      ⟨200,
        some (.object
          [("q", optional (args.get? "q")),
           ("page", optional (args.get? "page")),
           ("tags", ((args.get? "tags").getD (.list [])).toJson),
           ("exact", optional (args.get? "exact"))])⟩

def echo : Handler := fun request =>
  match request.attached.get? defaultSlot with
  | none => .respond ⟨500, none⟩
  | some args => .respond ⟨200, some args.toJson⟩

def health : Handler := fun _ => .respond ⟨204, none⟩

/-- The sample service under some settings. -/
def router (settings : Settings) : Except DeclarationError Router := do
  let r : Router := { settings := settings }
  let r := (← r.register "get" "/search" (.planned searchPlan [search])).router
  let r := (← r.register "post" "/echo" (.planned echoPlan [echo])).router
  let r := (← r.register "get" "/health" (.plain [health])).router
  .ok r

end RequestParams.Sample
