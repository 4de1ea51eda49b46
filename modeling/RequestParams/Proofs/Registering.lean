import RequestParams.Proofs.Compiling
import RequestParams.Router.History

/-!
# What registrations leave behind

A router keeps two stores: the table of routes, in which every registration leaves a route under its
own path, and the endpoints, in which a registration with a plan leaves an endpoint under the path
below the mount, in place of the one that was there. The stores are written together and read apart,
so what either holds is stated of the calls that were made: the table lists the routes of all calls
that succeeded, and under a path and a method stands the endpoint of the last one that filed
something there (`Reflects`).

A registration is a sequence of steps that change the router at hand. It does one of two things
(`registering_cases`): it adds its route, or it fails before the first change. `Reflects.after` says
what this means for the stores, and the run is an induction over the calls (`Reflects.afterAll`).
-/

set_option autoImplicit false

namespace RequestParams

/-! ## Methods -/

theorem Router.methodName_mem {method name : String} (accepted : methodName method = .ok name) :
    name ∈ methods.map Text.upper := by
  unfold methodName at accepted
  split at accepted
  · rename_i known
    cases accepted
    exact List.mem_map.2 ⟨_, known, Text.upper_lower method⟩
  · cases accepted

theorem upper_of_mem_methods {method : String} (h : method ∈ methods.map Text.upper) :
    Text.upper method = method := by
  obtain ⟨name, -, rfl⟩ := List.mem_map.1 h
  exact Text.upper_upper name

/-! ## One call -/

namespace Router

/-- A router with one route more. If the route has a guard, its endpoint is filed. -/
def adding (r : Router) (route : Route) : Router :=
  match route.guard with
  | none => r.addRoute route
  | some guard =>
    (r.file (r.endpointPath route.path) route.method guard.endpoint).addRoute route

section Steps

variable {α β : Type} (next : α → ExceptT DeclarationError (StateM Router) β) (r : Router)

theorem run_ok (a : α) :
    (liftM (.ok a : Except DeclarationError α) >>= next).run.run r = (next a).run.run r := rfl

/-- A step that fails is the last one. -/
theorem run_error (error : DeclarationError) :
    (liftM (.error error : Except DeclarationError α) >>= next).run.run r = (.error error, r) := rfl

theorem run_get (next : Router → ExceptT DeclarationError (StateM Router) β) :
    (get >>= next).run.run r = (next r).run.run r := rfl

end Steps

/-- **What a call does**: it adds its route and answers with the index of it, or it is turned down
before it has changed anything. Which of the two, and why, does not depend on the stores. -/
theorem registering_cases (r : Router) (call : Call) :
    (∃ route events, call.route? r.settings = some route ∧
      (registering call.method call.path call.registration).run.run r
        = (.ok (r.table.length, events), r.adding route)) ∨
    ∃ error, call.route? r.settings = none ∧ call.Refused r.settings error ∧
      (registering call.method call.path call.registration).run.run r = (.error error, r) := by
  obtain ⟨method, path, registration⟩ := call
  unfold Call.route? registering
  dsimp only
  by_cases known : String.ofList (Text.lower method.toList) ∈ methods
  · have accepted : methodName method = .ok (Text.upper method) := if_pos known
    rw [if_pos known, accepted, run_ok, run_get]
    cases registration with
    | plain handlers => exact .inl ⟨_, _, rfl, rfl⟩
    | planned plan handlers =>
      dsimp only
      cases compiled : Endpoint.ofPlan r.settings plan with
      | ok e =>
        rw [run_ok]
        exact .inl ⟨_, _, rfl, rfl⟩
      | error error =>
        rw [run_error]
        exact .inr ⟨error, rfl, .uncompiled known rfl compiled, rfl⟩
  · have unknown : methodName method = .error (.unsupportedMethod method) := if_neg known
    rw [if_neg known, unknown, run_error]
    exact .inr ⟨_, rfl, .unsupported known, rfl⟩

end Router

namespace Call.Refused

variable {settings : Settings} {call : Call} {error other : DeclarationError}

theorem unique (h : call.Refused settings error) (h' : call.Refused settings other) :
    error = other := by
  cases h with
  | unsupported unknown =>
    cases h' with
    | unsupported => rfl
    | uncompiled known => exact absurd known unknown
  | uncompiled known asked fails =>
    cases h' with
    | unsupported unknown => exact absurd known unknown
    | uncompiled _ asked' fails' =>
      cases asked.symm.trans asked'
      cases fails.symm.trans fails'
      rfl

theorem route? (h : call.Refused settings error) : call.route? settings = none := by
  unfold Call.route?
  cases h with
  | unsupported unknown => rw [if_neg unknown]
  | uncompiled known asked fails =>
    rw [if_pos known, asked]
    dsimp only
    rw [fails]

end Call.Refused

theorem Call.adds_of_route {settings : Settings} {call : Call} {route : Route}
    (adds : call.route? settings = some route) : call.Adds settings route := by
  unfold Call.route? at adds
  split at adds
  · rename_i known
    have accepted : Router.methodName call.method = .ok (Text.upper call.method) := if_pos known
    cases asked : call.registration with
    | plain handlers =>
      rw [asked] at adds
      cases adds
      exact .plain accepted asked
    | planned plan handlers =>
      rw [asked] at adds
      dsimp only at adds
      cases compiled : Endpoint.ofPlan settings plan with
      | error _ =>
        rw [compiled] at adds
        cases adds
      | ok e =>
        rw [compiled] at adds
        cases adds
        exact .planned accepted asked compiled
  · cases adds

theorem Call.Adds.method_mem {settings : Settings} {call : Call} {route : Route}
    (h : call.Adds settings route) : route.method ∈ methods.map Text.upper := by
  cases h with
  | plain accepted => exact Router.methodName_mem accepted
  | planned accepted => exact Router.methodName_mem accepted

namespace Router

variable {r : Router} {call : Call} {route : Route} {error : DeclarationError}

theorem after_of_route (adds : call.route? r.settings = some route) :
    r.after call = r.adding route := by
  unfold after
  rcases r.registering_cases call with ⟨same, events, adds', went⟩ | ⟨error, none, -, -⟩
  · cases adds.symm.trans adds'
    rw [went]
  · rw [none] at adds
    cases adds

theorem after_of_none (none : call.route? r.settings = none) : r.after call = r := by
  unfold after
  rcases r.registering_cases call with ⟨route, events, adds, -⟩ | ⟨error, -, -, failed⟩
  · rw [none] at adds
    cases adds
  · rw [failed]

/-! ## What adding a route changes -/

@[simp] theorem settings_adding (r : Router) (route : Route) :
    (r.adding route).settings = r.settings := by
  unfold adding
  split <;> rfl

@[simp] theorem table_adding (r : Router) (route : Route) :
    (r.adding route).table = r.table ++ [route] := by
  unfold adding
  split <;> rfl

theorem endpoint?_file (r : Router) (key method : String) (e : Endpoint) (path asked : String) :
    (r.file key method e).endpoint? path asked
      = if path = key ∧ Text.upper asked = method then some e else r.endpoint? path asked := by
  unfold endpoint? file
  dsimp only
  rw [ByName.get?_insert]
  by_cases here : path = key
  · subst here
    rw [if_pos rfl, Option.bind_some, ByName.get?_insert]
    by_cases same : Text.upper asked = method
    · rw [if_pos same, if_pos ⟨rfl, same⟩]
    · rw [if_neg same, if_neg fun both => same both.2]
      cases r.endpoints.get? path <;> rfl
  · rw [if_neg here, if_neg fun both => here both.1]

end Router

/-! ## How endpoints are filed -/

/-- Endpoints are filed under methods in upper case that routers accept, and no path is there
without a method. -/
def Endpoints.WellFiled (endpoints : Endpoints) : Prop :=
  ∀ path file, endpoints.get? path = some file →
    file.isEmpty = false ∧ ∀ method e, file.get? method = some e → method ∈ methods.map Text.upper

theorem Endpoints.WellFiled.file {r : Router} (h : Endpoints.WellFiled r.endpoints)
    {key method : String} (known : method ∈ methods.map Text.upper) (e : Endpoint) :
    Endpoints.WellFiled (r.file key method e).endpoints := by
  intro path file filed
  unfold Router.file at filed
  dsimp only at filed
  rw [ByName.get?_insert] at filed
  split at filed
  · obtain rfl := Option.some.inj filed
    refine ⟨ByName.isEmpty_insert _ _ _, fun other e' filed => ?_⟩
    rw [ByName.get?_insert] at filed
    split at filed
    · rename_i same
      rw [same]
      exact known
    · cases before : r.endpoints.get? key with
      | none =>
        rw [before] at filed
        cases filed
      | some old =>
        rw [before] at filed
        exact (h key old before).2 other e' filed
  · exact h path file filed

/-- What is filed is found by the method that it is filed under. -/
theorem Endpoints.WellFiled.endpoint? {r : Router} (h : Endpoints.WellFiled r.endpoints)
    {path method : String} {file : ByName Endpoint} {e : Endpoint}
    (there : r.endpoints.get? path = some file) (filed : file.get? method = some e) :
    r.endpoint? path method = some e := by
  unfold Router.endpoint?
  rw [there, Option.bind_some, upper_of_mem_methods ((h path file there).2 method e filed)]
  exact filed

/-! ## All calls -/

namespace Router

/-- A router holds what calls have left behind, and nothing else: their routes in the table, behind
those that it started with, and for a path and a method the endpoint of the last call that filed one
there. -/
structure Reflects (settings : Settings) (start : RouteTable) (calls : List Call) (r : Router) :
    Prop where
  unchanged : r.settings = settings
  table : r.table = start ++ calls.filterMap (Call.route? settings)
  endpoint : ∀ path method,
    r.endpoint? path method = (calls.filterMap (Call.filed? settings path method)).getLast?
  wellFiled : Endpoints.WellFiled r.endpoints

variable {r : Router} {call : Call} {route : Route} {settings : Settings} {start : RouteTable}
  {calls : List Call}

theorem endpoint?_adding (adds : call.route? r.settings = some route) (path method : String) :
    (r.adding route).endpoint? path method
      = (call.filed? r.settings path method).or (r.endpoint? path method) := by
  unfold Call.filed? adding
  rw [adds, Option.bind_some]
  cases route.guard with
  | none =>
    rw [Option.map_none, ite_self]
    rfl
  | some guard =>
    show (r.file (r.endpointPath route.path) route.method guard.endpoint).endpoint? path method = _
    rw [endpoint?_file]
    unfold endpointPath
    split
    · rfl
    · rfl

theorem wellFiled_adding (h : Endpoints.WellFiled r.endpoints)
    (adds : call.route? r.settings = some route) :
    Endpoints.WellFiled (r.adding route).endpoints := by
  unfold adding
  split
  · exact h
  · exact h.file (Call.adds_of_route adds).method_mem _

/-- One call more: a call that fails leaves nothing behind, and one that succeeds its route and,
with a plan, its endpoint in place of an earlier one. -/
theorem Reflects.after (h : r.Reflects settings start calls) (call : Call) :
    (r.after call).Reflects settings start (calls ++ [call]) := by
  obtain ⟨rfl, table, endpoint, wellFiled⟩ := h
  cases adds : call.route? r.settings with
  | none =>
    have unfiled : ∀ path method, call.filed? r.settings path method = none := by
      intro path method
      unfold Call.filed?
      rw [adds, Option.bind_none]
    rw [after_of_none adds]
    refine ⟨rfl, ?_, fun path method => ?_, wellFiled⟩
    · simpa [adds] using table
    · simpa [unfiled] using endpoint path method
  | some route =>
    rw [after_of_route adds]
    refine ⟨settings_adding r route, ?_, fun path method => ?_, wellFiled_adding wellFiled adds⟩
    · simp [adds, table]
    · rw [endpoint?_adding adds, endpoint, List.filterMap_append, List.getLast?_append]
      cases filed : call.filed? r.settings path method with
      | none =>
        rw [List.filterMap_cons_none filed]
        rfl
      | some e =>
        rw [List.filterMap_cons_some filed]
        rfl

theorem Reflects.afterAll (h : r.Reflects settings start calls) (later : List Call) :
    (r.afterAll later).Reflects settings start (calls ++ later) := by
  induction later generalizing r calls with
  | nil =>
    rw [List.append_nil]
    exact h
  | cons call later ih =>
    have next := ih (h.after call)
    rw [List.append_assoc] at next
    exact next

theorem reflects_start (settings : Settings) (start : RouteTable) :
    Reflects settings start [] { settings := settings, table := start } where
  unchanged := rfl
  table := (List.append_nil start).symm
  endpoint _ _ := rfl
  wellFiled _ _ filed := by cases filed

theorem settings_after (r : Router) (call : Call) : (r.after call).settings = r.settings := by
  cases adds : call.route? r.settings with
  | none => rw [after_of_none adds]
  | some route => rw [after_of_route adds, settings_adding]

/-- Calls that fail might as well not have been made. -/
theorem afterAll_filter (r : Router) (calls : List Call) :
    r.afterAll calls = r.afterAll (calls.filter (Call.succeeds r.settings)) := by
  induction calls generalizing r with
  | nil => rfl
  | cons call others ih =>
    have rest := ih (r.after call)
    rw [settings_after] at rest
    cases adds : call.route? r.settings with
    | none =>
      have fails : ¬ call.succeeds r.settings := by simp [Call.succeeds, adds]
      rw [List.filter_cons_of_neg fails]
      unfold afterAll at rest ⊢
      rw [List.foldl_cons, rest, after_of_none adds]
    | some route =>
      have goes : call.succeeds r.settings := by simp [Call.succeeds, adds]
      rw [List.filter_cons_of_pos goes]
      exact rest

/-- What a call answers, beside what it leaves behind. -/
theorem register_cases (r : Router) (call : Call) :
    (∃ route events, call.route? r.settings = some route ∧
      r.register call.method call.path call.registration
        = .ok ⟨r.after call, r.table.length, events⟩) ∨
    ∃ error, call.Refused r.settings error ∧
      r.register call.method call.path call.registration = .error error := by
  unfold register after
  rcases r.registering_cases call with ⟨route, events, adds, went⟩ | ⟨error, -, refused, failed⟩
  · rw [went]
    exact .inl ⟨route, events, adds, rfl⟩
  · rw [failed]
    exact .inr ⟨error, refused, rfl⟩

theorem register_eq_error {error : DeclarationError} :
    r.register call.method call.path call.registration = .error error
      ↔ call.Refused r.settings error := by
  rcases r.register_cases call with ⟨route, events, adds, went⟩ | ⟨other, refused, failed⟩
  · rw [went]
    constructor
    · intro impossible
      cases impossible
    · intro refused
      rw [refused.route?] at adds
      cases adds
  · rw [failed]
    constructor
    · intro same
      cases same
      exact refused
    · intro refused'
      rw [refused.unique refused']

/-- **The state of a router is what its successful calls add up to.** Whatever calls were made, the
settings are as they were, the table lists the routes of the calls that succeeded, in order, behind
those that were there before, and for a path and a method stands the endpoint of the last call that
filed one there (`Reflects`). No other endpoint is kept, no path without a method, and methods only
in upper case; and the calls that failed might as well not have been made. One call more answers
with the index at which its route then stands, or it fails, for the reasons of `Refused` only, and
leaves everything as it was. -/
theorem after_calls (settings : Settings) (start : RouteTable) (calls : List Call) :
    let fresh : Router := { settings := settings, table := start }
    let r := fresh.afterAll calls
    r.Reflects settings start calls ∧
      (∀ path file, r.endpoints.get? path = some file →
        file.isEmpty = false ∧ ∀ method e, file.get? method = some e →
          method ∈ methods.map Text.upper ∧ r.endpoint? path method = some e) ∧
      r = fresh.afterAll (calls.filter (Call.succeeds settings)) ∧
      ∀ call : Call,
        (∀ done, r.register call.method call.path call.registration = .ok done →
          done.router = r.after call ∧ done.index = r.table.length ∧
            ∃ route, call.route? settings = some route ∧
              done.router.table[done.index]? = some route) ∧
        (∀ error, r.register call.method call.path call.registration = .error error ↔
          call.Refused settings error) ∧
        ∀ error, call.Refused settings error → r.after call = r := by
  intro fresh r
  have reflects : r.Reflects settings start calls := (reflects_start settings start).afterAll calls
  have same := reflects.unchanged
  refine ⟨reflects, fun path file there => ?_, afterAll_filter fresh calls, fun call => ?_⟩
  · obtain ⟨filled, keys⟩ := reflects.wellFiled path file there
    refine ⟨filled, fun method e filed => ⟨keys method e filed, ?_⟩⟩
    exact reflects.wellFiled.endpoint? there filed
  · rw [← same]
    refine ⟨fun done went => ?_, fun error => register_eq_error, fun error refused => ?_⟩
    · rcases r.register_cases call with ⟨route, events, adds, went'⟩ | ⟨error, -, failed⟩
      · cases went'.symm.trans went
        have placed : (r.after call).table[r.table.length]? = some route := by
          rw [after_of_route adds, table_adding, List.getElem?_concat_length]
        exact ⟨rfl, rfl, route, adds, placed⟩
      · cases failed.symm.trans went
    · exact after_of_none refused.route?

/-- A method that routers do not accept, and a plan that does not compile, come between calls that
succeed. Of the two plans that end up under one path the later stands, though the routes differ in
how they spell it. -/
theorem after_calls_sample :
    let settings : Settings := { mountedAt := some "/api/" }
    let early : Plan := { parameters := [("q", .shorthand "string")] }
    let faulty : Plan := { parameters := [("q", .shorthand "text")] }
    let late : Plan := { parameters := [("page", .shorthand "integer")] }
    let calls : List Call :=
      [⟨"fetch", "/find", .plain []⟩, ⟨"Get", "/find", .planned early []⟩,
       ⟨"get", "/find", .planned faulty []⟩, ⟨"post", "/find", .plain []⟩,
       ⟨"GET", "find", .planned late []⟩]
    let r := ({ settings := settings } : Router).afterAll calls
    r.Reflects settings [] calls ∧
      r.table.map (fun route => (route.method, route.path, route.guard.isSome))
        = [("GET", "/find", true), ("POST", "/find", false), ("GET", "find", true)] ∧
      (r.endpoint? "/api/find" "gEt").map (fun e => e.parameters.map Prod.fst) = some ["page"] ∧
      (r.endpoint? "/api/find" "post").isNone ∧ (r.endpoint? "/find" "get").isNone ∧
      r.register "fetch" "/find" (.plain []) = .error (.unsupportedMethod "fetch") := by
  intro settings early faulty late calls r
  obtain ⟨reflects, -, -, next⟩ := after_calls settings [] calls
  have refused := (next ⟨"fetch", "/find", .plain []⟩).2.1 (.unsupportedMethod "fetch")
  refine ⟨reflects, ?_, ?_, ?_, ?_, refused.2 (.unsupported ?_)⟩
  all_goals
    subst r calls early faulty late settings
    decide

end Router
end RequestParams
