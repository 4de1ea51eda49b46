import RequestParams.Proofs.Dispatching
import RequestParams.Proofs.Documenting

/-!
# Verifying centrally

A host may leave it to the guards of its table to verify requests, or verify them itself and look
for their handlers then (`Router.verifyRequest`). The two search differently: the table for the
first route with the path as it was registered, the endpoints for what was filed last under the path
below the mount.

They find the same as long as no two registrations have one method and one path below the mount
(`verifyRequest_eq_guard`). A route that is registered again stays behind its first guard in the
table, and has its new endpoint everywhere else (`dispatch_first_verify_last`).
-/

set_option autoImplicit false

namespace RequestParams

/-! ## Asking for a route -/

theorem Route.answersTo_iff {route : Route} {request : Request}
    (known : route.method ∈ methods.map Text.upper) :
    route.answersTo request = true ↔
      Text.upper request.method = route.method ∧ route.path = request.path := by
  unfold answersTo
  rw [Bool.and_eq_true, Text.sameIgnoringCase_iff, upper_of_mem_methods known, beq_iff_eq, eq_comm]

/-- All guards of a router report as its settings say. -/
theorem Call.Adds.check_eq {settings : Settings} {call : Call} {route : Route} {guard : Guard}
    (h : call.Adds settings route) (guarded : route.guard = some guard) (request : Request) :
    guard.check request = guard.endpoint.handle settings.diagnostics request := by
  obtain ⟨plan, -, -, mode⟩ := h.planned_of_guard guarded
  unfold Guard.check
  rw [mode]

/-- A guard comes with a plan only. -/
theorem Call.Adds.guard_eq_none_iff {settings : Settings} {call : Call} {route : Route}
    (h : call.Adds settings route) :
    route.guard = none ↔ call.registration = .plain route.handlers := by
  cases h with
  | plain accepted asked => simp [asked]
  | planned accepted asked compiled => simp [asked]

/-! ## What calls come to at one method and path -/

/-- The path of a route below the mount, under which its endpoint is filed. -/
def Route.key (settings : Settings) (route : Route) : String :=
  Path.join (settings.mountedAt.getD "") route.path

/-- The endpoint that a route files under a path and a method: that of its guard, if the route has
that method and, below the mount, that path. -/
def Route.filed? (settings : Settings) (path method : String) (route : Route) : Option Endpoint :=
  if path = route.key settings ∧ Text.upper method = route.method then
    route.guard.map Guard.endpoint
  else none

theorem Route.filed?_self (settings : Settings) {route : Route}
    (known : route.method ∈ methods.map Text.upper) :
    route.filed? settings (route.key settings) route.method = route.guard.map Guard.endpoint :=
  if_pos ⟨rfl, upper_of_mem_methods known⟩

namespace Call

variable {settings : Settings} {calls : List Call} {call : Call} {route : Route}

/-- What calls file is what the routes file that they add. -/
theorem filterMap_filed? (settings : Settings) (path method : String) (calls : List Call) :
    calls.filterMap (Call.filed? settings path method)
      = (calls.filterMap (Call.route? settings)).filterMap (Route.filed? settings path method) :=
  List.filterMap_filterMap.symm

theorem filed?_of_route (adds : call.route? settings = some route) :
    call.filed? settings (route.key settings) route.method = route.guard.map Guard.endpoint := by
  have files : call.filed? settings (route.key settings) route.method
      = (call.route? settings).bind (Route.filed? settings (route.key settings) route.method) := rfl
  rw [files, adds, Option.bind_some, Route.filed?_self _ (adds_of_route adds).method_mem]

/-- No two of the calls that succeed have one method and, below the mount, one path. -/
def Apart (settings : Settings) (calls : List Call) : Prop :=
  (calls.filterMap (Call.route? settings)).Pairwise fun a b =>
    ¬ (a.method = b.method ∧ a.key settings = b.key settings)

/-- Where calls are apart, a call is the only one that files anything under its path and method. -/
theorem Apart.filed (apart : Apart settings calls) (made : call ∈ calls)
    (adds : call.route? settings = some route) :
    (calls.filterMap (Call.filed? settings (route.key settings) route.method)).getLast?
      = route.guard.map Guard.endpoint := by
  have known := (adds_of_route adds).method_mem
  have member : route ∈ calls.filterMap (Call.route? settings) :=
    List.mem_filterMap.2 ⟨call, made, adds⟩
  unfold Apart at apart
  rw [filterMap_filed?]
  obtain ⟨before, after, split⟩ := List.append_of_mem member
  rw [split] at apart ⊢
  have others : ∀ other ∈ before ++ after,
      other.filed? settings (route.key settings) route.method = none := by
    -- Being apart goes both ways, so the route may just as well come before all others.
    have first := (List.pairwise_middle fun apart same =>
      apart ⟨same.1.symm, same.2.symm⟩).1 apart
    refine fun other member => if_neg fun same => ?_
    rw [upper_of_mem_methods known] at same
    exact (List.pairwise_cons.1 first).1 other member ⟨same.2, same.1⟩
  obtain ⟨earlier, later⟩ := List.forall_mem_append.1 others
  rw [List.filterMap_append, List.filterMap_cons, Route.filed?_self settings known,
    List.filterMap_eq_nil_iff.2 earlier, List.filterMap_eq_nil_iff.2 later]
  cases route.guard <;> rfl

/-- The first route that calls add for a method and a path. -/
def AddedFirst (settings : Settings) (calls : List Call) (method path : String) (route : Route) :
    Prop :=
  ∃ before call after, calls = before ++ call :: after ∧ call.route? settings = some route ∧
    route.method = method ∧ route.path = path ∧
    ∀ earlier ∈ before, ∀ other, earlier.route? settings = some other →
      ¬ (other.method = method ∧ other.path = path)

/-- The endpoint of the last call that files one under a path and a method. -/
def FiledLast (settings : Settings) (calls : List Call) (path method : String) (e : Endpoint) :
    Prop :=
  ∃ before call after, calls = before ++ call :: after ∧
    call.filed? settings path method = some e ∧
    ∀ later ∈ after, later.filed? settings path method = none

theorem filedLast_of_getLast? {path method : String} {e : Endpoint}
    (last : (calls.filterMap (Call.filed? settings path method)).getLast? = some e) :
    FiledLast settings calls path method e := by
  obtain ⟨earlier, split⟩ := List.getLast?_eq_some_iff.1 last
  obtain ⟨before, rest, rfl, -, split⟩ := List.filterMap_eq_append_iff.1 split
  obtain ⟨quiet, call, after, rfl, -, files, none⟩ := List.filterMap_eq_cons_iff.1 split
  refine ⟨before ++ quiet, call, after, ?_, files, fun later member => ?_⟩
  · rw [List.append_assoc]
  · exact List.filterMap_eq_nil_iff.1 none later member

end Call

namespace Router

variable {r : Router} {settings : Settings} {calls : List Call} {request : Request} {route : Route}

theorem endpoint?_upper (r : Router) (path method : String) :
    r.endpoint? path (Text.upper method) = r.endpoint? path method := by
  unfold endpoint?
  rw [Text.upper_upper]

namespace Reflects

theorem mem_table_iff (h : r.Reflects settings [] calls) :
    route ∈ r.table ↔ ∃ call ∈ calls, call.route? settings = some route := by
  rw [h.table, List.nil_append, List.mem_filterMap]

theorem method_mem (h : r.Reflects settings [] calls) (member : route ∈ r.table) :
    route.method ∈ methods.map Text.upper := by
  obtain ⟨call, -, adds⟩ := h.mem_table_iff.1 member
  exact (Call.adds_of_route adds).method_mem

/-- Central verification uses what is on file under the path below the mount. -/
theorem verifyRequest_eq (h : r.Reflects settings [] calls)
    (asks : Text.upper request.method = route.method ∧ route.path = request.path) :
    r.verifyRequest request
      = (r.endpoint? (route.key settings) route.method).map
        (·.handle settings.diagnostics request) := by
  unfold verifyRequest endpointPath Route.key
  rw [h.unchanged, ← asks.1, asks.2, endpoint?_upper]

/-- The table leads to a route of the method and the path that are asked for. -/
theorem asks (h : r.Reflects settings [] calls)
    (found : r.table.find? (·.answersTo request) = some route) :
    Text.upper request.method = route.method ∧ route.path = request.path := by
  have answers : route.answersTo request = true := (List.find?_eq_some_iff_append.1 found).1
  exact (Route.answersTo_iff (h.method_mem (List.mem_of_find?_eq_some found))).1 answers

/-- The table leads to the first route that was added for the method and the path. -/
theorem addedFirst (h : r.Reflects settings [] calls)
    (found : r.table.find? (·.answersTo request) = some route) :
    Call.AddedFirst settings calls route.method route.path route := by
  have answers := h.asks found
  obtain ⟨-, routes, others, split, earlier⟩ := List.find?_eq_some_iff_append.1 found
  rw [h.table, List.nil_append] at split
  obtain ⟨before, rest, rfl, rfl, last⟩ := List.filterMap_eq_append_iff.1 split
  obtain ⟨quiet, call, after, rfl, unadded, adds, -⟩ := List.filterMap_eq_cons_iff.1 last
  refine ⟨before ++ quiet, call, after, ?_, adds, rfl, rfl, ?_⟩
  · rw [List.append_assoc]
  · rintro previous member other adds' ⟨method, path⟩
    rcases List.mem_append.1 member with member | member
    · have answers' : other.answersTo request = true :=
        (Route.answersTo_iff (Call.adds_of_route adds').method_mem).2
          ⟨answers.1.trans method.symm, path.trans answers.2⟩
      have skipped := earlier other (List.mem_filterMap.2 ⟨previous, member, adds'⟩)
      rw [answers'] at skipped
      cases skipped
    · rw [unadded previous member] at adds'
      cases adds'

/-- A request that some route of the table answers to is led to a route of the same method and
path. -/
theorem exists_found (h : r.Reflects settings [] calls) (member : route ∈ r.table)
    (answers : route.answersTo request = true) :
    ∃ first, r.table.find? (·.answersTo request) = some first ∧ first.method = route.method ∧
      first.path = route.path := by
  have asks := (Route.answersTo_iff (h.method_mem member)).1 answers
  have some : ∃ route ∈ r.table, route.answersTo request = true := ⟨route, member, answers⟩
  obtain ⟨first, found⟩ := Option.isSome_iff_exists.1 (List.find?_isSome.2 some)
  have asks' := h.asks found
  exact ⟨first, found, asks'.1.symm.trans asks.1, asks'.2.trans asks.2.symm⟩

end Reflects

/-- **Central verification is what the guard of the route does**, as long as no two registrations
that succeeded have one method and, below the mount, one path. For a request that the table leads to
a route, there is nothing to verify exactly if the route was registered without a plan; otherwise
the outcome is that of the guard: the verdict, the request with what is attached to it, and what is
logged. So a host that verifies centrally and then leaves the request to the handlers does what the
table does. -/
theorem verifyRequest_eq_guard (settings : Settings) {calls : List Call}
    (apart : Call.Apart settings calls) {request : Request} {route : Route}
    (found : (({ settings := settings } : Router).afterAll calls).table.find?
      (·.answersTo request) = some route) :
    let r := ({ settings := settings } : Router).afterAll calls
    (∃ call ∈ calls, call.route? settings = some route ∧
      (r.verifyRequest request = none ↔ call.registration = .plain route.handlers)) ∧
    (∀ guard, route.guard = some guard → r.verifyRequest request = some (guard.check request)) ∧
    (r.verifyRequest request = none →
      r.table.dispatch request = Route.leave request route.handlers []) ∧
    ∀ outcome, r.verifyRequest request = some outcome →
      (∀ reply, outcome.verdict = .respond reply →
        r.table.dispatch request = ⟨some reply, outcome.request, outcome.events, []⟩) ∧
      (outcome.verdict = .proceed →
        r.table.dispatch request
          = Route.leave outcome.request route.handlers outcome.events) := by
  intro r
  have h : r.Reflects settings [] calls := (reflects_start settings []).afterAll calls
  obtain ⟨call, made, adds⟩ := h.mem_table_iff.1 (List.mem_of_find?_eq_some found)
  have added := Call.adds_of_route adds
  have verified : r.verifyRequest request
      = (route.guard.map Guard.endpoint).map (·.handle settings.diagnostics request) := by
    rw [h.verifyRequest_eq (h.asks found), h.endpoint, apart.filed made adds]
  rw [RouteTable.dispatch_of_found found, verified]
  cases guarded : route.guard with
  | none =>
    refine ⟨⟨call, made, adds, ?_⟩, ?_, fun _ => Route.serve_unguarded guarded request, ?_⟩
    · exact ⟨fun _ => added.guard_eq_none_iff.1 guarded, fun _ => rfl⟩
    · intro guard impossible
      cases impossible
    · intro outcome impossible
      cases impossible
  | some guard =>
    have outcome : ((some guard).map Guard.endpoint).map (·.handle settings.diagnostics request)
        = some (guard.check request) := by
      rw [added.check_eq guarded]
      rfl
    rw [outcome]
    refine ⟨⟨call, made, adds, ?_⟩, ?_, ?_, ?_⟩
    · rw [← added.guard_eq_none_iff, guarded]
      simp
    · intro guard' same
      rw [Option.some.inj same]
    · intro impossible
      cases impossible
    · intro outcome same
      obtain rfl := Option.some.inj same
      exact ⟨fun reply responds => Route.serve_responded guarded responds,
        fun proceeds => Route.serve_proceeded guarded proceeds⟩

/-- A route behind a plan, one without, and a method that routers do not accept: a request without
the parameter is refused in either way, and the other route has nothing to verify. -/
theorem verifyRequest_eq_guard_sample :
    let settings : Settings := { mountedAt := some "/api/" }
    let plan : Plan := { parameters := [("q", .shorthand "string")] }
    let calls : List Call :=
      [⟨"fetch", "/find", .plain []⟩, ⟨"get", "find", .planned plan []⟩,
        ⟨"post", "/find", .plain []⟩]
    let r := ({ settings := settings } : Router).afterAll calls
    let asked : Request := .ofBags "gEt" "find" []
    let posted : Request := .ofBags "Post" "/find" []
    Call.Apart settings calls ∧
      (∃ route guard, r.table.find? (·.answersTo asked) = some route ∧ route.guard = some guard ∧
        r.verifyRequest asked = some (guard.check asked) ∧
        (guard.check asked).verdict = .respond ⟨422, none⟩) ∧
      ∃ route, r.table.find? (·.answersTo posted) = some route ∧ r.verifyRequest posted = none := by
  intro settings plan calls r asked posted
  have apart : Call.Apart settings calls := by
    subst calls plan settings
    unfold Call.Apart
    decide
  have guarded : ∃ route guard, r.table.find? (·.answersTo asked) = some route ∧
      route.guard = some guard ∧ (guard.check asked).verdict = .respond ⟨422, none⟩ := by
    subst r calls plan settings asked
    exact ⟨_, _, rfl, rfl, rfl⟩
  have plain : ∃ route, r.table.find? (·.answersTo posted) = some route ∧ route.guard = none := by
    subst r calls plan settings posted
    exact ⟨_, rfl, rfl⟩
  refine ⟨apart, ?_, ?_⟩
  · obtain ⟨route, guard, found, guarded, refused⟩ := guarded
    have same := (verifyRequest_eq_guard settings apart found).2.1 guard guarded
    exact ⟨route, guard, found, guarded, same, refused⟩
  · obtain ⟨route, found, plain⟩ := plain
    obtain ⟨⟨call, made, adds, nothing⟩, -⟩ := verifyRequest_eq_guard settings apart found
    have asked := (Call.adds_of_route adds).guard_eq_none_iff.1 plain
    exact ⟨route, found, nothing.2 asked⟩

/-- **The table keeps to the first registration, everything else to the last.** Let some call have
registered a route with a plan. Whatever else was registered, a request that this route answers to
is sent to the route that was added first for its method and path, whose guard, if it has one, is
enforced. The endpoint that is looked up, documented and used by central verification is the one
that was filed last under that method and the path below the mount. If the two are the same, so is
the outcome. -/
theorem dispatch_first_verify_last (settings : Settings) {calls : List Call} {call : Call}
    (made : call ∈ calls) {route : Route} {guard : Guard}
    (adds : call.route? settings = some route) (guarded : route.guard = some guard)
    {request : Request} (answers : route.answersTo request = true) :
    let r := ({ settings := settings } : Router).afterAll calls
    let key := route.key settings
    ∃ first latest,
      Call.AddedFirst settings calls route.method route.path first ∧
      Call.FiledLast settings calls key route.method latest ∧
      r.table.dispatch request = first.serve request ∧
      r.endpoint? key route.method = some latest ∧
      r.verifyRequest request = some (latest.handle settings.diagnostics request) ∧
      (∀ mount, r.endpoints.Single (r.docBase mount) key →
        (r.apiDoc mount).endpoint? (Path.join (r.docBase mount) key) route.method
          = some latest.doc) ∧
      ∀ enforced, first.guard = some enforced →
        enforced.check request = enforced.endpoint.handle settings.diagnostics request ∧
        (enforced.endpoint = latest → r.verifyRequest request = some (enforced.check request)) := by
  intro r key
  have h : r.Reflects settings [] calls := (reflects_start settings []).afterAll calls
  have known := (Call.adds_of_route adds).method_mem
  have asks := (Route.answersTo_iff known).1 answers
  obtain ⟨first, found, method, path⟩ :=
    h.exists_found (h.mem_table_iff.2 ⟨call, made, adds⟩) answers
  have files : call.filed? settings key route.method = some guard.endpoint := by
    rw [Call.filed?_of_route adds, guarded, Option.map_some]
  obtain ⟨latest, last⟩ :
      ∃ e, (calls.filterMap (Call.filed? settings key route.method)).getLast? = some e :=
    Option.isSome_iff_exists.1
      (List.getLast?_isSome.2 (List.ne_nil_of_mem (List.mem_filterMap.2 ⟨call, made, files⟩)))
  have filed : r.endpoint? key route.method = some latest := (h.endpoint _ _).trans last
  have verified : r.verifyRequest request = some (latest.handle settings.diagnostics request) := by
    rw [h.verifyRequest_eq asks, filed, Option.map_some]
  refine ⟨first, latest, ?_, Call.filedLast_of_getLast? last, RouteTable.dispatch_of_found found,
    filed, verified, ?_, ?_⟩
  · rw [← method, ← path]
    exact h.addedFirst found
  · intro mount single
    obtain ⟨file, there, here⟩ := Option.bind_eq_some_iff.1 filed
    rw [upper_of_mem_methods known] at here
    have documented := single.documented (.refl _) there
    exact (ApiDoc.endpoint?_of_docs documented route.method).trans
      (by rw [here, Option.map_some])
  · intro enforced guarded'
    obtain ⟨call', -, adds'⟩ := h.mem_table_iff.1 (List.mem_of_find?_eq_some found)
    have checks := (Call.adds_of_route adds').check_eq guarded' request
    refine ⟨checks, fun same => ?_⟩
    rw [verified, checks, same]

/-- Three plans for one route, the last of them for another spelling of its path. -/
theorem dispatch_first_verify_last_sample :
    let settings : Settings := { mountedAt := some "/api" }
    let plan (text : String) : Plan := { parameters := [("q", .shorthand text)] }
    let calls : List Call :=
      [⟨"get", "/find", .planned (plan "bool") []⟩, ⟨"post", "/find", .plain []⟩,
        ⟨"get", "/find", .planned (plan "integer") []⟩, ⟨"get", "find", .planned (plan "string") []⟩]
    let r := ({ settings := settings } : Router).afterAll calls
    let request : Request := .ofBags "get" "/find" [("query", .ofPairs ["q"] [("q", .single "a")])]
    ∃ first latest, Call.AddedFirst settings calls "GET" "/find" first ∧
      Call.FiledLast settings calls "/api/find" "GET" latest ∧
      r.table.dispatch request = first.serve request ∧
      (first.serve request).reply = some ⟨422, none⟩ ∧
      r.verifyRequest request = some (latest.handle .disabled request) ∧
      (latest.handle .disabled request).verdict = .proceed := by
  intro settings plan calls r request
  obtain ⟨call, route, guard, made, adds, guarded, answers, method, path⟩ :
      ∃ call route guard, call ∈ calls ∧ call.route? settings = some route ∧
        route.guard = some guard ∧ route.answersTo request = true ∧ route.method = "GET" ∧
        route.path = "/find" := by
    subst calls plan settings request
    exact ⟨_, _, _, List.mem_cons_self, rfl, rfl, rfl, rfl, rfl⟩
  obtain ⟨first, latest, added, filed, sent, stored, verified, -⟩ :=
    dispatch_first_verify_last settings made adds guarded answers
  have key : route.key settings = "/api/find" := by
    unfold Route.key
    rw [path]
    decide
  rw [method, path] at added
  rw [method, key] at filed
  refine ⟨first, latest, added, filed, sent, ?_, verified, ?_⟩
  · rw [← sent]
    subst r calls plan settings request
    rfl
  · have outcome : (r.verifyRequest request).map Outcome.verdict = some .proceed := by
      subst r calls plan settings request
      rfl
    rw [verified] at outcome
    exact Option.some.inj outcome

/-- A route that is registered again with another type: its first guard refuses what the endpoint
that is looked up, and used by central verification, lets proceed. -/
theorem dispatch_keeps_first_guard :
    let plan (text : String) : Plan := { parameters := [("q", .shorthand text)] }
    let calls : List Call :=
      [⟨"get", "/x", .planned (plan "number") []⟩, ⟨"get", "/x", .planned (plan "string") []⟩]
    let r := ({ settings := {} } : Router).afterAll calls
    let request : Request := .ofBags "GET" "/x" [("query", .ofPairs ["q"] [("q", .single "abc")])]
    ∃ route guard latest, r.table.find? (·.answersTo request) = some route ∧
      route.guard = some guard ∧ (guard.check request).verdict = .respond ⟨422, none⟩ ∧
      r.endpoint? "/x" "GET" = some latest ∧ guard.endpoint ≠ latest ∧
      (r.verifyRequest request).map Outcome.verdict = some .proceed := by
  intro plan calls r request
  subst r calls plan request
  refine ⟨_, _, _, rfl, rfl, rfl, rfl, fun same => ?_, rfl⟩
  have types := congrArg (fun e : Endpoint => e.parameters.map fun d => d.2.rule.shape.type) same
  exact absurd types (by decide)

end Router
end RequestParams
