import RequestParams.Proofs.Outcome
import RequestParams.Proofs.Registering

/-!
# Nobody gets past a guard

A handler of a route is an arbitrary function, so that it was not called cannot be read off what it
answers. A dispatch therefore records the turns that handlers had, and the statements are about
these: behind a guard without failure handlers nobody has a turn on a request that does not verify,
and a request that does verify reaches the handlers with its values attached.

`Built.added` says that a table holds nothing but what calls add to it, whatever the history of
calls. `Passes` and `Stops` say what may become of a request that verifies, in terms of what is
attached to it, and `TookTurns` how handlers have their turn.
-/

set_option autoImplicit false

namespace RequestParams

/-! ## What a table holds -/

/-- A guard stands for a plan that was asked for. -/
theorem Call.Adds.planned_of_guard {settings : Settings} {call : Call} {route : Route}
    (h : call.Adds settings route) {guard : Guard} (guarded : route.guard = some guard) :
    ∃ plan, call.registration = .planned plan route.handlers ∧
      Endpoint.ofPlan settings plan = .ok guard.endpoint ∧
      guard.diagnostics = settings.diagnostics := by
  cases h with
  | plain accepted asked => cases guarded
  | planned accepted asked compiled =>
    cases guarded
    exact ⟨_, asked, compiled, rfl⟩

/-- Whatever the history of a table, each of its routes was added by a call. -/
theorem RouteTable.Built.added {table : RouteTable} (built : table.Built) {route : Route}
    (member : route ∈ table) : ∃ settings call, Call.Adds settings call route := by
  induction built with
  | empty => cases member
  | @after r _ call ih =>
    cases adds : call.route? r.settings with
    | none =>
      rw [Router.after_of_none adds] at member
      exact ih member
    | some new =>
      rw [Router.after_of_route adds, Router.table_adding] at member
      rcases List.mem_append.1 member with old | last
      · exact ih old
      · obtain rfl := List.mem_singleton.1 last
        exact ⟨_, call, Call.adds_of_route adds⟩

/-! ## Turns of handlers -/

/-- How handlers have their turn on a request, all on the same one: in order, up to the first that
responds. -/
inductive TookTurns (ready : Request) (handlers : List Handler) :
    Option Reply → List Turn → Prop where
  | passed (proceed : ∀ handler ∈ handlers, handler ready = .proceed) :
      TookTurns ready handlers none (handlers.map fun handler => ⟨handler, ready⟩)
  | answered {before after : List Handler} {handler : Handler} {reply : Reply}
      (order : handlers = before ++ handler :: after)
      (proceed : ∀ earlier ∈ before, earlier ready = .proceed)
      (responds : handler ready = .respond reply) :
      TookTurns ready handlers (some reply)
        ((before ++ [handler]).map fun handler => ⟨handler, ready⟩)

theorem TookTurns.cons {ready : Request} {handler : Handler} {handlers : List Handler}
    {reply : Option Reply} {turns : List Turn} (proceeds : handler ready = .proceed)
    (others : TookTurns ready handlers reply turns) :
    TookTurns ready (handler :: handlers) reply (⟨handler, ready⟩ :: turns) := by
  cases others with
  | passed proceed => exact .passed (List.forall_mem_cons.2 ⟨proceeds, proceed⟩)
  | @answered before after last reply order proceed responds =>
    have longer : handler :: handlers = (handler :: before) ++ last :: after := by
      rw [order, List.cons_append]
    exact .answered longer (List.forall_mem_cons.2 ⟨proceeds, proceed⟩) responds

theorem TookTurns.same_request {ready : Request} {handlers : List Handler} {reply : Option Reply}
    {turns : List Turn} (h : TookTurns ready handlers reply turns) {turn : Turn}
    (member : turn ∈ turns) : turn.request = ready := by
  cases h with
  | passed proceed =>
    obtain ⟨_, _, rfl⟩ := List.mem_map.1 member
    rfl
  | answered order proceed responds =>
    obtain ⟨_, _, rfl⟩ := List.mem_map.1 member
    rfl

theorem Route.takeTurns_tookTurns (ready : Request) (handlers : List Handler) :
    TookTurns ready handlers (takeTurns ready handlers).1 (takeTurns ready handlers).2 := by
  induction handlers with
  | nil => exact .passed (List.forall_mem_nil _)
  | cons handler others ih =>
    unfold takeTurns
    cases verdict : handler ready with
    | proceed => exact .cons verdict ih
    | respond reply => exact @TookTurns.answered _ _ [] _ _ _ rfl (List.forall_mem_nil _) verdict

/-! ## Sending a request through a route -/

namespace Route

variable {route : Route} {guard : Guard} {request : Request}

theorem serve_unguarded (plain : route.guard = none) (request : Request) :
    route.serve request = leave request route.handlers [] := by
  unfold serve
  rw [plain]

theorem serve_responded (guarded : route.guard = some guard) {reply : Reply}
    (responds : (guard.check request).verdict = .respond reply) :
    route.serve request
      = ⟨some reply, (guard.check request).request, (guard.check request).events, []⟩ := by
  unfold serve
  rw [guarded]
  dsimp only
  rw [responds]

theorem serve_proceeded (guarded : route.guard = some guard)
    (proceeds : (guard.check request).verdict = .proceed) :
    route.serve request
      = leave (guard.check request).request route.handlers (guard.check request).events := by
  unfold serve
  rw [guarded]
  dsimp only
  rw [proceeds]

end Route

theorem RouteTable.dispatch_of_found {table : RouteTable} {request : Request} {route : Route}
    (found : table.find? (·.answersTo request) = some route) :
    table.dispatch request = route.serve request := by
  unfold dispatch
  rw [found]

/-! ## Behind a guard -/

namespace Endpoint

/-- An endpoint without a failure handler, be it of a parameter, of its plan or of the settings. -/
structure Unhandled (e : Endpoint) : Prop where
  ofParameter : ∀ declared ∈ e.parameters, declared.2.callbacks.onFailure = none
  ofEndpoint : e.callbacks.onFailure = none

theorem Unhandled.failureHandler? {e : Endpoint} (h : e.Unhandled) (failures : Failures) :
    e.failureHandler? failures = none := by
  unfold Endpoint.failureHandler?
  rw [h.ofEndpoint, List.findSome?_eq_none_iff.2]
  · rfl
  · intro declared member
    dsimp only
    rw [h.ofParameter declared member, ite_self]

variable (e : Endpoint) (asked : Option SuccessHandler) (request : Request) (values : Values)

/-- A request gets past an endpoint: it verifies, its values are attached under the slot, and the
success handler that is asked, if any is, attaches what it likes and lets it proceed. -/
inductive Passes : Request → Prop where
  | unasked {ready : Request} (verified : e.verify request = .ok values) (nobody : asked = none)
      (attached : request.Attached e.slot values ready) : Passes ready
  | proceeds {handler : SuccessHandler} {ready last : Request}
      (verified : e.verify request = .ok values) (asks : asked = some handler)
      (attached : request.Attached e.slot values ready)
      (proceeds : (handler values ready).verdict = .proceed)
      (more : ready.AttachedAll (handler values ready).attachments last) : Passes last

/-- A request is stopped by the success handler that is asked, which sees the values attached. -/
inductive Stops : Reply → Prop where
  | responds {handler : SuccessHandler} {ready : Request} {reply : Reply}
      (verified : e.verify request = .ok values) (asks : asked = some handler)
      (attached : request.Attached e.slot values ready)
      (responds : (handler values ready).verdict = .respond reply) : Stops reply

end Endpoint

/-- What a guard without failure handlers, and with a success handler or none, makes of a request on
its way to the handlers. -/
structure Gated (guard : Guard) (asked : Option SuccessHandler) (handlers : List Handler)
    (request : Request) (sent : Dispatch) : Prop where
  /-- Whoever has a turn sees a request that got past the guard. -/
  turn : ∀ turn ∈ sent.turns, ∃ values, guard.endpoint.Passes asked request values turn.request
  passed : ∀ values ready, guard.endpoint.Passes asked request values ready →
    TookTurns ready handlers sent.reply sent.turns ∧ sent.request = ready
  stopped : ∀ values reply, guard.endpoint.Stops asked request values reply →
    sent.turns = [] ∧ sent.reply = some reply
  verified : ∀ values, guard.endpoint.verify request = .ok values →
    (∃ ready, guard.endpoint.Passes asked request values ready) ∨
      ∃ reply, guard.endpoint.Stops asked request values reply
  refused : ∀ failures, guard.endpoint.verify request = .error failures →
    sent.turns = [] ∧ sent.request.attached = request.attached ∧
      ∃ reply, sent.reply = some reply ∧ reply.status = 422 ∧
        match guard.diagnostics with
        | .disabled => reply.body = none
        | .enabled => ∃ params, ReportedAll failures params ∧
          reply.body = some (.object
            [("error", .string "Required parameters are missing"), ("params", .object params)])

namespace Route

variable {route : Route} {guard : Guard} {request : Request}

theorem serve_refused (guarded : route.guard = some guard) (unhandled : guard.endpoint.Unhandled)
    {failures : Failures} (refused : guard.endpoint.verify request = .error failures) :
    ∃ events, route.serve request
      = ⟨some (refusal failures guard.diagnostics), request, events, []⟩ := by
  obtain ⟨events, handled⟩ := @Endpoint.handle_refused _ guard.diagnostics _ _ refused
  rw [unhandled.failureHandler?] at handled
  have outcome : guard.check request
      = ⟨.respond (refusal failures guard.diagnostics), request, _⟩ := handled
  have served := serve_responded guarded (congrArg Outcome.verdict outcome)
  rw [outcome] at served
  exact ⟨_, served⟩

theorem serve_stopped (guarded : route.guard = some guard) {values : Values} {reply : Reply}
    (stops : guard.endpoint.Stops guard.endpoint.successHandler? request values reply) :
    ∃ ready events, route.serve request = ⟨some reply, ready, events, []⟩ := by
  obtain ⟨verified, asks, attached, responds⟩ := stops
  obtain rfl := Request.attached_iff.1 attached
  obtain ⟨events, handled⟩ := @Endpoint.handle_verified _ guard.diagnostics _ _ verified
  rw [asks] at handled
  have verdict : (guard.check request).verdict = .respond reply :=
    (congrArg Outcome.verdict handled).trans responds
  exact ⟨_, _, serve_responded guarded verdict⟩

theorem serve_passed (guarded : route.guard = some guard) {values : Values} {last : Request}
    (passes : guard.endpoint.Passes guard.endpoint.successHandler? request values last) :
    ∃ events, route.serve request = leave last route.handlers events := by
  cases passes with
  | unasked verified nobody attached =>
    obtain rfl := Request.attached_iff.1 attached
    obtain ⟨events, handled⟩ := @Endpoint.handle_verified _ guard.diagnostics _ _ verified
    rw [nobody] at handled
    have served := serve_proceeded guarded (congrArg Outcome.verdict handled)
    unfold Guard.check at served
    rw [handled] at served
    exact ⟨_, served⟩
  | proceeds verified asks attached proceeds more =>
    obtain rfl := Request.attached_iff.1 attached
    obtain rfl := Request.attachedAll_iff.1 more
    obtain ⟨events, handled⟩ := @Endpoint.handle_verified _ guard.diagnostics _ _ verified
    rw [asks] at handled
    have served := serve_proceeded guarded ((congrArg Outcome.verdict handled).trans proceeds)
    unfold Guard.check at served
    rw [handled] at served
    exact ⟨_, served⟩

/-- A request that verifies gets past the guard or is stopped by the success handler. -/
theorem passes_or_stops {e : Endpoint} (asked : Option SuccessHandler) {values : Values}
    (verified : e.verify request = .ok values) :
    (∃ ready, e.Passes asked request values ready) ∨
      ∃ reply, e.Stops asked request values reply := by
  have attached := request.attached_attach e.slot values
  cases asked with
  | none => exact .inl ⟨_, .unasked verified rfl attached⟩
  | some handler =>
    cases verdict : (handler values (request.attach e.slot values)).verdict with
    | proceed =>
      exact .inl ⟨_, .proceeds verified rfl attached verdict (Request.attachedAll_iff.2 rfl)⟩
    | respond reply => exact .inr ⟨reply, .responds verified rfl attached verdict⟩

theorem serve_gated (guarded : route.guard = some guard) (unhandled : guard.endpoint.Unhandled)
    (request : Request) :
    Gated guard guard.endpoint.successHandler? route.handlers request (route.serve request) where
  turn := by
    intro turn member
    cases verdict : guard.endpoint.verify request with
    | error failures =>
      obtain ⟨events, served⟩ := serve_refused guarded unhandled verdict
      rw [served] at member
      cases member
    | ok values =>
      rcases passes_or_stops guard.endpoint.successHandler? verdict with
        ⟨ready, passes⟩ | ⟨reply, stops⟩
      · obtain ⟨events, served⟩ := serve_passed guarded passes
        rw [served] at member
        have same := (takeTurns_tookTurns ready route.handlers).same_request member
        rw [same]
        exact ⟨values, passes⟩
      · obtain ⟨ready, events, served⟩ := serve_stopped guarded stops
        rw [served] at member
        cases member
  passed := by
    intro values ready passes
    obtain ⟨events, served⟩ := serve_passed guarded passes
    rw [served]
    exact ⟨takeTurns_tookTurns ready route.handlers, rfl⟩
  stopped := by
    intro values reply stops
    obtain ⟨ready, events, served⟩ := serve_stopped guarded stops
    rw [served]
    exact ⟨rfl, rfl⟩
  verified := fun values verified => passes_or_stops guard.endpoint.successHandler? verified
  refused := by
    intro failures refused
    obtain ⟨events, served⟩ := serve_refused guarded unhandled refused
    rw [served]
    exact ⟨rfl, rfl, _, rfl, refusal_reports failures guard.diagnostics⟩

end Route

namespace RouteTable

/-- **Nobody gets past a guard.** In a table made by registrations, whatever their history, a guard
stands for the plan that its route was registered with. If it has no failure handlers, a request
that goes to its route is refused or verified. Where it is refused no handler has a turn, nothing is
attached, and the answer is the fixed refusal. Handlers have their turn only on a request that
verified, with its values attached, and that no success handler answered; then they have it in the
order of registration, up to the first that responds, and that is the reply. -/
theorem dispatch_guarded {table : RouteTable} (built : table.Built) {request : Request}
    {route : Route} (found : table.find? (·.answersTo request) = some route) {guard : Guard}
    (guarded : route.guard = some guard) (unhandled : guard.endpoint.Unhandled) :
    ∃ settings call plan asked, Call.Adds settings call route ∧
      call.registration = .planned plan route.handlers ∧
      Endpoint.ofPlan settings plan = .ok guard.endpoint ∧
      guard.diagnostics = settings.diagnostics ∧
      (∀ handler, Chosen settings plan ownSuccessHandler? Callbacks.onSuccess handler ↔
        handler = asked) ∧
      Gated guard asked route.handlers request (table.dispatch request) := by
  obtain ⟨settings, call, adds⟩ := built.added (List.mem_of_find?_eq_some found)
  obtain ⟨plan, registered, compiled, mode⟩ := adds.planned_of_guard guarded
  refine ⟨settings, call, plan, guard.endpoint.successHandler?, adds, registered, compiled, mode,
    Endpoint.chosen_successHandler? (Endpoint.ofPlan_layers compiled), ?_⟩
  rw [dispatch_of_found found]
  exact Route.serve_gated guarded unhandled request

/-- A call that fails and a plain route of another method come before the guarded route, whose
success handler stops some requests and lets the others proceed. On a request that proceeds the
second handler responds, and the third has no turn; both see the values under the slot of the plan,
the default among them, beside what the success handler and those before it attached. On a request
that is stopped, and on one without a query, nobody has a turn. -/
theorem dispatch_guarded_sample :
    let gate : SuccessHandler := fun values _ =>
      if values.contains "stop" then ⟨.respond ⟨202, none⟩, []⟩
      else ⟨.proceed, [("seen", ByName.empty)]⟩
    let plan : Plan :=
      { parameters := [("q", .shorthand "string"), ("page", .shorthand "string(first)")]
        slot := some "input", callbacks := { onSuccess := some gate } }
    let answer (status : Nat) : Handler := fun _ => .respond ⟨status, none⟩
    let silent : Handler := fun _ => .proceed
    let start : Router := { settings := {} }
    let failed := start.after ⟨"fetch", "/find", .plain [answer 500]⟩
    let posted := failed.after ⟨"post", "/find", .plain [answer 201]⟩
    let r := posted.after ⟨"get", "/find", .planned plan [silent, answer 200, answer 404]⟩
    let request (pairs : List (String × Supplied)) : Request :=
      { Request.ofBags "get" "/find" [("query", .ofPairs (pairs.map Prod.fst) pairs)] with
        attached := ByName.ofList [("user", ByName.empty)] }
    let search := request [("q", .single "lean")]
    let stopped := request [("q", .single "lean"), ("stop", .single "now")]
    let lacking := request [("page", .single "last")]
    let values : Values := ByName.ofList [("q", .text "lean"), ("page", .text "first")]
    ∃ route guard, r.table.Built ∧ route.guard = some guard ∧ guard.endpoint.Unhandled ∧
      (∀ sent ∈ [search, stopped, lacking],
        r.table.find? (·.answersTo sent) = some route ∧
        ∃ asked, Gated guard asked route.handlers sent (r.table.dispatch sent)) ∧
      (r.table.dispatch search).reply.map Reply.status = some 200 ∧
      (r.table.dispatch search).turns.map (·.request.attached)
        = List.replicate 2 (ByName.ofList
            [("user", ByName.empty), ("input", values), ("seen", ByName.empty)]) ∧
      (r.table.dispatch stopped).reply.map Reply.status = some 202 ∧
      (r.table.dispatch stopped).turns.length = 0 ∧
      (r.table.dispatch lacking).reply.map Reply.status = some 422 ∧
      (r.table.dispatch lacking).turns.length = 0 ∧
      (r.table.dispatch lacking).request.attached = lacking.attached := by
  intro gate plan answer silent start failed posted r request search stopped lacking values
  have built : r.table.Built := .after (.after (.after .empty _) _) _
  have outcomes :
      (r.table.dispatch search).reply.map Reply.status = some 200 ∧
        (r.table.dispatch search).turns.map (·.request.attached)
          = List.replicate 2 (ByName.ofList
              [("user", ByName.empty), ("input", values), ("seen", ByName.empty)]) ∧
        (r.table.dispatch stopped).reply.map Reply.status = some 202 ∧
        (r.table.dispatch stopped).turns.length = 0 ∧
        (r.table.dispatch lacking).reply.map Reply.status = some 422 ∧
        (r.table.dispatch lacking).turns.length = 0 ∧
        (r.table.dispatch lacking).request.attached = lacking.attached := by
    decide +kernel
  obtain ⟨route, guard, guarded, unhandled, found⟩ :
      ∃ route guard, route.guard = some guard ∧ guard.endpoint.Unhandled ∧
        ∀ sent ∈ [search, stopped, lacking], r.table.find? (·.answersTo sent) = some route := by
    -- Names for functions would stop the evaluation.
    subst values lacking stopped search request r posted failed start silent answer plan gate
    refine ⟨_, _, rfl, ⟨?_, rfl⟩,
      List.forall_mem_cons.2 ⟨rfl, List.forall_mem_cons.2 ⟨rfl, List.forall_mem_singleton.2 rfl⟩⟩⟩
    intro declared member
    rcases List.mem_cons.1 member with rfl | member
    · rfl
    · obtain rfl := List.mem_singleton.1 member
      rfl
  refine ⟨route, guard, built, guarded, unhandled, fun sent member => ⟨found sent member, ?_⟩,
    outcomes⟩
  obtain ⟨_, _, _, asked, -, -, -, -, -, gated⟩ :=
    dispatch_guarded built (found sent member) guarded unhandled
  exact ⟨asked, gated⟩

end RouteTable
end RequestParams
