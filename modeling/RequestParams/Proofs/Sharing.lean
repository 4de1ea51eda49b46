import Mathlib.Data.Set.Function
import RequestParams.Proofs.CentralVerification

/-!
# Routes that share an endpoint

A route keeps its path as it was registered, but its endpoint is filed, looked up and documented
under the path below the mount. Routes of one method share an endpoint exactly if their paths come
to the same there, that is, if they are one path or, below more than slashes, two spellings of it
(`Path.Shared`).

So what central verification does can be read off the table without joining a path: of all guards
whose route has the method and shares the path, it asks the last
(`Router.Reflects.verifyRequest_eq_latest`).
-/

set_option autoImplicit false

namespace RequestParams

/-! ## Spellings below a mount -/

namespace Path

variable {base p q : String}

theorem shared_of_onlySlashes (bare : OnlySlashes base) : Shared base p q ↔ p = q := by
  simp [Shared, bare]

theorem shared_of_mount (mount : ¬ OnlySlashes base) :
    Shared base p q ↔ p = q ∨ Respelled p q ∨ Respelled q p := by
  simp [Shared, mount]

/-- Of two spellings of one path only one has a slash at its start. -/
theorem Shared.eq_of_rooted (same : Shared base p q) (first : p.toList.head? = some '/')
    (second : q.toList.head? = some '/') : p = q := by
  rcases same with eq | ⟨-, respelled | respelled⟩
  · exact eq
  · exact absurd first respelled.1
  · exact absurd second respelled.1

/-- A slash in front of a path is a matter of spelling if the path has none yet. -/
theorem shared_slash_iff :
    Shared base p ("/" ++ p) ↔ ¬ OnlySlashes base ∧ p.toList.head? ≠ some '/' := by
  have slashed : ("/" ++ p).toList = '/' :: p.toList := String.toList_append
  constructor
  · rintro (eq | ⟨mount, respelled | respelled⟩)
    · have shorter := congrArg List.length (congrArg String.toList eq)
      rw [slashed] at shorter
      simp at shorter
    · exact ⟨mount, respelled.1⟩
    · rw [Respelled, slashed] at respelled
      exact absurd rfl respelled.1
  · rintro ⟨mount, lacks⟩
    exact .inr ⟨mount, .inl ⟨lacks, slashed⟩⟩

end Path

/-! ## The guard that is asked -/

/-- The guard that a route has for a request, if the route has the method of the request, in any
case, and its path is that of the request below the mount. -/
def Route.guardFor? (settings : Settings) (request : Request) (route : Route) : Option Guard :=
  if Text.upper request.method = route.method ∧
      Path.Shared (settings.mountedAt.getD "") route.path request.path then
    route.guard
  else none

theorem Route.eq_key_iff {settings : Settings} {route : Route} {path : String} :
    Path.join (settings.mountedAt.getD "") path = route.key settings ↔
      Path.Shared (settings.mountedAt.getD "") route.path path :=
  eq_comm.trans (Path.join_eq_join_iff _ _ _)

/-- What a route files for a request is the endpoint of the guard that it has for it. -/
theorem Call.Adds.handle_filed? {settings : Settings} {call : Call} {route : Route}
    (h : call.Adds settings route) (request : Request) :
    (route.filed? settings (Path.join (settings.mountedAt.getD "") request.path)
        request.method).map (·.handle settings.diagnostics request)
      = (route.guardFor? settings request).map (·.check request) := by
  have asks : Path.join (settings.mountedAt.getD "") request.path = route.key settings ∧
        Text.upper request.method = route.method ↔
      Text.upper request.method = route.method ∧
        Path.Shared (settings.mountedAt.getD "") route.path request.path :=
    and_comm.trans (and_congr_right' Route.eq_key_iff)
  unfold Route.filed? Route.guardFor?
  -- Each side decides its own condition, so neither is rewritten into the other.
  by_cases asked : Text.upper request.method = route.method ∧
      Path.Shared (settings.mountedAt.getD "") route.path request.path
  · rw [if_pos (asks.2 asked), if_pos asked]
    cases guarded : route.guard with
    | none => rfl
    | some guard => exact congrArg some (h.check_eq guarded request).symm
  · rw [if_neg (mt asks.1 asked), if_neg asked]
    rfl

namespace Router

variable {r : Router} {settings : Settings} {calls : List Call}

/-- Central verification asks the last guard of the table that is there for the request. -/
theorem Reflects.verifyRequest_eq_latest (h : r.Reflects settings [] calls) (request : Request) :
    r.verifyRequest request
      = (r.table.filterMap (Route.guardFor? settings request)).getLast?.map
        (·.check request) := by
  have listed : calls.filterMap (Call.route? settings) = r.table := by
    rw [h.table, List.nil_append]
  unfold verifyRequest endpointPath
  rw [h.unchanged, h.endpoint, Call.filterMap_filed?, listed, ← List.getLast?_map,
    ← List.getLast?_map, List.map_filterMap, List.map_filterMap]
  refine congrArg List.getLast? (List.filterMap_congr fun route member => ?_)
  obtain ⟨call, -, adds⟩ := h.mem_table_iff.1 member
  exact (Call.adds_of_route adds).handle_filed? request

/-- **Which routes share an endpoint.** Below slashes alone paths come to the same only if they are
equal, and below any other mount also if one of them is the other with the slash at its start that
it lacks. So a slash may be put in front of a path that has none, below such a mount, and of paths
with a slash at their start no two come to the same. Documentation puts a mount in front of the path
below the mount, and what counts there is whether either of the two is more than slashes. Whatever
calls were made, the endpoint by which a request is verified centrally is that of the last guard in
the table whose route has the method of the request and, below the mount, its path. -/
theorem endpoint_by_spelling :
    (∀ base p q,
      (Path.OnlySlashes base → (Path.join base p = Path.join base q ↔ p = q)) ∧
      (¬ Path.OnlySlashes base →
        (Path.join base p = Path.join base q ↔
          p = q ∨ Path.Respelled p q ∨ Path.Respelled q p))) ∧
    (∀ base p, Path.join base p = Path.join base ("/" ++ p) ↔
      ¬ Path.OnlySlashes base ∧ p.toList.head? ≠ some '/') ∧
    (∀ base, Set.InjOn (Path.join base) {p | p.toList.head? = some '/'}) ∧
    (∀ (r : Router) mount p q,
      Path.join (r.docBase mount) (r.endpointPath p) = Path.join (r.docBase mount) (r.endpointPath q)
        ↔ p = q ∨
          ¬ (Path.OnlySlashes (r.docBase mount) ∧
            Path.OnlySlashes (r.settings.mountedAt.getD "")) ∧
          (Path.Respelled p q ∨ Path.Respelled q p)) ∧
    ∀ (settings : Settings) (calls : List Call) (request : Request),
      let r := ({ settings := settings } : Router).afterAll calls
      r.verifyRequest request
        = (r.table.filterMap (Route.guardFor? settings request)).getLast?.map
          (·.check request) := by
  refine ⟨fun base p q => ⟨fun bare => ?_, fun mount => ?_⟩, fun base p => ?_, fun base => ?_,
    fun r mount p q => ?_, fun settings calls request => ?_⟩
  · rw [Path.join_eq_join_iff, Path.shared_of_onlySlashes bare]
  · rw [Path.join_eq_join_iff, Path.shared_of_mount mount]
  · rw [Path.join_eq_join_iff, Path.shared_slash_iff]
  · intro p first q second same
    exact ((Path.join_eq_join_iff _ _ _).1 same).eq_of_rooted first second
  · unfold endpointPath
    rw [Path.join_join, Path.join_join, Path.join_eq_join_iff, Path.Shared,
      Path.onlySlashes_join]
  · exact ((reflects_start settings []).afterAll calls).verifyRequest_eq_latest request

/-- The root and the empty path, and two spellings of one path, come to the same below a mount; a
second slash makes another path, and below slashes alone so does the first. A plan for the other
spelling of a path takes the place of the one that was there, and a plan for the path with a second
slash does not. -/
theorem endpoint_by_spelling_sample :
    (¬ Path.OnlySlashes "/api/" ∧ Path.join "/api/" "" = Path.join "/api/" "/" ∧
      Path.join "/api/" "a" = Path.join "/api/" "/a" ∧
      Path.join "/api/" "/" ≠ Path.join "/api/" "//" ∧
      Path.join "/api/" "/a" ≠ Path.join "/api/" "//a") ∧
    (Path.OnlySlashes "//" ∧ Path.join "//" "a" ≠ Path.join "//" "/a") ∧
    let plan (text : String) : Plan := { parameters := [("q", .shorthand text)] }
    let calls : List Call :=
      [⟨"get", "/find", .planned (plan "bool") []⟩, ⟨"get", "find", .planned (plan "string") []⟩,
        ⟨"get", "//find", .planned (plan "integer") []⟩]
    let r := ({ settings := { mountedAt := some "/api/" } } : Router).afterAll calls
    let request : Request := .ofBags "Get" "/find" [("query", .ofPairs ["q"] [("q", .single "a")])]
    ∃ guard, (r.table.map Route.guard)[1]? = some (some guard) ∧
      r.verifyRequest request = some (guard.check request) ∧
      (guard.check request).verdict = .proceed := by
  obtain ⟨spellings, -, rooted, -, latest⟩ := endpoint_by_spelling
  have mount : ¬ Path.OnlySlashes "/api/" := by decide
  have bare : Path.OnlySlashes "//" := by decide
  refine ⟨⟨mount, ?_, ?_, ?_, ?_⟩, ⟨bare, ?_⟩, ?_⟩
  · exact ((spellings "/api/" "" "/").2 mount).2 (by decide)
  · exact ((spellings "/api/" "a" "/a").2 mount).2 (by decide)
  · exact (rooted "/api/").ne rfl rfl (by decide)
  · exact (rooted "/api/").ne rfl rfl (by decide)
  · exact mt ((spellings "//" "a" "/a").1 bare).1 (by decide)
  · intro plan calls r request
    have verified := latest { mountedAt := some "/api/" } calls request
    obtain ⟨guard, second, asked, proceeds⟩ : ∃ guard,
        (r.table.map Route.guard)[1]? = some (some guard) ∧
        (r.table.filterMap (Route.guardFor? { mountedAt := some "/api/" } request)).getLast?
          = some guard ∧
        (guard.check request).verdict = .proceed := by
      subst r calls plan request
      exact ⟨_, rfl, rfl, rfl⟩
    refine ⟨guard, second, ?_, proceeds⟩
    rw [verified, asked, Option.map_some]

end Router
end RequestParams
