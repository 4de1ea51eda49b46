import RequestParams.Proofs.Paths
import RequestParams.Router.History

/-!
# What the documentation of all endpoints covers

The documentation is put together path by path, each path joined to a base. Endpoints are kept
without an order, so they may be listed in any: the statements are about every listing of them
(`ApiDoc.ofListing`).

Joining keeps paths apart unless they are two spellings of one path below a base that is more than
slashes (`Path.join_eq_join_iff`). A path that is stored in one spelling (`Endpoints.Single`) is
documented with all its methods, whatever the order. Of two spellings the one that is listed later
takes the place of the other, with everything that is filed under it.
-/

set_option autoImplicit false

namespace RequestParams

/-! ## One listing -/

/-- The documentation of the endpoints of one path. -/
def Endpoints.docs (file : ByName Endpoint) : ByName EndpointDoc := file.map fun _ e => e.doc

namespace ApiDoc

variable {base path : String} {listing : List (String × ByName Endpoint)}

theorem endpoint?_of_docs {doc : ApiDoc} {file : ByName Endpoint}
    (documented : doc.get? path = some (Endpoints.docs file)) (method : String) :
    doc.endpoint? path method = (file.get? method).map Endpoint.doc := by
  unfold endpoint?
  rw [documented, Option.bind_some, Endpoints.docs, ByName.get?_map]

/-- What is documented under a path: the endpoints of the last listed path that comes to it. -/
theorem get?_ofListing_eq_some {docs : ByName EndpointDoc} :
    (ofListing base listing).get? path = some docs ↔
      ∃ before p file after, listing = before ++ (p, file) :: after ∧ Path.join base p = path ∧
        (∀ later ∈ after, Path.join base later.1 ≠ path) ∧ docs = Endpoints.docs file := by
  unfold ofListing
  rw [ByName.get?_ofList_eq_some]
  constructor
  · rintro ⟨_, _, split, last⟩
    obtain ⟨before, rest, rfl, rfl, eq⟩ := List.map_eq_append_iff.1 split
    obtain ⟨⟨p, file⟩, after, rfl, same, rfl⟩ := List.map_eq_cons_iff.1 eq
    cases same
    refine ⟨before, p, file, after, rfl, rfl, fun later member same => last ?_, rfl⟩
    rw [List.map_map]
    exact List.mem_map.2 ⟨later, member, same⟩
  · rintro ⟨before, p, file, after, rfl, rfl, last, rfl⟩
    refine ⟨_, _, List.map_append, fun member => ?_⟩
    rw [List.map_map] at member
    obtain ⟨later, listed, same⟩ := List.mem_map.1 member
    exact last later listed same

/-- A listed path is documented, be it with what another one that comes to the same has on file. -/
theorem isSome_get?_ofListing {p : String} {file : ByName Endpoint} (listed : (p, file) ∈ listing) :
    ((ofListing base listing).get? (Path.join base p)).isSome = true := by
  refine Option.isSome_iff_ne_none.2 fun none => ?_
  unfold ofListing at none
  rw [ByName.get?_ofList_last, ByName.lookup_eq_none_iff_not_mem, List.map_reverse,
    List.mem_reverse, List.map_map] at none
  exact none (List.mem_map.2 ⟨(p, file), listed, rfl⟩)

end ApiDoc

/-! ## Paths that are stored in one spelling -/

/-- No other path with endpoints is a second spelling of this one, so far as the base lets spellings
count. -/
def Endpoints.Single (endpoints : Endpoints) (base p : String) : Prop :=
  Path.OnlySlashes base ∨
    ∀ q, endpoints.contains q = true → ¬ Path.Respelled p q ∧ ¬ Path.Respelled q p

theorem Endpoints.Single.eq_of_join_eq {endpoints : Endpoints} {base p q : String}
    (single : endpoints.Single base p) (there : endpoints.contains q = true)
    (same : Path.join base q = Path.join base p) : q = p := by
  rcases (Path.join_eq_join_iff base q p).1 same with eq | ⟨more, respelled⟩
  · exact eq
  · rcases single with bare | apart
    · exact absurd bare more
    · rcases respelled with respelled | respelled
      · exact absurd respelled (apart q there).2
      · exact absurd respelled (apart q there).1

namespace Endpoints

variable {endpoints : Endpoints} {listing : List (String × ByName Endpoint)} {base p : String}
  {file : ByName Endpoint}

theorem mem_listing_iff (any : listing.Perm endpoints.entries) :
    (p, file) ∈ listing ↔ endpoints.get? p = some file := by
  rw [any.mem_iff, ByName.mem_entries_iff]

/-- What is documented under a path is on file under a path that comes to it. -/
theorem exists_of_documented (any : listing.Perm endpoints.entries) {path : String}
    {docs : ByName EndpointDoc}
    (documented : (ApiDoc.ofListing base listing).get? path = some docs) :
    ∃ p file, endpoints.get? p = some file ∧ Path.join base p = path ∧
      docs = Endpoints.docs file := by
  obtain ⟨before, p, file, after, split, comes, -, eq⟩ := ApiDoc.get?_ofListing_eq_some.1 documented
  have listed : (p, file) ∈ listing := by simp [split]
  exact ⟨p, file, (mem_listing_iff any).1 listed, comes, eq⟩

theorem Single.documented (single : endpoints.Single base p)
    (any : listing.Perm endpoints.entries) (there : endpoints.get? p = some file) :
    (ApiDoc.ofListing base listing).get? (Path.join base p) = some (Endpoints.docs file) := by
  have listed := (mem_listing_iff any).2 there
  have some : ((ApiDoc.ofListing base listing).get? (Path.join base p)).isSome = true :=
    ApiDoc.isSome_get?_ofListing listed
  obtain ⟨docs, documented⟩ := Option.isSome_iff_exists.1 some
  obtain ⟨q, other, stored, same, rfl⟩ := exists_of_documented any documented
  obtain rfl := single.eq_of_join_eq (by simp [ByName.contains, stored]) same
  cases there.symm.trans stored
  exact documented

/-- If every path is stored in one spelling, all listings come to the same. -/
theorem ofListing_eq (single : ∀ p, endpoints.contains p = true → endpoints.Single base p)
    (any : listing.Perm endpoints.entries) :
    ApiDoc.ofListing base listing = ApiDoc.ofEndpoints base endpoints := by
  refine ByName.ext_get? fun path => Option.ext fun docs => ?_
  constructor
  all_goals
    intro documented
  · obtain ⟨p, file, there, rfl, rfl⟩ := exists_of_documented any documented
    have stored : endpoints.contains p = true := by simp [ByName.contains, there]
    exact (single p stored).documented (.refl _) there
  · obtain ⟨p, file, there, rfl, rfl⟩ := exists_of_documented (.refl _) documented
    have stored : endpoints.contains p = true := by simp [ByName.contains, there]
    exact (single p stored).documented any there

end Endpoints

namespace Router

/-- **The documentation of all endpoints.** In whatever order the endpoints are listed, everything
that is documented is on file under a path that comes to it, and an endpoint whose path is stored in
one spelling is documented under that path joined to the base. If this is so for all paths, the
order makes no difference. In general the endpoints of the path that is listed last are documented,
and they alone: another spelling of it is lost with all its methods. -/
theorem apiDoc_documents (r : Router) (mount : Option String)
    {listing : List (String × ByName Endpoint)} (any : listing.Perm r.endpoints.entries) :
    let base := r.docBase mount
    let doc := ApiDoc.ofListing base listing
    (∀ p file method e, r.endpoints.get? p = some file → file.get? method = some e →
      r.endpoints.Single base p → doc.endpoint? (Path.join base p) method = some e.doc) ∧
    (∀ path method d, doc.endpoint? path method = some d →
      ∃ p file e, r.endpoints.get? p = some file ∧ file.get? method = some e ∧
        Path.join base p = path ∧ e.doc = d) ∧
    (∀ path, doc.contains path = true →
      ∃ p, r.endpoints.contains p = true ∧ Path.join base p = path) ∧
    ((∀ p, r.endpoints.contains p = true → r.endpoints.Single base p) →
      doc = r.apiDoc mount) ∧
    ∀ before p file after, listing = before ++ (p, file) :: after →
      (∀ later ∈ after, Path.join base later.1 ≠ Path.join base p) →
      ∀ method, doc.endpoint? (Path.join base p) method
        = (file.get? method).map Endpoint.doc := by
  intro base doc
  refine ⟨?_, ?_, ?_, fun single => Endpoints.ofListing_eq single any, ?_⟩
  · intro p file method e there filed single
    rw [ApiDoc.endpoint?_of_docs (single.documented any there), filed, Option.map_some]
  · intro path method d documented
    obtain ⟨docs, here, -⟩ := Option.bind_eq_some_iff.1 documented
    obtain ⟨p, file, there, comes, rfl⟩ := Endpoints.exists_of_documented any here
    rw [ApiDoc.endpoint?_of_docs here] at documented
    obtain ⟨e, filed, eq⟩ := Option.map_eq_some_iff.1 documented
    exact ⟨p, file, e, there, filed, comes, eq⟩
  · intro path here
    obtain ⟨docs, here⟩ := Option.isSome_iff_exists.1 here
    obtain ⟨p, file, there, comes, -⟩ := Endpoints.exists_of_documented any here
    exact ⟨p, by simp [ByName.contains, there], comes⟩
  · intro before p file after split last
    exact ApiDoc.endpoint?_of_docs
      (ApiDoc.get?_ofListing_eq_some.2 ⟨before, p, file, after, split, rfl, last, rfl⟩)

/-- Two paths, one of them without a slash at its start, listed the other way round. -/
theorem apiDoc_documents_sample :
    let plan (text : String) : Plan := { description := some text }
    let calls : List Call :=
      [⟨"get", "/find", .planned (plan "search") []⟩, ⟨"post", "echo", .planned (plan "echo") []⟩]
    let r := ({ settings := {} } : Router).afterAll calls
    let listing := r.endpoints.entries.reverse
    let doc := ApiDoc.ofListing (r.docBase (some "/v1/")) listing
    listing.Perm r.endpoints.entries ∧ doc = r.apiDoc (some "/v1/") ∧
      (doc.endpoint? "/v1/find" "GET").map EndpointDoc.description = some (some "search") ∧
      (doc.endpoint? "/v1/echo" "POST").map EndpointDoc.description = some (some "echo") := by
  intro plan calls r listing doc
  have any : listing.Perm r.endpoints.entries := List.reverse_perm _
  have base : r.docBase (some "/v1/") = "/v1/" := by
    subst r calls plan
    rfl
  have paths : r.endpoints.names = ["/find", "echo"] := by
    subst r calls plan
    decide
  have single : ∀ p, r.endpoints.contains p = true →
      r.endpoints.Single (r.docBase (some "/v1/")) p := by
    intro p stored
    refine .inr fun q stored' => ?_
    rw [ByName.contains_iff_mem_names, paths] at stored stored'
    have apart := List.all_eq_true.1 (rfl : ["/find", "echo"].all
      (fun p => ["/find", "echo"].all fun q => !decide (Path.Respelled p q)) = true)
    have here := List.all_eq_true.1 (apart p stored) q stored'
    have there := List.all_eq_true.1 (apart q stored') p stored
    exact ⟨by simpa using here, by simpa using there⟩
  have eq : doc = r.apiDoc (some "/v1/") :=
    (r.apiDoc_documents (some "/v1/") any).2.2.2.1 single
  refine ⟨any, eq, ?_, ?_⟩
  all_goals
    rw [eq]
    subst r calls plan
    decide

/-- Endpoints of one path in two spellings: below a mount one of them is not documented, whichever
of the two is listed first. -/
theorem apiDoc_loses_endpoint :
    let calls : List Call := [⟨"get", "/a", .planned {} []⟩, ⟨"post", "a", .planned {} []⟩]
    let r := ({ settings := {} } : Router).afterAll calls
    (r.endpoint? "/a" "GET").isSome = true ∧ (r.endpoint? "a" "POST").isSome = true ∧
      Path.join (r.docBase (some "/m")) "/a" = "/m/a" ∧
      Path.join (r.docBase (some "/m")) "a" = "/m/a" ∧
      ∀ listing, listing.Perm r.endpoints.entries →
        let doc := ApiDoc.ofListing (r.docBase (some "/m")) listing
        ¬ ((doc.endpoint? "/m/a" "GET").isSome = true ∧
          (doc.endpoint? "/m/a" "POST").isSome = true) := by
  intro calls r
  refine ⟨by decide, by decide, by decide, by decide, fun listing any => ?_⟩
  intro doc
  rintro ⟨get, post⟩
  unfold ApiDoc.endpoint? at get post
  cases here : doc.get? "/m/a" with
  | none =>
    rw [here] at get
    cases get
  | some docs =>
    -- Both methods would have to be on file under one spelling.
    obtain ⟨p, file, there, -, rfl⟩ := Endpoints.exists_of_documented any here
    rw [here, Option.bind_some, Endpoints.docs, ByName.get?_map, Option.isSome_map] at get post
    have apart : (r.endpoints.entries.all fun e =>
        !((e.2.get? "GET").isSome && (e.2.get? "POST").isSome)) = true := by decide
    have alone := List.all_eq_true.1 apart (p, file) ((ByName.mem_entries_iff _ p file).2 there)
    simp [get, post] at alone

end Router
end RequestParams
