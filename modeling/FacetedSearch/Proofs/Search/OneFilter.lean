import FacetedSearch.Proofs.Request.Recount
import FacetedSearch.Proofs.Search.Absorb
import FacetedSearch.Session

/-!
# Counting the facets of one filter

Counting the facets of one filter again has four ways to fail.  Before anything is sent, the name
may be that of no filter; after that, the transport may fail, what it brings may be no response, and
the section of the filter may be unreadable.  In all four nothing is left of it, and nobody hears of
it.  Other than a fetch of results, it is not announced as under way, and a failure is not announced
either.

If it succeeds, one filter is another one than before: the one that it is after being refreshed by
itself.  The other filters are not asked.  So what the response says about them is not read, and
may as well be unreadable (`Filter.refresh_congr`).

* `Search.exists_facetRequest`: the request is never rejected;
* `Filter.refresh_congr`: what a filter reads of a response;
* `Search.recount_eq`: the ways in which it can end;
* `Session.recount_touches_one`: what is left of it, and what is heard.
-/

namespace FacetedSearch

/-- A filter reads its own section of a response, and how many results there are. -/
theorem Filter.refresh_congr {flags : Flags} {filter : Filter} {response other : Response}
    (hsection : other.section? filter.name = response.section? filter.name)
    (htotal : other.hits.total = response.hits.total) :
    filter.refresh flags other = filter.refresh flags response := by
  unfold refresh tally
  rw [hsection, htotal]

namespace Search

variable {flags later : Flags} {search : Search} {name : String} {filter : Filter}
  {request : Request}

/-- The request that counts the facets of a filter again is never rejected. -/
theorem exists_facetRequest (flags : Flags) (hget : search.filters.get? name = some filter) :
    ∃ request, search.facetRequest flags name = .ok request := by
  obtain ⟨request, hrequest⟩ := exists_compileFacetsOf flags search.filters.items
    (search.recounted search.options filter)
  refine ⟨request, ?_⟩
  rw [facetRequest, compileRecount_eq search.options hget, hrequest]
  rfl

/-- How counting the facets of a filter again ends, by what the transport brings. -/
theorem recount_eq (transport : Transport) (hget : search.filters.get? name = some filter)
    (hrequest : search.facetRequest flags name = .ok request) :
    search.recount flags later transport name =
      match transport request with
      | .error chain => ⟨[request], .error (.transport chain), search, []⟩
      | .ok document =>
        match Response.ofJson? document with
        | none => ⟨[request], .error .undecodableFacets, search, []⟩
        | some response =>
          match filter.refresh later response with
          | .error cause => ⟨[request], .error (.refreshing cause), search, []⟩
          | .ok next =>
            ⟨[request], .ok (), { search with filters := search.filters.update name fun _ => next },
              [.specific (.facetsRefreshed name next.available.length), .changed .filters]⟩ := by
  have hfilter : search.filter name = .ok filter := by rw [Search.filter, hget]
  rw [recount, hrequest]
  dsimp only
  cases transport request with
  | error chain => rfl
  | ok document =>
    cases hdecoded : Response.ofJson? document with
    | none => simp only [receiveFacets, hdecoded]
    | some response =>
      simp only [receiveFacets, hdecoded, hfilter, Except.bind]
      cases filter.refresh later response <;> rfl

end Search

namespace Session

open Search

/-- **Counting the facets of one filter again touches that filter only.**  A name that no filter
has is refused, and nothing is sent.  Otherwise exactly one request is sent, the one that asks for
the facets of that filter.  If the transport fails, if it brings no response, or if the filter
cannot read its section, the session is the one from before, and nobody hears anything.  If not,
the filter is the one that it is after being refreshed by itself, which differs from the one before
in what is offered and in its totals; the filters before it and behind it, and everything else in
the search, are those from before; and what listeners hear is that the facets were counted, and that
the filters are not what they were.  What the response says about other filters makes no
difference. -/
theorem recount_touches_one {session : Session} (h : session.search.Reachable)
    (flags later : Flags) (transport : Transport) :
    (∀ name, name ∉ session.search.filters.names →
      (session.fetch fun search => search.recount flags later transport name) =
        (.error (.compilingFacets (.unknownFilter name)), [], session)) ∧
    ∀ before filter after, session.search.filters.items = before ++ filter :: after →
      (∃ request, session.search.facetRequest flags filter.name = .ok request ∧
        (session.fetch fun search => search.recount flags later transport filter.name) =
          match transport request with
          | .error chain => (.error (.transport chain), [request], session)
          | .ok document =>
            match Response.ofJson? document with
            | none => (.error .undecodableFacets, [request], session)
            | some response =>
              match filter.refresh later response with
              | .error cause => (.error (.refreshing cause), [request], session)
              | .ok next =>
                (.ok (), [request], session.advance
                  { session.search with filters := ⟨before ++ next :: after⟩ }
                  [.specific (.facetsRefreshed filter.name next.available.length),
                    .changed .filters])) ∧
      ∀ response,
        (∀ next, filter.refresh later response = .ok next →
          filter.Refreshed later response next) ∧
        ∀ other : Response, other.section? filter.name = response.section? filter.name →
          other.hits.total = response.hits.total →
          filter.refresh later other = filter.refresh later response := by
  have hnames : session.search.filters.names.Nodup := h.coherent.names
  refine ⟨fun name hname => ?_, fun before filter after hitems => ⟨?_, fun response =>
    ⟨fun next => Filter.refreshed_of_refresh, fun other => Filter.refresh_congr⟩⟩⟩
  · have hrequest : session.search.facetRequest flags name = .error (.unknownFilter name) :=
      compileRecount_unknown hname []
    rw [Session.fetch, recount, hrequest]
    exact congrArg (fun after => (_, _, after)) session.advance_nil
  · have hmem : filter ∈ session.search.filters.items := by
      rw [hitems]
      exact List.mem_append_right _ List.mem_cons_self
    have hget : session.search.filters.get? filter.name = some filter :=
      (Catalog.get?_eq_some_iff hnames).2 ⟨hmem, rfl⟩
    obtain ⟨request, hrequest⟩ := exists_facetRequest flags hget
    have hupdate : ∀ next : Filter, (session.search.filters.update filter.name fun _ => next) =
        ⟨before ++ next :: after⟩ := fun next => Catalog.update_of_split hnames hitems
    refine ⟨request, hrequest, ?_⟩
    rw [Session.fetch, recount_eq transport hget hrequest]
    cases transport request with
    | error chain => simp only [session.advance_nil]
    | ok document =>
      cases hdecoded : Response.ofJson? document with
      | none => simp only [hdecoded, session.advance_nil]
      | some response =>
        cases hrefresh : filter.refresh later response with
        | error cause => simp only [hdecoded, hrefresh, session.advance_nil]
        | ok next => simp only [hdecoded, hrefresh, hupdate]

/-- The second of three filters holds a selection.  The response has a section for it, one that
cannot be read for the first, and none for the third. -/
theorem recount_touches_one_of_three :
    let author : Filter := .ofKind "author" (.term .default)
    let tag : Filter := .ofKind "tag" (.term .default)
    let year : Filter := { Filter.ofKind "year" (.numeric .default) with
      selected := [.term (.int 5)]
      placeholders := Filter.placeholdersOf (.numeric .default) [.term (.int 5)] }
    let next : Filter := { year with
      available := [⟨.term (.int 5), 2⟩], totalFacets := 1, totalResults := 3 }
    let session : Session := ⟨{ Search.new with filters := ⟨[author, year, tag]⟩ }, ⟨1, [⟨0⟩], []⟩⟩
    let listed := Json.obj [("terms", .arr [.obj [("term", .int 5), ("count", .int 2)]])]
    let transport : Transport := fun _ => .ok (.obj [("hits", .obj [("total", .int 3)]),
      ("facets", .obj [("author", .null), ("year", listed)])])
    session.search.Reachable ∧
      (session.fetch fun search =>
          search.recount (fun _ => true) (fun _ => true) transport "title") =
        (.error (.compilingFacets (.unknownFilter "title")), [], session) ∧
      ∃ request, session.search.facetRequest (fun _ => true) "year" = .ok request ∧
        (session.fetch fun search =>
            search.recount (fun _ => true) (fun _ => true) transport "year") =
          (.ok (), [request], session.advance
            { session.search with filters := ⟨[author, next, tag]⟩ }
            [.specific (.facetsRefreshed "year" 1), .changed .filters]) := by
  intro author tag year next session listed transport
  have hyear : year.Reachable := .select (.ofKind "year" (.numeric .default))
    (show Filter.select _ [.term (.int 5)] = .ok year from rfl)
  have hreach : session.search.Reachable := .call (.replaceFilters [author, year, tag])
    (List.forall_mem_cons.2 ⟨.ofKind _ _, List.forall_mem_cons.2 ⟨hyear,
      List.forall_mem_singleton.2 (.ofKind _ _)⟩⟩) .new
  obtain ⟨hunknown, hnamed⟩ :=
    recount_touches_one hreach (fun _ => true) (fun _ => true) transport
  obtain ⟨⟨request, hrequest, hfetch⟩, -⟩ := hnamed [author] year [tag] rfl
  exact ⟨hreach, hunknown "title" (by decide), request, hrequest, hfetch⟩

end Session
end FacetedSearch
