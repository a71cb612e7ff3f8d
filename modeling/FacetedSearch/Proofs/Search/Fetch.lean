import FacetedSearch.Proofs.Filter.Reachable
import FacetedSearch.Proofs.Json.Record
import FacetedSearch.Proofs.Request.Build
import FacetedSearch.Search.Fetch

/-!
# What a fetch does

A request for a window says which one, whatever else it asks for: no pass touches the two
members that hold the window.  When the transport brings a response without facet sections,
no filter has anything to refuse, so the response is taken over as it is.  Being marked as
loading in between leaves no trace in what is held.

* `Request.span?`: where the window of a request starts, and how long it is;
* `Hit.Becomes`: what the result of a hit holds;
* `Search.request_spec`: a request for a window compiles, and asks for that window;
* `Search.mapM_refresh_eq_ok_iff`, `Search.absorb_cases`: what becomes of a response;
* `Search.exists_refreshed`: filters take over a response without facet sections;
* `Search.fetch_spec`: one fetch, when a response without facet sections comes back.
-/

namespace FacetedSearch

/-- Where the window of a request starts, and how long it is. -/
def Request.span? (request : Request) : Option (Nat × Nat) :=
  (Window.ofJson? (.obj request)).map fun window => (window.start.toNat, window.size.toNat)

theorem Request.span?_of_get? {request : Request} {window : Window}
    (hstart : Assoc.get? "from" request = some (.ofUInt64 window.start))
    (hsize : Assoc.get? "size" request = some (.ofUInt64 window.size)) :
    request.span? = some (window.start.toNat, window.size.toNat) := by
  have hwindow : Window.ofJson? (.obj request) = some window := by
    simp only [Window.ofJson?, Record.ofJson?, bind, Option.bind, pure,
      Record.required?_byKey _ hstart, Record.required?_byKey _ hsize, Json.toUInt64?_ofUInt64]
  rw [span?, hwindow]
  rfl

/-- What the result of a hit holds: the id of the hit, and as data the fields that were
projected, else the source, else nothing. -/
structure Hit.Becomes (hit : Hit) (result : SearchResult) : Prop where
  id : result.id = hit.id
  data : result.data = match hit.fields, hit.source with
    | some fields, _ => fields
    | none, some source => source
    | none, none => []

/-- A hit says everything about its result. -/
theorem Hit.rightUnique_becomes : Relator.RightUnique Hit.Becomes := by
  rintro hit ⟨id, data⟩ ⟨id', data'⟩ ⟨rfl, hdata⟩ ⟨rfl, hdata'⟩
  exact congrArg (SearchResult.mk hit.id) (hdata.trans hdata'.symm)

theorem Hit.becomes_result (hit : Hit) : hit.Becomes hit.result := by
  refine ⟨rfl, ?_⟩
  unfold Hit.result
  cases hit.fields with
  | some fields => rfl
  | none => cases hit.source <;> rfl

/-- The results of a list of hits hold what each hit says, in order. -/
theorem Hit.becomes_results (hits : List Hit) :
    List.Forall₂ Hit.Becomes hits (hits.map Hit.result) :=
  List.forall₂_map_right_iff.2 (List.forall₂_same.2 fun hit _ => hit.becomes_result)

namespace Search

variable {search : Search} {flags : Flags}

/-! ## The request -/

/-- **A request for a window is never rejected, and asks for that window.** -/
theorem request_spec (flags : Flags) (search : Search) (window : Window) :
    ∃ request, search.request flags (some window) = .ok request ∧
      request.span? = some (window.start.toNat, window.size.toNat) := by
  have hapart : ∀ key ∈ sectionKeys, key ∉ ["from", "size"] := by decide
  have hseed : ∀ key ∈ sectionKeys, Assoc.get? key window.request = none :=
    fun key hkey => Assoc.get?_eq_none_iff.2 (hapart key hkey)
  obtain ⟨request, hcompile, hcompiled⟩ := compile_spec flags search.options search hseed
  refine ⟨request, ?_, ?_⟩
  · show (search.compile flags search.options window.request).mapError Rejection.error =
      .ok request
    rw [hcompile]
    rfl
  · refine Request.span?_of_get? ?_ ?_
    · exact hcompiled.kept "from" (by decide)
    · exact hcompiled.kept "size" (by decide)

/-! ## The response -/

/-- **Reading every section first is the same as refreshing one filter after the other**: it
fails where that fails, and gives each filter what was read for it. -/
theorem mapM_refresh_eq_ok_iff {response : Response} {filters refreshed : List Filter} :
    filters.mapM (fun filter => filter.refresh flags response) = .ok refreshed ↔
      ∃ tallies, filters.mapM (fun filter => filter.tally flags response) = .ok tallies ∧
        refreshed = takeTallies filters tallies := by
  induction filters generalizing refreshed with
  | nil =>
    simp only [Fallible.mapM_eq_ok_iff, List.forall₂_nil_left_iff]
    constructor
    · rintro rfl
      exact ⟨[], rfl, rfl⟩
    · rintro ⟨tallies, rfl, rfl⟩
      rfl
  | cons filter rest ih =>
    simp only [Fallible.mapM_eq_ok_iff, List.forall₂_cons_left_iff] at ih ⊢
    constructor
    · rintro ⟨next, others, hnext, hothers, rfl⟩
      obtain ⟨tally, htally, rfl⟩ := Filter.refresh_eq_ok_iff.1 hnext
      obtain ⟨tallies, htallies, rfl⟩ := ih.1 hothers
      exact ⟨tally :: tallies, ⟨tally, tallies, htally, htallies, rfl⟩, rfl⟩
    · rintro ⟨_, ⟨tally, tallies, htally, htallies, rfl⟩, rfl⟩
      exact ⟨filter.withTally tally, takeTallies rest tallies,
        Filter.refresh_eq_ok_iff.2 ⟨tally, htally, rfl⟩, ih.2 ⟨tallies, htallies, rfl⟩, rfl⟩

/-- A response that every filter can be refreshed with is taken over. -/
theorem absorb_of_refreshed (mode : ResultMode) {document : Json} {response : Response}
    {filters : List Filter} (hread : Response.ofJson? document = some response)
    (hrefreshed :
      search.filters.items.mapM (fun filter => filter.refresh flags response) = .ok filters) :
    search.absorb flags document mode = search.absorbDecoded response filters mode := by
  obtain ⟨tallies, htallies, rfl⟩ := mapM_refresh_eq_ok_iff.1 hrefreshed
  unfold absorb
  rw [hread]
  simp only [htallies]

/-- **What becomes of a document**: it is refused, or it holds a response that every filter is
refreshed with. -/
theorem absorb_cases (flags : Flags) (search : Search) (document : Json) (mode : ResultMode) :
    (∃ error, search.absorb flags document mode = .refuse search error) ∨
      ∃ response filters, Response.ofJson? document = some response ∧
        search.filters.items.mapM (fun filter => filter.refresh flags response) = .ok filters ∧
        search.absorb flags document mode = search.absorbDecoded response filters mode := by
  unfold absorb
  split
  · exact Or.inl ⟨_, rfl⟩
  · next response hread =>
    split
    · exact Or.inl ⟨_, rfl⟩
    · next tallies htallies =>
      exact Or.inr ⟨response, _, hread, mapM_refresh_eq_ok_iff.2 ⟨tallies, htallies, rfl⟩, rfl⟩

/-- A filter takes over a response that says nothing about it. -/
theorem exists_refresh (flags : Flags) (filter : Filter) {response : Response}
    (h : response.facets = []) : ∃ next, filter.refresh flags response = .ok next := by
  have htally : ∃ tally, filter.tally flags response = .ok tally := by
    unfold Filter.tally Response.section?
    rw [h]
    split
    · exact ⟨_, rfl⟩
    · exact ⟨_, rfl⟩
  obtain ⟨tally, htally⟩ := htally
  refine ⟨filter.withTally tally, ?_⟩
  rw [Filter.refresh, htally]
  rfl

theorem exists_refreshed (flags : Flags) (search : Search) {response : Response}
    (h : response.facets = []) :
    ∃ filters, search.filters.items.mapM (fun filter => filter.refresh flags response) =
      .ok filters :=
  Fallible.exists_mapM_eq_ok fun filter _ => exists_refresh flags filter h

/-- What is held of the results after new ones arrived. -/
def resultsAfter (mode : ResultMode) (held arrived : List SearchResult) : List SearchResult :=
  match mode with
  | .replace => arrived
  | .append => held ++ arrived

/-- A response without facet sections is taken over. -/
theorem absorb_spec (flags : Flags) (search : Search) (mode : ResultMode) {document : Json}
    {response : Response} (hread : Response.ofJson? document = some response)
    (hfacets : response.facets = []) :
    (search.absorb flags document mode).answer = .ok () ∧
      (search.absorb flags document mode).search.results =
        resultsAfter mode search.results response.results ∧
      (search.absorb flags document mode).search.totalResults = response.hits.total ∧
      (search.absorb flags document mode).search.pageLength =
        search.pageLength := by
  obtain ⟨filters, hfilters⟩ := exists_refreshed flags search hfacets
  rw [absorb_of_refreshed mode hread hfilters]
  cases mode with
  | replace => exact ⟨rfl, rfl, rfl, rfl⟩
  | append => exact ⟨rfl, rfl, rfl, rfl⟩

/-! ## The fetch -/

/-- Marking a search as loading, or not, changes nothing else. -/
theorem search_markLoading (search : Search) (loading : Bool) :
    (search.markLoading loading).search = { search with loading := loading } := by
  unfold markLoading
  split
  · next h =>
    rw [← h]
    rfl
  · rfl

/-- Unless the fetch is broken off, concluding it takes the mark off. -/
theorem search_conclude (search : Search) (outcome : Except FetchError Unit)
    (hreturns : ∀ error, outcome = .error error → error.breaksOff = false) :
    (search.conclude outcome).1 = { search with loading := false } := by
  unfold conclude
  cases outcome with
  | ok answer => exact search_markLoading search false
  | error error =>
    dsimp only
    rw [hreturns error rfl]
    exact search_markLoading search false

/-- What is sent, how it ends and what is left behind, in terms of what is received. -/
theorem fetch_eq {flags : Flags} (transport : Transport) {window : Option Window}
    (later : Flags) (mode : ResultMode) {request : Request}
    (hrequest : search.request flags window = .ok request) :
    let received :=
      ({ search with loading := true } : Search).receive later mode (transport request)
    (search.fetch flags later transport window mode).requests = [request] ∧
      (search.fetch flags later transport window mode).outcome = received.1 ∧
      (search.fetch flags later transport window mode).search =
        (received.2.1.conclude received.1).1 := by
  unfold fetch
  rw [hrequest]
  simp only [search_markLoading, and_self]

/-- Concluding a fetch touches nothing but the mark. -/
theorem exists_search_conclude (search : Search) (outcome : Except FetchError Unit) :
    ∃ loading, (search.conclude outcome).1 = { search with loading := loading } := by
  unfold conclude
  cases outcome with
  | ok answer => exact ⟨false, search_markLoading search false⟩
  | error error =>
    dsimp only
    split
    · exact ⟨search.loading, rfl⟩
    · exact ⟨false, search_markLoading search false⟩

/-- **What a fetch leaves behind**: the search as it was, if there is no request, or what was
received, marked or not. -/
theorem search_fetch_cases (flags later : Flags) (search : Search) (transport : Transport)
    (window : Option Window) (mode : ResultMode) :
    (search.fetch flags later transport window mode).search = search ∨
      ∃ request loading, (search.fetch flags later transport window mode).search =
        { (({ search with loading := true } : Search).receive later mode
          (transport request)).2.1 with loading := loading } := by
  cases hrequest : search.request flags window with
  | error cause =>
    unfold fetch
    rw [hrequest]
    exact Or.inl rfl
  | ok request =>
    obtain ⟨-, -, hsearch⟩ := fetch_eq transport later mode hrequest
    obtain ⟨loading, hconcluded⟩ := exists_search_conclude
      (({ search with loading := true } : Search).receive later mode (transport request)).2.1
      (({ search with loading := true } : Search).receive later mode (transport request)).1
    exact Or.inr ⟨request, loading, hsearch.trans hconcluded⟩

/-- A fetch that returns takes the mark off, or did not set it. -/
theorem loading_fetch {flags later : Flags} {transport : Transport} {window : Option Window}
    {mode : ResultMode} (hidle : search.loading = false)
    (hreturns : (search.fetch flags later transport window mode).returns = true) :
    (search.fetch flags later transport window mode).search.loading = false := by
  cases hrequest : search.request flags window with
  | error cause =>
    unfold fetch
    rw [hrequest]
    exact hidle
  | ok request =>
    obtain ⟨-, houtcome, hsearch⟩ := fetch_eq transport later mode hrequest
    rw [hsearch, search_conclude]
    intro error herror
    rw [FetchReply.returns, houtcome, herror] at hreturns
    exact (Bool.not_eq_true' _).mp hreturns

/-- What becomes of a document that comes back and is taken over. -/
theorem fetch_of_absorbed {flags : Flags} {transport : Transport} {window : Option Window}
    {later : Flags} {mode : ResultMode} {request : Request} {document : Json}
    (hrequest : search.request flags window = .ok request)
    (hsent : transport request = .ok document)
    (hanswer : (({ search with loading := true } : Search).absorb later document mode).answer =
      .ok ()) :
    let received := ({ search with loading := true } : Search).absorb later document mode
    (search.fetch flags later transport window mode).requests = [request] ∧
      (search.fetch flags later transport window mode).outcome = .ok () ∧
      (search.fetch flags later transport window mode).search =
        { received.search with loading := false } := by
  intro received
  obtain ⟨hrequests, houtcome, hsearch⟩ := fetch_eq transport later mode hrequest
  have hreceived : ({ search with loading := true } : Search).receive later mode
      (transport request) = (.ok (), received.search, received.events) := by
    rw [hsent, receive, hanswer]
    rfl
  rw [hreceived] at houtcome hsearch
  exact ⟨hrequests, houtcome, hsearch.trans (search_conclude _ (.ok ()) fun _ h => nomatch h)⟩

/-- **One fetch.**  The request asks for the window, and when a response without facet
sections comes back, its results and its total are taken over. -/
theorem fetch_spec (flags later : Flags) (search : Search) {transport : Transport} (window : Window)
    (mode : ResultMode) {P : Response → Prop}
    (htransport : ∀ request : Request,
      request.span? = some (window.start.toNat, window.size.toNat) →
      ∃ document response, transport request = .ok document ∧
        Response.ofJson? document = some response ∧ response.facets = [] ∧ P response) :
    ∃ request response, P response ∧
      request.span? = some (window.start.toNat, window.size.toNat) ∧
      (search.fetch flags later transport (some window) mode).requests = [request] ∧
      (search.fetch flags later transport (some window) mode).outcome = .ok () ∧
      (search.fetch flags later transport (some window) mode).search.results =
        resultsAfter mode search.results response.results ∧
      (search.fetch flags later transport (some window) mode).search.totalResults =
        response.hits.total ∧
      (search.fetch flags later transport (some window) mode).search.pageLength =
        search.pageLength := by
  obtain ⟨request, hrequest, hspan⟩ := request_spec flags search window
  obtain ⟨document, response, hsent, hread, hfacets, hP⟩ := htransport request hspan
  obtain ⟨hanswer, hresults, htotal, hlength⟩ :=
    absorb_spec later { search with loading := true } mode hread hfacets
  obtain ⟨hrequests, houtcome, hsearch⟩ := fetch_of_absorbed hrequest hsent hanswer
  refine ⟨request, response, hP, hspan, hrequests, houtcome, ?_, ?_, ?_⟩
  · rw [hsearch]
    exact hresults
  · rw [hsearch]
    exact htotal
  · rw [hsearch]
    exact hlength

end Search
end FacetedSearch
