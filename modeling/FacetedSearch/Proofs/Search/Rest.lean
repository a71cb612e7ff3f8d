import FacetedSearch.Proofs.Search.Reachable

/-!
# A search at rest

Between operations no request is under way, and a page has room for at least one result.

## What an operation can do

An operation leaves the search as it was, or changes one part of it, or takes over what a
response brings.  `Search.Moves` lists these changes, and every operation makes one of them,
so that a property which they preserve is preserved by every operation.  No change touches
the mark of a request under way, and the length of pages is only ever set to something
positive.  A fetch sets the mark, but takes it off whatever comes back, if it returns.

* `Search.Moves`, `Search.moves_reply`: the changes, and that every operation makes one;
* `Search.AtRest`, `Search.Moves.atRest`, `Search.atRest_fetch`: the invariant, kept by each step
  that returns;
* `Search.Reachable.atRest`: every run.
-/

namespace FacetedSearch
namespace Search

/-- What an operation can do to a search. -/
inductive Moves (search : Search) : Search → Prop where
  | stay : Moves search search
  | resize {length : UInt64} (h : length ≠ 0) : Moves search { search with pageLength := length }
  | options (options : RequestOptions) : Moves search { search with options := options }
  | query (query : Query) : Moves search { search with query := query }
  | fields (fields : Catalog Field) : Moves search { search with fields := fields }
  | filters (filters : Catalog Filter) : Moves search { search with filters := filters }
  /-- Results, their total number and what is said about filters arrive together. -/
  | arrival (results : List SearchResult) (total : UInt64) (filters : Catalog Filter) :
      Moves search { search with results := results, totalResults := total, filters := filters }

section

variable (search : Search)

/-! ## Settings -/

theorem moves_resizePages (pageLength : UInt64) :
    search.Moves (search.resizePages pageLength).search := by
  unfold resizePages
  split
  · exact .stay
  · next hlength => exact .resize hlength

theorem moves_ask (query : Query) : search.Moves (search.ask query).search := by
  unfold ask
  split
  · exact .stay
  · exact .query query

theorem moves_askJson (document : Json) : search.Moves (search.askJson document).search := by
  unfold askJson
  split
  · exact search.moves_ask _
  · exact .stay

/-! ## Fields -/

theorem moves_replaceFields (fields : List Field) :
    search.Moves (search.replaceFields fields).search := by
  unfold replaceFields
  split
  · exact .stay
  · split
    · exact .stay
    · exact .fields _

theorem moves_pushField (field : Field) : search.Moves (search.pushField field).search := by
  unfold pushField
  split
  · exact .stay
  · split
    · exact .stay
    · exact .fields _

theorem moves_eraseField (name : String) : search.Moves (search.eraseField name).search := by
  unfold eraseField
  split
  · exact .stay
  · exact .fields _

theorem moves_sortOn (field : Field) (direction : Direction) :
    search.Moves (search.sortOn field direction).search := by
  unfold sortOn
  dsimp only
  split
  · exact .fields _
  · exact .fields _

theorem moves_sort (name : String) (direction : Direction) :
    search.Moves (search.sort name direction).search := by
  unfold sort
  split
  · exact .stay
  · exact search.moves_sortOn _ direction

theorem moves_flipSort (name : Option String) : search.Moves (search.flipSort name).search := by
  unfold flipSort
  split
  · exact .stay
  · split
    · exact .stay
    · exact search.moves_sortOn _ _

/-! ## Filters -/

theorem moves_replaceFilters (filters : List Filter) :
    search.Moves (search.replaceFilters filters).search := by
  unfold replaceFilters
  split
  · exact .stay
  · split
    · exact .stay
    · exact .filters _

theorem moves_pushFilter (filter : Filter) : search.Moves (search.pushFilter filter).search := by
  unfold pushFilter
  split
  · exact .stay
  · split
    · exact .stay
    · exact .filters _

theorem moves_eraseFilter (name : String) : search.Moves (search.eraseFilter name).search := by
  unfold eraseFilter
  split
  · exact .stay
  · exact .filters _

theorem moves_withSelection (filter : Filter) (previous : List FacetValue) (silent : Bool) :
    search.Moves (search.withSelection filter previous silent).search := by
  unfold withSelection
  dsimp only
  split
  · exact .filters _
  · exact .filters _

theorem moves_select (name : String) (values : List FacetValue) (silent : Bool) :
    search.Moves (search.select name values silent).search := by
  unfold select
  split
  · exact .stay
  · split
    · exact .stay
    · exact search.moves_withSelection _ _ silent

theorem moves_selectIds (name : String) (ids : List String) (silent : Bool) :
    search.Moves (search.selectIds name ids silent).search := by
  unfold selectIds
  split
  · exact .stay
  · exact search.moves_select name _ silent

theorem moves_clearSelection (name : String) (silent : Bool) :
    search.Moves (search.clearSelection name silent).search := by
  unfold clearSelection
  split
  · exact .stay
  · exact search.moves_withSelection _ _ silent

/-! ## Responses -/

theorem moves_absorb (flags : Flags) (document : Json) (mode : ResultMode) :
    search.Moves (search.absorb flags document mode).search := by
  unfold absorb
  split
  · exact .stay
  · split
    · exact .stay
    · cases mode with
      | replace => exact .arrival _ _ _
      | append => exact .arrival _ _ _

theorem moves_receive (flags : Flags) (mode : ResultMode)
    (brought : Except (List String) Json) :
    search.Moves (search.receive flags mode brought).2.1 := by
  cases brought with
  | error chain => exact .stay
  | ok document => exact search.moves_absorb flags document mode

theorem moves_recount (flags later : Flags) (transport : Transport) (name : String) :
    search.Moves (search.recount flags later transport name).search := by
  unfold recount
  split
  · exact .stay
  · split
    · exact .stay
    · exact .filters _

/-! ## Every operation -/

theorem moves_reply (call : Call) : search.Moves (call.reply search).search := by
  cases call with
  | resizePages pageLength => exact search.moves_resizePages pageLength
  | withOptions options => exact .options options
  | ask query => exact search.moves_ask query
  | askJson document => exact search.moves_askJson document
  | replaceFields fields => exact search.moves_replaceFields fields
  | pushField field => exact search.moves_pushField field
  | eraseField name => exact search.moves_eraseField name
  | sort name direction => exact search.moves_sort name direction
  | sortAscending name => exact search.moves_sort name .asc
  | flipSort name => exact search.moves_flipSort name
  | replaceFilters filters => exact search.moves_replaceFilters filters
  | pushFilter filter => exact search.moves_pushFilter filter
  | eraseFilter name => exact search.moves_eraseFilter name
  | select name values silent => exact search.moves_select name values silent
  | selectIds name ids silent => exact search.moves_selectIds name ids silent
  | clearSelection name silent => exact search.moves_clearSelection name silent
  | replaceResults results => exact .arrival results search.totalResults search.filters
  | addResults results =>
    exact .arrival (search.results ++ results) search.totalResults search.filters
  | readResults response => exact .arrival search.results response.hits.total search.filters
  | absorb flags document mode => exact search.moves_absorb flags document mode

end

/-! ## The invariant -/

/-- No request is under way, and pages have room. -/
structure AtRest (search : Search) : Prop where
  idle : search.loading = false
  room : search.pageLength ≠ 0

variable {search next : Search}

theorem Moves.atRest (hmoves : search.Moves next) (h : search.AtRest) : next.AtRest := by
  cases hmoves with
  | stay => exact h
  | resize hlength => exact ⟨h.idle, hlength⟩
  | options | query | fields | filters | arrival => exact ⟨h.idle, h.room⟩

theorem Moves.loading_eq (hmoves : search.Moves next) : next.loading = search.loading := by
  cases hmoves <;> rfl

theorem Moves.room (hmoves : search.Moves next) (h : search.pageLength ≠ 0) :
    next.pageLength ≠ 0 := by
  cases hmoves with
  | resize hlength => exact hlength
  | stay | options | query | fields | filters | arrival => exact h

/-- Pages keep to have room, also if the fetch is broken off. -/
theorem room_fetch (h : search.pageLength ≠ 0) (flags later : Flags) (transport : Transport)
    (window : Option Window) (mode : ResultMode) :
    (search.fetch flags later transport window mode).search.pageLength ≠ 0 := by
  obtain hstay | ⟨request, loading, hreceived⟩ :=
    search_fetch_cases flags later search transport window mode
  · rw [hstay]
    exact h
  · rw [hreceived]
    exact (moves_receive { search with loading := true } later mode (transport request)).room h

/-- The mark is taken off whatever the transport brings, if the fetch returns. -/
theorem atRest_fetch (h : search.AtRest) {flags later : Flags} {transport : Transport}
    {window : Option Window} {mode : ResultMode}
    (hreturns : (search.fetch flags later transport window mode).returns = true) :
    (search.fetch flags later transport window mode).search.AtRest :=
  ⟨loading_fetch h.idle hreturns, room_fetch h.room flags later transport window mode⟩

/-- **Every search that comes about is at rest.** -/
theorem Reachable.atRest (h : search.Reachable) : search.AtRest := by
  induction h with
  | new => exact ⟨rfl, by decide⟩
  | @call search call _ _ ih => exact (search.moves_reply call).atRest ih
  | fetch flags later transport window mode hreturns _ ih => exact atRest_fetch ih hreturns
  | @recount search flags later transport name _ ih =>
    exact (search.moves_recount flags later transport name).atRest ih

end Search
end FacetedSearch
