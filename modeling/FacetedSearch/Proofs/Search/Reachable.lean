import FacetedSearch.Definition.Search
import FacetedSearch.Proofs.Catalog
import FacetedSearch.Proofs.Filter.Reachable
import FacetedSearch.Proofs.Search.Call
import FacetedSearch.Proofs.Search.Fetch

/-!
# What becomes of a search

A search starts new or from a definition.  From then on operations are called, results
fetched and facets counted again, in any order; what is refused leaves the search as it
was.  A fetch that is broken off leads nowhere, as it does not return.  The filters that are
handed over must themselves have come about as filters do.  `Search.Reachable` collects the
searches that come about in this way.

## The filters of a search

Filters come and go, but no two ever share a name, and each one that a search holds has
come about as filters do: this is `Search.Coherent`.  Most operations do not touch the
filters at all.  Those that change a selection, and those that take a response over, put a
filter in the place of the one of the same name.

* `Search.Reachable`, `Search.reachable_ofDefinition`: the searches that come about;
* `Search.filters_ask`, …: the operations that leave the filters alone;
* `Search.Coherent`, `Search.Reachable.coherent`: the invariant.
-/

namespace FacetedSearch

/-- The filters that an operation hands over. -/
def Call.filters : Call → List Filter
  | .replaceFilters filters => filters
  | .pushFilter filter => [filter]
  | _ => []

/-- A filter that a definition sets up comes about like any other. -/
theorem FilterDefinition.reachable_build (definition : FilterDefinition) :
    definition.build.Reachable :=
  .withLook ⟨definition.label.getD definition.name, .fixed definition.enabled,
    definition.multiple, definition.combination, definition.lead, definition.trail,
    definition.expandable, definition.collapsible⟩ (.ofKind definition.name definition.kind.build)

namespace Search

/-- The searches that come about from a new one, step by step. -/
inductive Reachable : Search → Prop where
  | new : Reachable Search.new
  | call {search : Search} (call : Call) (hfilters : ∀ filter ∈ call.filters, filter.Reachable)
      (h : Reachable search) : Reachable (call.reply search).search
  | fetch {search : Search} (flags later : Flags) (transport : Transport)
      (window : Option Window) (mode : ResultMode)
      (hreturns : (search.fetch flags later transport window mode).returns = true)
      (h : Reachable search) : Reachable (search.fetch flags later transport window mode).search
  | recount {search : Search} (flags later : Flags) (transport : Transport) (name : String)
      (h : Reachable search) : Reachable (search.recount flags later transport name).search

/-- An operation that hands no filter over asks nothing of it. -/
theorem Reachable.call_of_filters_eq_nil {search : Search} (h : search.Reachable) (call : Call)
    (hnone : call.filters = []) : (call.reply search).search.Reachable :=
  .call call (fun _ hfilter => absurd (hnone ▸ hfilter) List.not_mem_nil) h

/-! ## Searches from definitions -/

/-- A search that a definition sets up comes about like any other. -/
theorem reachable_ofDefinition {definition : SearchDefinition} {search : Search}
    (h : ofDefinition definition = .ok search) : search.Reachable := by
  have hpaged : ((Call.resizePages definition.pageLength).reply new).search.Reachable :=
    Reachable.new.call_of_filters_eq_nil _ rfl
  have hchosen := hpaged.call_of_filters_eq_nil (.withOptions definition.options) rfl
  have hfielded := hchosen.call_of_filters_eq_nil
    (.replaceFields (definition.fields.map FieldDefinition.build)) rfl
  have hbuilt : ∀ filter ∈ definition.filters.map FilterDefinition.build, filter.Reachable := by
    intro filter hfilter
    obtain ⟨given, -, rfl⟩ := List.mem_map.1 hfilter
    exact given.reachable_build
  have hfiltered := Reachable.call
    (.replaceFilters (definition.filters.map FilterDefinition.build)) hbuilt hfielded
  unfold ofDefinition at h
  simp only [bind, Except.bind] at h
  split at h
  · cases h
  · split at h
    · cases h
    · split at h
      · cases h
      · rw [← Except.ok.inj h]
        exact hfiltered

/-! ## Operations that leave the filters alone -/

section

variable (search : Search)

theorem filters_resizePages (pageLength : UInt64) :
    (search.resizePages pageLength).search.filters = search.filters := by
  unfold resizePages
  split <;> rfl

theorem filters_ask (query : Query) : (search.ask query).search.filters = search.filters := by
  unfold ask
  split <;> rfl

theorem filters_askJson (document : Json) :
    (search.askJson document).search.filters = search.filters := by
  unfold askJson
  split
  · exact search.filters_ask _
  · rfl

theorem filters_replaceFields (fields : List Field) :
    (search.replaceFields fields).search.filters = search.filters := by
  unfold replaceFields
  split
  · rfl
  · split <;> rfl

theorem filters_pushField (field : Field) :
    (search.pushField field).search.filters = search.filters := by
  unfold pushField
  split
  · rfl
  · split <;> rfl

theorem filters_eraseField (name : String) :
    (search.eraseField name).search.filters = search.filters := by
  unfold eraseField
  split <;> rfl

theorem filters_sortOn (field : Field) (direction : Direction) :
    (search.sortOn field direction).search.filters = search.filters := by
  unfold sortOn
  dsimp only
  split <;> rfl

theorem filters_sort (name : String) (direction : Direction) :
    (search.sort name direction).search.filters = search.filters := by
  unfold sort
  split
  · rfl
  · exact search.filters_sortOn _ direction

theorem filters_flipSort (name : Option String) :
    (search.flipSort name).search.filters = search.filters := by
  unfold flipSort
  split
  · rfl
  · split
    · rfl
    · exact search.filters_sortOn _ _

end

/-! ## The invariant -/

/-- No two filters share a name, and each has come about as filters do. -/
structure Coherent (search : Search) : Prop where
  names : search.filters.names.Nodup
  reachable : ∀ filter ∈ search.filters.items, filter.Reachable

namespace Coherent

variable {search next : Search}

theorem of_filters_eq (h : search.Coherent) (heq : next.filters = search.filters) :
    next.Coherent where
  names := heq ▸ h.names
  reachable := heq ▸ h.reachable

/-- Another filter may take the place of the one of its name. -/
theorem update (h : search.Coherent) {filter : Filter} (hfilter : filter.Reachable) :
    ({ search with filters := search.filters.update filter.name fun _ => filter } :
      Search).Coherent where
  names := by
    have hnames : (search.filters.update filter.name fun _ => filter).names =
        search.filters.names := Catalog.names_update fun _ _ _ => rfl
    show (search.filters.update filter.name fun _ => filter).names.Nodup
    rw [hnames]
    exact h.names
  reachable := by
    intro other hother
    rcases Catalog.mem_update hother with hold | ⟨-, -, -, rfl⟩
    · exact h.reachable other hold
    · exact hfilter

end Coherent

/-! ## Operations on the filters -/

section

variable {search : Search}

/-- The filter of a name is one of those that are held. -/
theorem filter_eq_ok {name : String} {filter : Filter} (h : search.filter name = .ok filter) :
    filter ∈ search.filters.items ∧ filter.name = name := by
  unfold Search.filter at h
  cases hget : search.filters.get? name with
  | none =>
    rw [hget] at h
    cases h
  | some held =>
    rw [hget] at h
    rw [← Except.ok.inj h]
    exact Catalog.mem_of_get? hget

theorem coherent_replaceFilters (h : search.Coherent) {filters : List Filter}
    (hfilters : ∀ filter ∈ filters, filter.Reachable) :
    (search.replaceFilters filters).search.Coherent := by
  unfold replaceFilters
  split
  · exact h
  · split
    · exact h
    · next catalog hcatalog =>
      obtain ⟨hnodup, rfl⟩ := Catalog.ofList?_eq_ok_iff.1 hcatalog
      exact ⟨hnodup, hfilters⟩

theorem coherent_pushFilter (h : search.Coherent) {filter : Filter} (hfilter : filter.Reachable) :
    (search.pushFilter filter).search.Coherent := by
  unfold pushFilter
  split
  · exact h
  · split
    · exact h
    · next catalog hpush =>
      refine ⟨Catalog.nodup_names_of_push? h.names hpush, ?_⟩
      obtain ⟨-, rfl⟩ := Catalog.push?_eq_ok_iff.1 hpush
      intro other hother
      rcases List.mem_append.1 hother with hold | hnew
      · exact h.reachable other hold
      · rw [List.mem_singleton.1 hnew]
        exact hfilter

theorem coherent_eraseFilter (h : search.Coherent) (name : String) :
    (search.eraseFilter name).search.Coherent := by
  unfold eraseFilter
  split
  · exact h
  · next hremove =>
    have hsublist := Catalog.sublist_of_remove? hremove
    exact ⟨h.names.sublist (hsublist.map _), fun other hother =>
      h.reachable other (hsublist.subset hother)⟩

theorem coherent_withSelection (h : search.Coherent) {filter : Filter} (hfilter : filter.Reachable)
    (previous : List FacetValue) (silent : Bool) :
    (search.withSelection filter previous silent).search.Coherent := by
  unfold withSelection
  dsimp only
  split
  · exact h.update hfilter
  · exact h.update hfilter

theorem coherent_select (h : search.Coherent) (name : String) (values : List FacetValue)
    (silent : Bool) : (search.select name values silent).search.Coherent := by
  unfold select
  split
  · exact h
  · next filter hfilter =>
    split
    · exact h
    · next selecting hselect =>
      have hreach := h.reachable filter (filter_eq_ok hfilter).1
      exact coherent_withSelection h (hreach.select hselect) _ silent

theorem coherent_selectIds (h : search.Coherent) (name : String) (ids : List String)
    (silent : Bool) : (search.selectIds name ids silent).search.Coherent := by
  unfold selectIds
  split
  · exact h
  · exact coherent_select h name _ silent

theorem coherent_clearSelection (h : search.Coherent) (name : String) (silent : Bool) :
    (search.clearSelection name silent).search.Coherent := by
  unfold clearSelection
  split
  · exact h
  · next filter hfilter =>
    exact coherent_withSelection h (h.reachable filter (filter_eq_ok hfilter).1).clear _ silent

/-! ## Responses -/

theorem coherent_absorb (h : search.Coherent) (flags : Flags) (document : Json)
    (mode : ResultMode) : (search.absorb flags document mode).search.Coherent := by
  obtain ⟨error, hrefused⟩ | ⟨response, filters, -, hrefresh, habsorbed⟩ :=
    absorb_cases flags search document mode
  · rw [hrefused]
    exact h
  · rw [habsorbed]
    have hname : ∀ filter other : Filter, filter.refresh flags response = .ok other →
        other.name = filter.name := by
      intro filter other hother
      obtain ⟨tally, -, rfl⟩ := Filter.refresh_eq_ok_iff.1 hother
      rfl
    have hnames : filters.map Filter.name = search.filters.items.map Filter.name :=
      Fallible.map_eq_map_of_mapM hrefresh hname
    have hcoherent : ({ search with filters := ⟨filters⟩ } : Search).Coherent := by
      refine ⟨?_, fun other hother => ?_⟩
      · show (filters.map Filter.name).Nodup
        rw [hnames]
        exact h.names
      · obtain ⟨filter, hfilter, hother⟩ := Fallible.exists_of_mem_of_mapM hrefresh hother
        exact (h.reachable filter hfilter).refresh hother
    cases mode with
    | replace => exact hcoherent.of_filters_eq rfl
    | append => exact hcoherent.of_filters_eq rfl

theorem coherent_receive (h : search.Coherent) (flags : Flags) (mode : ResultMode)
    (brought : Except (List String) Json) :
    (search.receive flags mode brought).2.1.Coherent := by
  cases brought with
  | error chain => exact h
  | ok document => exact coherent_absorb h flags document mode

theorem coherent_fetch (h : search.Coherent) (flags later : Flags) (transport : Transport)
    (window : Option Window) (mode : ResultMode) :
    (search.fetch flags later transport window mode).search.Coherent := by
  obtain hstay | ⟨request, loading, hreceived⟩ :=
    search_fetch_cases flags later search transport window mode
  · rw [hstay]
    exact h
  · have hloading : ({ search with loading := true } : Search).Coherent := h.of_filters_eq rfl
    rw [hreceived]
    exact (coherent_receive hloading later mode (transport request)).of_filters_eq rfl

/-- What a transport brings for the facets of a filter refreshes that filter. -/
theorem receiveFacets_eq_ok {flags : Flags} {name : String}
    {brought : Except (List String) Json} {next : Filter}
    (h : search.receiveFacets flags name brought = .ok next) :
    ∃ filter response, search.filter name = .ok filter ∧
      filter.refresh flags response = .ok next := by
  unfold receiveFacets at h
  split at h
  · cases h
  · split at h
    · cases h
    · next response _ =>
      cases hfilter : search.filter name with
      | error error =>
        rw [hfilter] at h
        cases h
      | ok filter =>
        rw [hfilter] at h
        refine ⟨filter, response, rfl, ?_⟩
        cases hrefresh : filter.refresh flags response with
        | error error =>
          simp only [Except.bind, hrefresh] at h
          cases h
        | ok refreshed =>
          simp only [Except.bind, hrefresh] at h
          rw [Except.ok.inj h]

theorem coherent_recount (h : search.Coherent) (flags later : Flags) (transport : Transport)
    (name : String) : (search.recount flags later transport name).search.Coherent := by
  unfold recount
  split
  · exact h
  · split
    · exact h
    · next next hreceive =>
      obtain ⟨filter, response, hfilter, hrefresh⟩ := receiveFacets_eq_ok hreceive
      obtain ⟨hmem, hname⟩ := filter_eq_ok hfilter
      have hreach : next.Reachable := (h.reachable filter hmem).refresh hrefresh
      obtain ⟨tally, -, rfl⟩ := Filter.refresh_eq_ok_iff.1 hrefresh
      subst hname
      exact h.update hreach

end

/-! ## Every run -/

/-- One operation keeps the filters coherent. -/
theorem coherent_reply {search : Search} (h : search.Coherent) (call : Call)
    (hfilters : ∀ filter ∈ call.filters, filter.Reachable) :
    (call.reply search).search.Coherent := by
  cases call with
  | resizePages pageLength => exact h.of_filters_eq (search.filters_resizePages pageLength)
  | withOptions options => exact h.of_filters_eq rfl
  | ask query => exact h.of_filters_eq (search.filters_ask query)
  | askJson document => exact h.of_filters_eq (search.filters_askJson document)
  | replaceFields fields => exact h.of_filters_eq (search.filters_replaceFields fields)
  | pushField field => exact h.of_filters_eq (search.filters_pushField field)
  | eraseField name => exact h.of_filters_eq (search.filters_eraseField name)
  | sort name direction => exact h.of_filters_eq (search.filters_sort name direction)
  | sortAscending name => exact h.of_filters_eq (search.filters_sort name .asc)
  | flipSort name => exact h.of_filters_eq (search.filters_flipSort name)
  | replaceFilters filters => exact coherent_replaceFilters h hfilters
  | pushFilter filter => exact coherent_pushFilter h (hfilters filter (List.mem_singleton_self _))
  | eraseFilter name => exact coherent_eraseFilter h name
  | select name values silent => exact coherent_select h name values silent
  | selectIds name ids silent => exact coherent_selectIds h name ids silent
  | clearSelection name silent => exact coherent_clearSelection h name silent
  | replaceResults results => exact h.of_filters_eq rfl
  | addResults results => exact h.of_filters_eq rfl
  | readResults response => exact h.of_filters_eq rfl
  | absorb flags document mode => exact coherent_absorb h flags document mode

/-- **The filters of every search that comes about are coherent.** -/
theorem Reachable.coherent {search : Search} (h : search.Reachable) : search.Coherent := by
  induction h with
  | new => exact ⟨List.nodup_nil, fun _ hmem => absurd hmem List.not_mem_nil⟩
  | call call hfilters _ ih => exact coherent_reply ih call hfilters
  | fetch flags later transport window mode _ _ ih =>
    exact coherent_fetch ih flags later transport window mode
  | recount flags later transport name _ ih =>
    exact coherent_recount ih flags later transport name

end Search
end FacetedSearch
