import FacetedSearch.Proofs.Filter.Check
import FacetedSearch.Proofs.Request.Recount
import FacetedSearch.Proofs.Search.SortCell

/-!
# What holds of every search

Between operations pages have room and no request is under way, unless a fetch was broken off.
Fields have names, and no two share one; so do filters.  And every filter that is held would pass
its check again, although it was checked only once, when it was handed over.

## Where a filter comes from

A filter that is held after an operation was held before, or was handed over and checked, or is
what became of a filter that was held: its selection was replaced or cleared, or a response was
taken over.  `Filter.Origin` lists these cases, and every operation, every fetch and every
recount stays within them.  None of the changes touches what is checked, so the check carries
over from step to step, up to the moment when the facet of a filter over intervals is written.

* `Filter.Origin`, `Search.filtersFrom_reply`: where the filters come from;
* `Search.named_reply`: fields keep to have names;
* `Search.WellFormed`, `Session.wellFormed_of_run`: what holds of every search;
* `Session.idle_run`: no request is under way;
* `Search.NamesOneTarget`: what the facets of intervals count in the requests of a search;
* `Session.wellFormed_run`: every run, from a new search or from a definition.
-/

namespace FacetedSearch

/-! ## Origins -/

/-- Where a filter comes from that is held after an operation, by what was held before and what
was handed over. -/
inductive Filter.Origin (held handed : List Filter) (filter : Filter) : Prop where
  | kept (h : filter ∈ held)
  | checked (h : filter ∈ handed) (hcheck : filter.check = .ok ())
  | selected {old : Filter} {values : List FacetValue} (h : old ∈ held)
      (hselect : old.select values = .ok filter)
  | cleared {old : Filter} (h : old ∈ held) (hclear : old.clear = filter)
  | refreshed {old : Filter} {flags : Flags} {response : Response} (h : old ∈ held)
      (hrefresh : old.refresh flags response = .ok filter)

/-- Whatever became of a filter, it would still pass its check. -/
theorem Filter.Origin.check_eq_ok {held handed : List Filter} {filter : Filter}
    (h : filter.Origin held handed) (hheld : ∀ old ∈ held, old.check = .ok ()) :
    filter.check = .ok () := by
  cases h with
  | kept h => exact hheld filter h
  | checked _ hcheck => exact hcheck
  | selected h hselect => rw [check_of_select hselect, hheld _ h]
  | cleared h hclear => rw [← hclear, check_clear, hheld _ h]
  | refreshed h hrefresh => rw [check_of_refresh hrefresh, hheld _ h]

namespace Search

variable {search next : Search} {handed : List Filter}

/-- Every filter comes from those of another search and those handed over. -/
def FiltersFrom (search : Search) (handed : List Filter) (next : Search) : Prop :=
  ∀ filter ∈ next.filters.items, filter.Origin search.filters.items handed

theorem filtersFrom_of_eq (h : next.filters = search.filters) :
    search.FiltersFrom handed next := by
  intro filter hfilter
  rw [h] at hfilter
  exact .kept hfilter

/-- What became of a filter takes its place. -/
theorem filtersFrom_update {name : String} {filter : Filter}
    (h : filter.Origin search.filters.items handed) :
    search.FiltersFrom handed
      { search with filters := search.filters.update name fun _ => filter } := by
  intro other hother
  rcases Catalog.mem_update hother with hold | ⟨-, -, -, rfl⟩
  · exact .kept hold
  · exact h

section

variable (search : Search)

theorem filtersFrom_replaceFilters (filters : List Filter) :
    search.FiltersFrom filters (search.replaceFilters filters).search := by
  unfold replaceFilters
  split
  · exact filtersFrom_of_eq rfl
  · next hcheck =>
    split
    · exact filtersFrom_of_eq rfl
    · next catalog hcatalog =>
      obtain ⟨-, rfl⟩ := Catalog.ofList?_eq_ok_iff.1 hcatalog
      exact fun filter hfilter =>
        .checked hfilter (Fallible.forM_eq_ok_iff.1 hcheck filter hfilter)

theorem filtersFrom_pushFilter (filter : Filter) :
    search.FiltersFrom [filter] (search.pushFilter filter).search := by
  unfold pushFilter
  split
  · exact filtersFrom_of_eq rfl
  · next hcheck =>
    split
    · exact filtersFrom_of_eq rfl
    · next catalog hpush =>
      obtain ⟨-, rfl⟩ := Catalog.push?_eq_ok_iff.1 hpush
      intro other hother
      rcases List.mem_append.1 hother with hold | hnew
      · exact .kept hold
      · obtain rfl := List.mem_singleton.1 hnew
        exact .checked hnew hcheck

theorem filtersFrom_eraseFilter (name : String) :
    search.FiltersFrom [] (search.eraseFilter name).search := by
  unfold eraseFilter
  split
  · exact filtersFrom_of_eq rfl
  · next hremove =>
    exact fun other hother => .kept ((Catalog.sublist_of_remove? hremove).subset hother)

theorem filtersFrom_withSelection {filter : Filter}
    (h : filter.Origin search.filters.items handed) (previous : List FacetValue) (silent : Bool) :
    search.FiltersFrom handed (search.withSelection filter previous silent).search := by
  unfold withSelection
  dsimp only
  split
  · exact filtersFrom_update h
  · exact filtersFrom_update h

theorem filtersFrom_select (name : String) (values : List FacetValue) (silent : Bool) :
    search.FiltersFrom [] (search.select name values silent).search := by
  unfold select
  split
  · exact filtersFrom_of_eq rfl
  · next filter hfilter =>
    split
    · exact filtersFrom_of_eq rfl
    · next selecting hselect =>
      exact search.filtersFrom_withSelection (.selected (filter_eq_ok hfilter).1 hselect) _ silent

theorem filtersFrom_selectIds (name : String) (ids : List String) (silent : Bool) :
    search.FiltersFrom [] (search.selectIds name ids silent).search := by
  unfold selectIds
  split
  · exact filtersFrom_of_eq rfl
  · exact search.filtersFrom_select name _ silent

theorem filtersFrom_clearSelection (name : String) (silent : Bool) :
    search.FiltersFrom [] (search.clearSelection name silent).search := by
  unfold clearSelection
  split
  · exact filtersFrom_of_eq rfl
  · next filter hfilter =>
    exact search.filtersFrom_withSelection (.cleared (filter_eq_ok hfilter).1 rfl) _ silent

theorem filtersFrom_absorb (flags : Flags) (document : Json) (mode : ResultMode) :
    search.FiltersFrom [] (search.absorb flags document mode).search := by
  obtain ⟨error, hrefused⟩ | ⟨response, filters, -, hrefresh, habsorbed⟩ :=
    absorb_cases flags search document mode
  · rw [hrefused]
    exact filtersFrom_of_eq rfl
  · intro filter hfilter
    rw [habsorbed, absorbDecoded_eq] at hfilter
    obtain ⟨old, hold, hnext⟩ := Fallible.exists_of_mem_of_mapM hrefresh hfilter
    exact .refreshed hold hnext

theorem filtersFrom_receive (flags : Flags) (mode : ResultMode)
    (brought : Except (List String) Json) :
    search.FiltersFrom [] (search.receive flags mode brought).2.1 := by
  cases brought with
  | error chain => exact filtersFrom_of_eq rfl
  | ok document => exact search.filtersFrom_absorb flags document mode

theorem filtersFrom_fetch (flags later : Flags) (transport : Transport) (window : Option Window)
    (mode : ResultMode) :
    search.FiltersFrom [] (search.fetch flags later transport window mode).search := by
  obtain hstay | ⟨request, loading, hreceived⟩ :=
    search_fetch_cases flags later search transport window mode
  · rw [hstay]
    exact filtersFrom_of_eq rfl
  · rw [hreceived]
    exact filtersFrom_receive { search with loading := true } later mode (transport request)

theorem filtersFrom_recount (flags later : Flags) (transport : Transport) (name : String) :
    search.FiltersFrom [] (search.recount flags later transport name).search := by
  unfold recount
  split
  · exact filtersFrom_of_eq rfl
  · split
    · exact filtersFrom_of_eq rfl
    · next hreceive =>
      obtain ⟨old, response, hold, hrefresh⟩ := receiveFacets_eq_ok hreceive
      exact filtersFrom_update (.refreshed (filter_eq_ok hold).1 hrefresh)

/-- **Every operation stays within the origins.** -/
theorem filtersFrom_reply (call : Call) :
    search.FiltersFrom call.filters (call.reply search).search := by
  cases call with
  | resizePages pageLength => exact filtersFrom_of_eq (search.filters_resizePages pageLength)
  | withOptions options => exact filtersFrom_of_eq rfl
  | ask query => exact filtersFrom_of_eq (search.filters_ask query)
  | askJson document => exact filtersFrom_of_eq (search.filters_askJson document)
  | replaceFields fields => exact filtersFrom_of_eq (search.filters_replaceFields fields)
  | pushField field => exact filtersFrom_of_eq (search.filters_pushField field)
  | eraseField name => exact filtersFrom_of_eq (search.filters_eraseField name)
  | sort name direction => exact filtersFrom_of_eq (search.filters_sort name direction)
  | sortAscending name => exact filtersFrom_of_eq (search.filters_sort name .asc)
  | flipSort name => exact filtersFrom_of_eq (search.filters_flipSort name)
  | replaceFilters filters => exact search.filtersFrom_replaceFilters filters
  | pushFilter filter => exact search.filtersFrom_pushFilter filter
  | eraseFilter name => exact search.filtersFrom_eraseFilter name
  | select name values silent => exact search.filtersFrom_select name values silent
  | selectIds name ids silent => exact search.filtersFrom_selectIds name ids silent
  | clearSelection name silent => exact search.filtersFrom_clearSelection name silent
  | replaceResults results => exact filtersFrom_of_eq rfl
  | addResults results => exact filtersFrom_of_eq rfl
  | readResults response => exact filtersFrom_of_eq rfl
  | absorb flags document mode => exact search.filtersFrom_absorb flags document mode

end

/-! ## Names of fields -/

theorem named_replaceFields (h : "" ∉ search.fields.names) (fields : List Field) :
    "" ∉ (search.replaceFields fields).search.fields.names := by
  unfold replaceFields
  split
  · exact h
  · next hcheck =>
    split
    · exact h
    · next catalog hcatalog =>
      obtain ⟨-, rfl⟩ := Catalog.ofList?_eq_ok_iff.1 hcatalog
      show "" ∉ (keepFirstSort fields).map Field.name
      rw [names_keepFirstSort]
      intro hname
      obtain ⟨field, hfield, hempty⟩ := List.mem_map.1 hname
      exact Field.check_eq_ok_iff.1 (Fallible.forM_eq_ok_iff.1 hcheck field hfield) hempty

theorem named_pushField (h : "" ∉ search.fields.names) (field : Field) :
    "" ∉ (search.pushField field).search.fields.names := by
  unfold pushField
  split
  · exact h
  · next hcheck =>
    split
    · exact h
    · next fields hpush =>
      obtain ⟨-, rfl⟩ := Catalog.push?_eq_ok_iff.1 hpush
      have hpushed : "" ∉ (⟨search.fields.items ++ [field]⟩ : Catalog Field).names := by
        rw [Catalog.names, List.map_append, List.mem_append, not_or]
        exact ⟨h, fun hnew => Field.check_eq_ok_iff.1 hcheck (List.mem_singleton.1 hnew).symm⟩
      dsimp only [Reply.announce]
      split
      · rw [Catalog.names_map fun other _ => name_clearSortExcept field.name other]
        exact hpushed
      · exact hpushed

theorem named_eraseField (h : "" ∉ search.fields.names) (name : String) :
    "" ∉ (search.eraseField name).search.fields.names := by
  unfold eraseField
  split
  · exact h
  · next hremove =>
    exact fun hname => h (((Catalog.sublist_of_remove? hremove).map _).subset hname)

theorem named_sortOn (h : "" ∉ search.fields.names) (field : Field) (direction : Direction) :
    "" ∉ (search.sortOn field direction).search.fields.names := by
  have hnames : (search.fields.map (sortOnly field.name direction)).names = search.fields.names :=
    Catalog.names_map fun _ _ => rfl
  rw [fields_sortOn, hnames]
  exact h

theorem named_sort (h : "" ∉ search.fields.names) (name : String) (direction : Direction) :
    "" ∉ (search.sort name direction).search.fields.names := by
  unfold sort
  split
  · exact h
  · exact named_sortOn h _ direction

theorem named_flipSort (h : "" ∉ search.fields.names) (name : Option String) :
    "" ∉ (search.flipSort name).search.fields.names := by
  unfold flipSort
  split
  · exact h
  · split
    · exact h
    · exact named_sortOn h _ _

/-- **Fields keep to have names, whatever operation is called.** -/
theorem named_reply (h : "" ∉ search.fields.names) (call : Call) :
    "" ∉ (call.reply search).search.fields.names := by
  have hkept : ∀ {next : Search}, next.fields = search.fields → "" ∉ next.fields.names :=
    fun heq => heq ▸ h
  cases call with
  | resizePages pageLength => exact hkept (search.fields_resizePages pageLength)
  | withOptions options => exact hkept rfl
  | ask query => exact hkept (search.fields_ask query)
  | askJson document => exact hkept (search.fields_askJson document)
  | replaceFields fields => exact named_replaceFields h fields
  | pushField field => exact named_pushField h field
  | eraseField name => exact named_eraseField h name
  | sort name direction => exact named_sort h name direction
  | sortAscending name => exact named_sort h name .asc
  | flipSort name => exact named_flipSort h name
  | replaceFilters filters => exact hkept (search.fields_replaceFilters filters)
  | pushFilter filter => exact hkept (search.fields_pushFilter filter)
  | eraseFilter name => exact hkept (search.fields_eraseFilter name)
  | select name values silent => exact hkept (search.fields_select name values silent)
  | selectIds name ids silent => exact hkept (search.fields_selectIds name ids silent)
  | clearSelection name silent => exact hkept (search.fields_clearSelection name silent)
  | replaceResults results => exact hkept rfl
  | addResults results => exact hkept rfl
  | readResults response => exact hkept rfl
  | absorb flags document mode => exact hkept (search.fields_absorb flags document mode)

/-! ## Every search -/

/-- What holds of every search. -/
structure WellFormed (search : Search) : Prop where
  room : 0 < search.pageLength
  fieldNames : search.fields.names.Nodup
  fieldsNamed : "" ∉ search.fields.names
  filterNames : search.filters.names.Nodup
  filtersNamed : "" ∉ search.filters.names
  checked : ∀ filter ∈ search.filters.items, filter.check = .ok ()

end Search

namespace Happening

variable {search : Search} (happening : Happening)

/-- Pages keep to have room, whatever happens. -/
theorem room_search (h : search.pageLength ≠ 0) : (happening.search search).pageLength ≠ 0 := by
  cases happening with
  | call operation => exact (search.moves_reply operation).room h
  | fetch flags later transport window mode =>
    exact Search.room_fetch h flags later transport window mode
  | recount flags later transport name =>
    exact (search.moves_recount flags later transport name).room h
  | subscribe | unsubscribe => exact h

/-- Fields keep to have names, whatever happens. -/
theorem named_search (h : "" ∉ search.fields.names) :
    "" ∉ (happening.search search).fields.names := by
  cases happening with
  | call operation => exact Search.named_reply h operation
  | fetch flags later transport window mode =>
    exact (search.fields_fetch flags later transport window mode) ▸ h
  | recount flags later transport name =>
    exact (search.fields_recount flags later transport name) ▸ h
  | subscribe | unsubscribe => exact h

/-- **Every filter that is held would pass its check again, whatever happens.** -/
theorem checked_search (h : ∀ filter ∈ search.filters.items, filter.check = .ok ()) :
    ∀ filter ∈ (happening.search search).filters.items, filter.check = .ok () := by
  cases happening with
  | call operation =>
    exact fun filter hfilter => (search.filtersFrom_reply operation filter hfilter).check_eq_ok h
  | fetch flags later transport window mode =>
    exact fun filter hfilter =>
      (search.filtersFrom_fetch flags later transport window mode filter hfilter).check_eq_ok h
  | recount flags later transport name =>
    exact fun filter hfilter =>
      (search.filtersFrom_recount flags later transport name filter hfilter).check_eq_ok h
  | subscribe | unsubscribe => exact h

/-- No request is under way when a fetch has returned. -/
theorem idle_search (h : search.loading = false) (hreturns : happening.returns search = true) :
    (happening.search search).loading = false := by
  cases happening with
  | call operation => exact (search.moves_reply operation).loading_eq.trans h
  | fetch flags later transport window mode => exact Search.loading_fetch h hreturns
  | recount flags later transport name =>
    exact (search.moves_recount flags later transport name).loading_eq.trans h
  | subscribe | unsubscribe => exact h

end Happening

namespace Session

variable {session : Session} {happenings : List Happening}

/-- **Every run keeps a search well formed.** -/
theorem wellFormed_of_run (h : session.search.Reachable)
    (hnamed : "" ∉ session.search.fields.names)
    (hchecked : ∀ filter ∈ session.search.filters.items, filter.check = .ok ())
    (hfilters : ∀ happening ∈ happenings, ∀ filter ∈ happening.filters, filter.Reachable) :
    (session.run happenings).search.WellFormed := by
  have hroom : (session.run happenings).search.pageLength ≠ 0 :=
    search_run_of_step (P := fun search => search.pageLength ≠ 0)
      (fun happening _ _ hroom => happening.room_search hroom) h.atRest.room
  have hkept : ∀ filter ∈ (session.run happenings).search.filters.items,
      filter.check = .ok () :=
    search_run_of_step (P := fun search => ∀ filter ∈ search.filters.items, filter.check = .ok ())
      (fun happening _ _ hchecked => happening.checked_search hchecked) hchecked
  refine ⟨UInt64.pos_iff_ne_zero.2 hroom, (sortedBy_run h.sortedBy happenings).names, ?_,
    (coherent_run h.coherent hfilters).names, fun hname => ?_, hkept⟩
  · exact search_run_of_step (P := fun search => "" ∉ search.fields.names)
      (fun happening _ _ hnamed => happening.named_search hnamed) hnamed
  · obtain ⟨filter, hfilter, hempty⟩ := List.mem_map.1 hname
    exact (Filter.check_eq_ok_iff.1 (hkept filter hfilter)).1 hempty

/-- **No request is under way after a run in which every fetch returned.** -/
theorem idle_run (h : session.search.loading = false)
    (hreturns : returns session.search happenings = true) :
    (session.run happenings).search.loading = false := by
  induction happenings generalizing session with
  | nil => exact h
  | cons happening rest ih =>
    obtain ⟨hfirst, hrest⟩ := Bool.and_eq_true_iff.1 hreturns
    rw [run_cons]
    refine ih ?_ ?_
    · rw [search_step]
      exact happening.idle_search h hfirst
    · rw [search_step]
      exact hrest

end Session

namespace Search

variable {search : Search}

theorem Reachable.fieldsNamed (h : search.Reachable) : "" ∉ search.fields.names := by
  induction h with
  | new => exact List.not_mem_nil
  | call operation _ _ ih => exact (Happening.call operation).named_search ih
  | fetch flags later transport window mode _ _ ih =>
    exact (Happening.fetch flags later transport window mode).named_search ih
  | recount flags later transport name _ ih =>
    exact (Happening.recount flags later transport name).named_search ih

theorem Reachable.checked (h : search.Reachable) :
    ∀ filter ∈ search.filters.items, filter.check = .ok () := by
  induction h with
  | new => exact fun _ hfilter => absurd hfilter List.not_mem_nil
  | call operation _ _ ih => exact (Happening.call operation).checked_search ih
  | fetch flags later transport window mode _ _ ih =>
    exact (Happening.fetch flags later transport window mode).checked_search ih
  | recount flags later transport name _ ih =>
    exact (Happening.recount flags later transport name).checked_search ih

/-! ## The facets of intervals in requests -/

section

variable {flags : Flags} {options : RequestOptions} {filter : Filter} {request after : Request}
  {name : String}

/-- The facet of a name is one of intervals, and names one target. -/
def NamesOneTarget (name : String) (request : Request) : Prop :=
  ∃ facets facet members, Assoc.get? "facets" request = some (.obj facets) ∧
    Assoc.get? name facets = some (.obj facet) ∧ Assoc.get? "range" facet = some (.obj members) ∧
    RangeOptions.NamesOneTarget members

/-- With nothing seeded there is a request, and whatever is seeded, the facet of a name is one of
intervals and names one target. -/
def AlwaysNamesOneTarget {ε : Type} (name : String) (compiled : Request → Except ε Request) :
    Prop :=
  (∃ request, compiled [] = .ok request) ∧
    ∀ seed request, compiled seed = .ok request → NamesOneTarget name request

/-- A filter that is asked finds its facet in the request, also when it is asked twice. -/
theorem get?_of_mem_compileFacetsOf {filters asking : List Filter} {facet : Json}
    (h : asking.foldlM (compileFacet flags filters) request = .ok after)
    (hfilter : filter ∈ asking)
    (hsole : ∀ other ∈ asking, other.name = filter.name → other = filter)
    (hfacet : filter.facetRequest? flags (conditionOfOthers? flags filters filter.name) =
      some facet) : Assoc.get? filter.name (after.membersOf "facets") = some facet := by
  rw [(membersOf_of_compileFacetsOf h).1]
  refine Assoc.get?_extend_of_forall ?_ fun entry hentry hname => ?_
  · refine List.mem_map.2 ⟨(filter.name, facet), List.mem_filterMap.2 ⟨filter, hfilter, ?_⟩, rfl⟩
    rw [hfacet]
    rfl
  · obtain ⟨other, hother, hsome⟩ := List.mem_filterMap.1 hentry
    obtain ⟨written, hwritten, rfl⟩ := Option.map_eq_some_iff.1 hsome
    obtain rfl := hsole other hother hname
    exact Option.some.inj (hwritten.symm.trans hfacet)

namespace WellFormed

variable (h : search.WellFormed) (hmem : filter ∈ search.filters.items)
  {intervals : RangeOptions} (hkind : filter.kind = .range intervals)
  (hon : filter.enabled.isOn flags = true)

include h hmem hkind hon

/-- **The check that a filter passed long ago shows in its facet.** -/
theorem namesOneTarget_of_asked {asking : List Filter}
    (hasking : ∀ other ∈ asking, other ∈ search.filters.items) (hfilter : filter ∈ asking)
    (hafter : asking.foldlM (compileFacet flags search.filters.items) request = .ok after) :
    NamesOneTarget filter.name after := by
  obtain ⟨facet, members, hfacet, hrange, htarget⟩ :=
    Filter.exists_rangeFacet (h.checked filter hmem) hkind hon
      (conditionOfOthers? flags search.filters.items filter.name)
  have hsole : ∀ other ∈ asking, other.name = filter.name → other = filter :=
    fun other hother hname =>
      List.inj_on_of_nodup_map h.filterNames (hasking other hother) hmem hname
  obtain ⟨facets, hfacets, hname⟩ :=
    Request.get?_of_get?_membersOf (get?_of_mem_compileFacetsOf hafter hfilter hsole hfacet)
  exact ⟨facets, facet, members, hfacets, hname, hrange, htarget⟩

theorem alwaysNamesOneTarget_compile (hinclude : options.includeFacets = true) :
    AlwaysNamesOneTarget filter.name (search.compile flags options) := by
  obtain ⟨bare, hbare, -⟩ := exists_compile_facets flags search hinclude
  refine ⟨⟨bare, hbare⟩, fun seed request hrequest => ?_⟩
  obtain ⟨asked, fielded, faceted, -, -, hfaceted, hconditions⟩ := compile_eq_ok_iff.1 hrequest
  rw [compileFacets, if_pos hinclude] at hfaceted
  obtain ⟨facets, hfacets⟩ :=
    h.namesOneTarget_of_asked hmem hkind hon (fun _ hother => hother) hmem hfaceted
  refine ⟨facets, ?_⟩
  rw [get?_of_compileConditions hconditions (by decide)]
  exact hfacets

theorem alwaysNamesOneTarget_compileRecount (hname : name ∈ search.filters.names)
    (hasked : name = filter.name ∨ options.includeFacets = true) :
    AlwaysNamesOneTarget filter.name (search.compileRecount flags options name) := by
  obtain ⟨named, hnamed, hsame⟩ := List.mem_map.1 hname
  have hget : search.filters.get? name = some named :=
    (Catalog.get?_eq_some_iff h.filterNames).2 ⟨hnamed, hsame⟩
  have hasking : ∀ other ∈ search.recounted options named, other ∈ search.filters.items := by
    intro other hother
    rcases List.mem_cons.1 hother with rfl | hrest
    · exact hnamed
    · split at hrest
      · exact hrest
      · exact absurd hrest List.not_mem_nil
  have hfilter : filter ∈ search.recounted options named := by
    rcases hasked with rfl | hinclude
    · rw [List.inj_on_of_nodup_map h.filterNames hnamed hmem hsame]
      exact List.mem_cons_self
    · rw [recounted, if_pos hinclude]
      exact List.mem_cons_of_mem _ hmem
  obtain ⟨bare, hbare⟩ := exists_compileFacetsOf flags search.filters.items
    (search.recounted options named)
  refine ⟨⟨bare, ?_⟩, fun seed request hrequest => ?_⟩
  · rw [compileRecount_eq options hget, hbare]
    rfl
  · rw [compileRecount_eq options hget] at hrequest
    cases hafter : (search.recounted options named).foldlM
        (compileFacet flags search.filters.items) seed with
    | error rejection =>
      rw [hafter] at hrequest
      cases hrequest
    | ok after =>
      rw [hafter] at hrequest
      obtain rfl : after = request := Except.ok.inj hrequest
      exact h.namesOneTarget_of_asked hmem hkind hon hasking hfilter hafter

end WellFormed

end

end Search

/-! ## Every run -/

end FacetedSearch
