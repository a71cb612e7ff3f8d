import FacetedSearch.Proofs.Request.Build
import FacetedSearch.Proofs.Search.SortCell

/-!
# What is switched off is not there

A field or a filter that is switched off stays in its place with all that is known of it: its
sort or its script, what is selected in it and what it offers.  None of this shows in a request.
The request is the one that is compiled when the field or the filter is not there at all, down
to the order of its members, and if a seed makes the one be rejected then it makes the other be
rejected for the same reason and with the same draft.

## Passes over what is on

Each pass goes through a list and what is off adds nothing to it: a field takes no step, a facet
request is not made, and a condition is not among those that are counted.  The last one has two
effects, on the filter section and on what confines the facets of other filters.  So what a pass
does to the whole list it does to the part that is on (`Search.compile_switchedOn`), and taking
out something that is off leaves that part as it is.

* `Search.compileField_of_off`, `Search.compileFacet_of_off`, `Filter.condition?_of_off`: what is
  off adds nothing;
* `conditions_filter_isOn`, `conditionOfOthers?_filter_isOn`: nor does it count;
* `Search.switchedOn`, `Search.compile_switchedOn`: the part of a search that is on;
* `Search.eraseSwitchedOff_eq`: how that part is reached, by removing one item after the other;
* `Search.compile_without_switched_off`: removing what is off, one item or all.
-/

namespace FacetedSearch

variable {flags : Flags}

/-! ## What is off adds nothing -/

theorem Filter.condition?_of_off {filter : Filter} (hoff : filter.enabled.isOn flags = false) :
    filter.condition? flags = none := by
  simp [Filter.condition?, hoff]

namespace Search

theorem compileField_of_off {field : Field} (hoff : field.enabled.isOn flags = false)
    (request : Request) : compileField flags request field = .ok request := by
  have hscript : field.scriptRequest? flags = none := by simp [Field.scriptRequest?, hoff]
  have hfield : field.fieldRequest? flags = none := by simp [Field.fieldRequest?, hoff]
  have hsort : field.sortRequest? flags = none := by simp [Field.sortRequest?, hoff]
  rw [compileField_eq, addSource, hscript, hfield]
  show addSort flags field request = .ok request
  rw [addSort, hsort]

theorem compileFacet_of_off {filter : Filter} (hoff : filter.enabled.isOn flags = false)
    (filters : List Filter) (request : Request) :
    compileFacet flags filters request filter = .ok request := by
  have hfacet : ∀ confinement, filter.facetRequest? flags confinement = none := by
    intro confinement
    simp [Filter.facetRequest?, hoff]
  rw [compileFacet, hfacet]

end Search

/-! ## Nor does it count -/

/-- The conditions are those of the filters that are on. -/
theorem conditions_filter_isOn (flags : Flags) (filters : List Filter) :
    conditions flags (filters.filter fun filter => filter.enabled.isOn flags) =
      conditions flags filters := by
  unfold conditions
  rw [List.filterMap_filter]
  refine List.filterMap_congr fun filter _ => ?_
  cases hon : filter.enabled.isOn flags with
  | true => rfl
  | false => rw [Filter.condition?_of_off hon]; rfl

/-- What confines a facet are the conditions of the other filters that are on. -/
theorem conditionOfOthers?_filter_isOn (flags : Flags) (filters : List Filter) (name : String) :
    conditionOfOthers? flags (filters.filter fun filter => filter.enabled.isOn flags) name =
      conditionOfOthers? flags filters name := by
  unfold conditionOfOthers?
  rw [List.filter_comm, conditions_filter_isOn]

namespace Search

variable {search : Search} {options : RequestOptions} {seed : Request} {name : String}

theorem compileFacet_filter_isOn (flags : Flags) (filters : List Filter) :
    compileFacet flags (filters.filter fun filter => filter.enabled.isOn flags) =
      compileFacet flags filters := by
  funext request filter
  unfold compileFacet
  rw [conditionOfOthers?_filter_isOn]

/-! ## The part that is on -/

/-- The search without the fields and filters that are off. -/
def switchedOn (flags : Flags) (search : Search) : Search :=
  { search with
    fields := ⟨search.fields.items.filter fun field => field.enabled.isOn flags⟩
    filters := ⟨search.filters.items.filter fun filter => filter.enabled.isOn flags⟩ }

theorem compileFields_switchedOn (flags : Flags) (options : RequestOptions) (search : Search)
    (request : Request) :
    (search.switchedOn flags).compileFields flags options request =
      search.compileFields flags options request := by
  unfold compileFields
  split
  · exact Fallible.foldlM_filter (fun field request hoff => compileField_of_off hoff request)
      search.fields.items request
  · rfl

theorem compileFacets_switchedOn (flags : Flags) (options : RequestOptions) (search : Search)
    (request : Request) :
    (search.switchedOn flags).compileFacets flags options request =
      search.compileFacets flags options request := by
  unfold compileFacets
  split
  · simp only [switchedOn, compileFacet_filter_isOn]
    exact Fallible.foldlM_filter (fun filter request hoff => compileFacet_of_off hoff _ request)
      search.filters.items request
  · rfl

theorem compileConditions_switchedOn (flags : Flags) (options : RequestOptions) (search : Search)
    (request : Request) :
    (search.switchedOn flags).compileConditions flags options request =
      search.compileConditions flags options request := by
  unfold compileConditions
  simp only [switchedOn, conditions_filter_isOn]

/-- **A request is that of the part that is on.** -/
theorem compile_switchedOn (flags : Flags) (options : RequestOptions) (search : Search)
    (seed : Request) :
    (search.switchedOn flags).compile flags options seed = search.compile flags options seed := by
  unfold compile
  simp only [compileFields_switchedOn, compileFacets_switchedOn, compileConditions_switchedOn]
  rfl

/-! ## Taking out what is off -/

/-- Searches that are on in the same part ask for the same. -/
theorem compile_congr_switchedOn {other : Search}
    (h : other.switchedOn flags = search.switchedOn flags) (options : RequestOptions)
    (seed : Request) :
    other.compile flags options seed = search.compile flags options seed := by
  rw [← compile_switchedOn, h, compile_switchedOn]

theorem eraseField_of_off {field : Field} (hget : search.fields.get? name = some field)
    (hoff : field.enabled.isOn flags = false) :
    (search.eraseField name).answer = .ok field ∧
      (search.eraseField name).search.switchedOn flags = search.switchedOn flags := by
  obtain ⟨index, fields, hremove⟩ := Catalog.exists_remove?_of_get? hget
  have herase : search.eraseField name =
      .announce { search with fields := fields } field
        [⟨.fieldRemoved name index, .fields⟩] := by
    rw [eraseField, hremove]
  have hkept := Catalog.filter_of_remove? (p := fun field => field.enabled.isOn flags) hremove hoff
  rw [herase]
  refine ⟨rfl, ?_⟩
  show switchedOn flags { search with fields := fields } = _
  rw [switchedOn, hkept]
  rfl

theorem eraseFilter_of_off {filter : Filter} (hget : search.filters.get? name = some filter)
    (hoff : filter.enabled.isOn flags = false) :
    (search.eraseFilter name).answer = .ok filter ∧
      (search.eraseFilter name).search.switchedOn flags = search.switchedOn flags := by
  obtain ⟨index, filters, hremove⟩ := Catalog.exists_remove?_of_get? hget
  have herase : search.eraseFilter name =
      .announce { search with filters := filters } filter
        [⟨.filterRemoved name index, .filters⟩] := by
    rw [eraseFilter, hremove]
  have hkept :=
    Catalog.filter_of_remove? (p := fun filter => filter.enabled.isOn flags) hremove hoff
  rw [herase]
  refine ⟨rfl, ?_⟩
  show switchedOn flags { search with filters := filters } = _
  rw [switchedOn, hkept]
  rfl

/-! ## Taking out all that is off -/

/-- The search after every field and every filter that is off was removed, one after the
other. -/
def eraseSwitchedOff (flags : Flags) (search : Search) : Search :=
  let fielded := (search.fields.items.filter fun field => !field.enabled.isOn flags).foldl
    (fun search field => (search.eraseField field.name).search) search
  (search.filters.items.filter fun filter => !filter.enabled.isOn flags).foldl
    (fun search filter => (search.eraseFilter filter.name).search) fielded

theorem search_eraseField (hnames : search.fields.names.Nodup) (name : String) :
    (search.eraseField name).search = { search with fields := search.fields.without name } := by
  unfold eraseField
  split
  · next hnone =>
    rw [Catalog.without_of_notMem (Catalog.remove?_eq_none_iff.1 hnone)]
    rfl
  · next hremove => rw [← Catalog.eq_without_of_remove? hnames hremove]; rfl

theorem search_eraseFilter (hnames : search.filters.names.Nodup) (name : String) :
    (search.eraseFilter name).search = { search with filters := search.filters.without name } := by
  unfold eraseFilter
  split
  · next hnone =>
    rw [Catalog.without_of_notMem (Catalog.remove?_eq_none_iff.1 hnone)]
    rfl
  · next hremove => rw [← Catalog.eq_without_of_remove? hnames hremove]; rfl

theorem foldl_eraseField (search : Search) (gone : List Field)
    (hnames : search.fields.names.Nodup) :
    gone.foldl (fun search field => (search.eraseField field.name).search) search =
      { search with fields := (gone.map Field.name).foldl Catalog.without search.fields } := by
  induction gone generalizing search with
  | nil => rfl
  | cons field rest ih =>
    rw [List.foldl_cons, search_eraseField hnames]
    exact ih _ (Catalog.nodup_names_without hnames field.name)

theorem foldl_eraseFilter (search : Search) (gone : List Filter)
    (hnames : search.filters.names.Nodup) :
    gone.foldl (fun search filter => (search.eraseFilter filter.name).search) search =
      { search with filters := (gone.map Filter.name).foldl Catalog.without search.filters } := by
  induction gone generalizing search with
  | nil => rfl
  | cons filter rest ih =>
    rw [List.foldl_cons, search_eraseFilter hnames]
    exact ih _ (Catalog.nodup_names_without hnames filter.name)

/-- **Removing what is off, one after the other, leaves the part that is on.** -/
theorem eraseSwitchedOff_eq (h : search.Reachable) (flags : Flags) :
    search.eraseSwitchedOff flags = search.switchedOn flags := by
  have hfields : search.fields.names.Nodup := h.sortedBy.names
  have hfilters : search.filters.names.Nodup := h.coherent.names
  let fieldsOn : Catalog Field :=
    ⟨search.fields.items.filter fun field => field.enabled.isOn flags⟩
  have hfielded : (search.fields.items.filter fun field => !field.enabled.isOn flags).foldl
      (fun search field => (search.eraseField field.name).search) search =
        { search with fields := fieldsOn } :=
    (foldl_eraseField search _ hfields).trans <|
      congrArg (fun fields => { search with fields := fields }) <|
        Catalog.foldl_without_names hfields fun field => field.enabled.isOn flags
  unfold eraseSwitchedOff
  rw [hfielded]
  exact (foldl_eraseFilter { search with fields := fieldsOn } _ hfilters).trans <|
    congrArg (fun filters => { search with fields := fieldsOn, filters := filters }) <|
      Catalog.foldl_without_names hfilters fun filter => filter.enabled.isOn flags

/-! ## The request -/

/-- **What is switched off is not there.**  If a field or a filter is off, it can be removed, and
the search without it is compiled onto every seed to the same request, or rejected for the same
reason with the same draft, whatever requests are made of.  So is the search from which
everything that is off was removed. -/
theorem compile_without_switched_off (h : search.Reachable) (flags : Flags)
    (options : RequestOptions) (seed : Request) :
    (∀ name field, search.fields.get? name = some field → field.enabled.isOn flags = false →
      (search.eraseField name).answer = .ok field ∧
        (search.eraseField name).search.compile flags options seed =
          search.compile flags options seed) ∧
    (∀ name filter, search.filters.get? name = some filter → filter.enabled.isOn flags = false →
      (search.eraseFilter name).answer = .ok filter ∧
        (search.eraseFilter name).search.compile flags options seed =
          search.compile flags options seed) ∧
    search.eraseSwitchedOff flags = search.switchedOn flags ∧
      (search.switchedOn flags).compile flags options seed =
        search.compile flags options seed := by
  refine ⟨fun name field hget hoff => ?_, fun name filter hget hoff => ?_,
    eraseSwitchedOff_eq h flags, compile_switchedOn flags options search seed⟩
  · obtain ⟨hanswer, hkept⟩ := eraseField_of_off hget hoff
    exact ⟨hanswer, compile_congr_switchedOn hkept options seed⟩
  · obtain ⟨hanswer, hkept⟩ := eraseFilter_of_off hget hoff
    exact ⟨hanswer, compile_congr_switchedOn hkept options seed⟩

/-- A field with a script and a sort is off, and so is a filter in which something is selected,
by a flag; the seed holds a section that no script can be added to. -/
theorem compile_without_switched_off_of_two :
    let flags : Flags := fun _ => false
    let year : Field := ⟨"year", "Year", some "doc.year", some .asc, .fixed false, .fixed true⟩
    let look : Filter.Look := ⟨"Tags", .flag "beta", true, .any, "", "", true, true⟩
    let tags : Filter := (Filter.ofKind "tags" (.term .default)).withLook look
    let chosen : Filter := { tags with
      selected := [.term (.text "a")]
      placeholders := Filter.placeholdersOf (.term .default) [.term (.text "a")] }
    let search : Search := { Search.new with
      fields := ⟨[year, .ofName "title"]⟩
      filters := ⟨[chosen, .ofKind "author" (.term .default)]⟩ }
    let seed : Request := [("script_fields", .null)]
    search.Reachable ∧ search.fields.get? "year" = some year ∧
      year.enabled.isOn flags = false ∧ search.filters.get? "tags" = some chosen ∧
      chosen.enabled.isOn flags = false ∧
      (search.eraseField "year").search.compile flags .all seed =
        search.compile flags .all seed ∧
      (search.eraseFilter "tags").search.compile flags .all seed =
        search.compile flags .all seed ∧
      (search.switchedOn flags).compile flags .all seed = search.compile flags .all seed := by
  intro flags year look tags chosen search seed
  have hfields : ({ Search.new with fields := ⟨[year, .ofName "title"]⟩ } : Search).Reachable :=
    Reachable.new.call_of_filters_eq_nil (.replaceFields [year, .ofName "title"]) rfl
  have hchosen : chosen.Reachable :=
    .select (.withLook look (.ofKind _ _))
      (show tags.select [.term (.text "a")] = .ok chosen from rfl)
  have hreach : search.Reachable :=
    .call (.replaceFilters [chosen, .ofKind "author" (.term .default)])
      (List.forall_mem_cons.2 ⟨hchosen, List.forall_mem_singleton.2 (.ofKind _ _)⟩) hfields
  have hyear : search.fields.get? "year" = some year := rfl
  have htags : search.filters.get? "tags" = some chosen := rfl
  obtain ⟨hfield, hfilter, -, hall⟩ := compile_without_switched_off hreach flags .all seed
  exact ⟨hreach, hyear, rfl, htags, rfl, (hfield "year" year hyear rfl).2,
    (hfilter "tags" chosen htags rfl).2, hall⟩

end Search
end FacetedSearch
