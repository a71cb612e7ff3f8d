import FacetedSearch.Proofs.Request.Build
import FacetedSearch.Proofs.Search.Reachable

/-!
# A facet does not depend on its own selection

What is selected in a filter is taken to a request in two places: the filter section, and
the conditions that confine the facets of the *other* filters.  So the requests of two
searches that agree except in what is selected in one filter differ at most in these places.

## Two searches at once

Whether two searches agree in this sense is seen by emptying the selection in both, which
must give the same search (`Search.unselect`).  And that their requests differ only where
they may is seen by leaving these places out of both: of the facets, the conditions that
confine them, but not the one that confines the facet of the filter itself
(`facetView`).  What is left of a request then is what it would be for the search with the
selection emptied (`Search.compile_unselect`), which is the same search for both.

However a selection is changed, it leaves the same search if emptied afterwards; so the
selections of one filter never show in what it asks for itself.

* `facetView`: what is looked at in the facets;
* `Filter.facetRequest?_without`: the facet request, whatever confines it;
* `Search.unselect_select`: changing the selection;
* `Search.compile_unselect`: a request in terms of the search with the selection emptied;
* `Search.compile_of_unselect_eq`, `Search.facet?_compile_select`: two selections.
-/

namespace FacetedSearch

/-- A document without the members of one key. -/
def Json.without (key : String) : Json → Json
  | .obj members => .obj (Assoc.erase key members)
  | document => document

/-- The facet request under a name. -/
def Request.facet? (name : String) (request : Request) : Option Json :=
  Assoc.get? name (request.membersOf "facets")

/-- Looks at the facet request under one name, and at what is left of any other if nothing
confines it. -/
def facetView (name other : String) (facet : Json) : Json :=
  if other = name then facet else facet.without "facet_filter"

namespace Filter

/-- The facet request does not depend on what is selected. -/
theorem facetRequest?_clear (flags : Flags) (filter : Filter) (confinement : Option Json) :
    filter.clear.facetRequest? flags confinement = filter.facetRequest? flags confinement := rfl

/-- Facet requests that are confined in different ways differ in nothing else. -/
theorem facetRequest?_without (flags : Flags) (filter : Filter) (confinement : Option Json) :
    (filter.facetRequest? flags confinement).map (Json.without "facet_filter") =
      (filter.facetRequest? flags none).map (Json.without "facet_filter") := by
  unfold facetRequest?
  split
  · cases confinement with
    | none => rfl
    | some condition =>
      cases filter.kind.aggregation filter.name with
      | obj members =>
        exact congrArg (fun left => some (Json.obj left))
          (Assoc.erase_insert "facet_filter" condition members)
      | null | bool _ | int _ | float _ | str _ | arr _ => rfl
  · rfl

/-- The filter, with nothing selected in it if it has the given name. -/
def unselect (name : String) (filter : Filter) : Filter :=
  if filter.name = name then filter.clear else filter

theorem unselect_of_eq {name : String} {filter : Filter} (h : filter.name = name) :
    filter.unselect name = filter.clear := if_pos h

theorem unselect_of_ne {name : String} {filter : Filter} (h : filter.name ≠ name) :
    filter.unselect name = filter := if_neg h

@[simp] theorem name_unselect (name : String) (filter : Filter) :
    (filter.unselect name).name = filter.name := by
  unfold unselect
  split <;> rfl

end Filter

/-! ## Facets -/

section

variable {flags : Flags} {name : String} {filters : List Filter}

/-- Emptying a selection changes no other filter. -/
theorem filter_map_unselect (name : String) (filters : List Filter) :
    ((filters.map (Filter.unselect name)).filter fun filter => filter.name ≠ name) =
      filters.filter fun filter => filter.name ≠ name := by
  induction filters with
  | nil => rfl
  | cons filter rest ih =>
    rw [List.map_cons, List.filter_cons, List.filter_cons, ih, Filter.name_unselect]
    by_cases hname : filter.name = name
    · rw [if_neg (by simp [hname]), if_neg (by simp [hname])]
    · rw [if_pos (by simp [hname]), if_pos (by simp [hname]), Filter.unselect_of_ne hname]

/-- The facet of a filter is confined in the same way whatever is selected in it. -/
theorem conditionOfOthers?_map_unselect (flags : Flags) (name : String) (filters : List Filter) :
    conditionOfOthers? flags (filters.map (Filter.unselect name)) name =
      conditionOfOthers? flags filters name := by
  unfold conditionOfOthers?
  rw [filter_map_unselect]

/-- What is looked at in the facet request of a filter does not depend on the selection. -/
theorem facetRequest?_view (flags : Flags) (name : String) (filters : List Filter)
    (filter : Filter) :
    (filter.facetRequest? flags (conditionOfOthers? flags filters filter.name)).map
        (facetView name filter.name) =
      ((filter.unselect name).facetRequest? flags
        (conditionOfOthers? flags (filters.map (Filter.unselect name)) filter.name)).map
          (facetView name filter.name) := by
  by_cases hname : filter.name = name
  · -- the filter itself: it is confined by the others alone
    rw [Filter.unselect_of_eq hname, Filter.facetRequest?_clear, hname,
      conditionOfOthers?_map_unselect]
  · -- another filter: what confines it is not looked at
    have hview : facetView name filter.name = Json.without "facet_filter" :=
      funext fun _ => if_neg hname
    rw [Filter.unselect_of_ne hname, hview, Filter.facetRequest?_without,
      Filter.facetRequest?_without _ _ (conditionOfOthers? _ (List.map _ _) _)]

/-- What is looked at in the facets does not depend on the selection. -/
theorem mapValues_facetEntries (asking : List Filter) :
    Assoc.mapValues (facetView name) (facetEntries flags filters asking) =
      Assoc.mapValues (facetView name) (facetEntries flags (filters.map (Filter.unselect name))
        (asking.map (Filter.unselect name))) := by
  unfold Assoc.mapValues facetEntries
  rw [List.map_filterMap, List.map_filterMap, List.filterMap_map]
  refine List.filterMap_congr fun filter _ => ?_
  have hview := congrArg (Option.map fun facet => (filter.name, facet))
    (facetRequest?_view flags name filters filter)
  simpa only [Option.map_map, Function.comp_def, Filter.name_unselect] using hview

end

namespace Search

variable {flags : Flags} {options : RequestOptions} {name : String} {seed first second : Request}

/-! ## Emptying a selection -/

/-- The search with nothing selected in the filter of a name. -/
def unselect (name : String) (search : Search) : Search :=
  { search with filters := search.filters.map (Filter.unselect name) }

theorem unselect_withSelection {search : Search} (h : search.Coherent) {filter selecting : Filter}
    (hfilter : filter ∈ search.filters.items) (hclear : selecting.clear = filter.clear)
    (previous : List FacetValue) (silent : Bool) :
    (search.withSelection selecting previous silent).search.unselect filter.name =
      search.unselect filter.name := by
  have hname : selecting.name = filter.name := by
    show selecting.clear.name = filter.clear.name
    rw [hclear]
  have hfilters : ((search.filters.update selecting.name fun _ => selecting).map
      (Filter.unselect filter.name)) = search.filters.map (Filter.unselect filter.name) := by
    refine Catalog.map_update fun item hitem hsame => ?_
    -- names are distinct, so only the filter itself was replaced
    obtain rfl : item = filter :=
      List.inj_on_of_nodup_map h.names hitem hfilter (hsame.trans hname)
    rw [Filter.unselect_of_eq hname, Filter.unselect_of_eq rfl, hclear]
  unfold withSelection
  dsimp only
  split
  · exact congrArg (fun filters => { search with filters := filters }) hfilters
  · exact congrArg (fun filters => { search with filters := filters }) hfilters

/-- Whatever is selected in a filter, and whether or not it can be, emptying the selection
leaves the same search. -/
theorem unselect_select {search : Search} (h : search.Coherent) (name : String)
    (values : List FacetValue) (silent : Bool) :
    (search.select name values silent).search.unselect name = search.unselect name := by
  unfold select
  split
  · rfl
  · next filter hfilter =>
    split
    · rfl
    · next selecting hselect =>
      obtain ⟨hmem, rfl⟩ := filter_eq_ok hfilter
      obtain ⟨accepted, -, hselecting⟩ := Filter.select_eq_ok_iff.1 hselect
      have hclear : selecting.clear = filter.clear := by
        rw [hselecting]
        rfl
      exact unselect_withSelection h hmem hclear _ silent

/-! ## Requests -/

/-- What is looked at in a request is what it would be with the selection emptied. -/
theorem compile_unselect {search : Search} {request : Request}
    (h : search.compile flags options seed = .ok request) (name : String) :
    ∃ asked fielded, (search.unselect name).compileQuery seed = .ok asked ∧
      (search.unselect name).compileFields flags options asked = .ok fielded ∧
      Assoc.mapValues (facetView name) (request.membersOf "facets") =
        Assoc.extend (Assoc.mapValues (facetView name) (fielded.membersOf "facets"))
          (Assoc.mapValues (facetView name)
            ((search.unselect name).facetsAsked flags options)) ∧
      ∀ key, key ≠ "facets" → key ≠ "filter" →
        Assoc.get? key request = Assoc.get? key fielded := by
  obtain ⟨asked, fielded, faceted, hasked, hfielded, hfaceted, hrequest⟩ := compile_eq_ok_iff.1 h
  obtain ⟨hmembers, hframe⟩ := membersOf_of_compileFacets hfaceted
  have hentries : Assoc.mapValues (facetView name) (search.facetsAsked flags options) =
      Assoc.mapValues (facetView name) ((search.unselect name).facetsAsked flags options) := by
    unfold facetsAsked
    split
    · exact mapValues_facetEntries _
    · rfl
  refine ⟨asked, fielded, hasked, hfielded, ?_, fun key hfacets hfilter => ?_⟩
  · have hkept : request.membersOf "facets" = faceted.membersOf "facets" :=
      Request.membersOf_congr (get?_of_compileConditions hrequest (by decide))
    rw [hkept, hmembers, Assoc.mapValues_extend, hentries]
  · rw [get?_of_compileConditions hrequest hfilter, hframe key hfacets]

/-- **Searches that agree except in one selection ask for the same**, but for the filter
section and the conditions that confine the other facets. -/
theorem compile_of_unselect_eq {search other : Search}
    (hsame : search.unselect name = other.unselect name)
    (hfirst : search.compile flags options seed = .ok first)
    (hsecond : other.compile flags options seed = .ok second) :
    Assoc.mapValues (facetView name) (first.membersOf "facets") =
        Assoc.mapValues (facetView name) (second.membersOf "facets") ∧
      ∀ key, key ≠ "facets" → key ≠ "filter" → Assoc.get? key first = Assoc.get? key second := by
  obtain ⟨asked, fielded, hasked, hfielded, hfacets, hframe⟩ := compile_unselect hfirst name
  obtain ⟨asked', fielded', hasked', hfielded', hfacets', hframe'⟩ :=
    compile_unselect hsecond name
  rw [← hsame] at hasked' hfielded' hfacets'
  obtain rfl : asked = asked' := Except.ok.inj (hasked.symm.trans hasked')
  obtain rfl : fielded = fielded' := Except.ok.inj (hfielded.symm.trans hfielded')
  refine ⟨hfacets.trans hfacets'.symm, fun key hkey hkey' => ?_⟩
  rw [hframe key hkey hkey', hframe' key hkey hkey']

/-- Facets that look the same as a whole look the same under every name. -/
theorem facet?_of_mapValues_eq
    (h : Assoc.mapValues (facetView name) (first.membersOf "facets") =
      Assoc.mapValues (facetView name) (second.membersOf "facets")) (other : String) :
    (first.facet? other).map (facetView name other) =
      (second.facet? other).map (facetView name other) := by
  unfold Request.facet?
  rw [← Assoc.get?_mapValues, ← Assoc.get?_mapValues, h]

/-- **A facet does not depend on its own selection.**  Whatever two lists of values are
selected in a filter, the two requests ask for the same facet under its name, have the same
in every section but those of the facets and of the filter, and ask for the same facet under
every other name, except for the condition that confines it. -/
theorem facet?_compile_select {search : Search} (h : search.Reachable) (flags : Flags)
    (options : RequestOptions) (name : String) (values values' : List FacetValue)
    (silent silent' : Bool)
    (hfirst : (search.select name values silent).search.compile flags options seed = .ok first)
    (hsecond :
      (search.select name values' silent').search.compile flags options seed = .ok second) :
    first.facet? name = second.facet? name ∧
      (∀ key, key ≠ "facets" → key ≠ "filter" → Assoc.get? key first = Assoc.get? key second) ∧
      ∀ other, other ≠ name →
        (first.facet? other).map (Json.without "facet_filter") =
          (second.facet? other).map (Json.without "facet_filter") := by
  have hsame : (search.select name values silent).search.unselect name =
      (search.select name values' silent').search.unselect name := by
    rw [unselect_select h.coherent, unselect_select h.coherent]
  obtain ⟨hfacets, hframe⟩ := compile_of_unselect_eq hsame hfirst hsecond
  have hview := facet?_of_mapValues_eq hfacets
  refine ⟨?_, hframe, fun other hother => ?_⟩
  · have hwhole : facetView name name = id := funext fun _ => if_pos rfl
    have hname := hview name
    rw [hwhole, Option.map_id, id, id] at hname
    exact hname
  · have hleft : facetView name other = Json.without "facet_filter" :=
      funext fun _ => if_neg hother
    have hname := hview other
    rw [hleft] at hname
    exact hname

/-- A year is selected, and one author or two. -/
theorem facet?_compile_select_of_authors :
    let filters : List Filter :=
      [.ofKind "author" (.term .default), .ofKind "year" (.numeric .default)]
    let search := ((Call.select "year" [.term (.int 1980)] true).reply
      ((Call.replaceFilters filters).reply new).search).search
    let one := (search.select "author" [.term (.text "Eco")] true).search
    let two := (search.select "author" [.term (.text "Eco"), .term (.text "Levi")] true).search
    search.Reachable ∧ ∃ first second, one.compile (fun _ => false) .all [] = .ok first ∧
      two.compile (fun _ => false) .all [] = .ok second ∧
      first.facet? "author" = second.facet? "author" ∧
      (first.facet? "year").map (Json.without "facet_filter") =
        (second.facet? "year").map (Json.without "facet_filter") := by
  intro filters search one two
  have hfilters : ∀ filter ∈ filters, filter.Reachable :=
    List.forall_mem_cons.2 ⟨.ofKind _ _, List.forall_mem_singleton.2 (.ofKind _ _)⟩
  have hdefined : ((Call.replaceFilters filters).reply new).search.Reachable :=
    .call _ hfilters .new
  have hreach : search.Reachable := hdefined.call_of_filters_eq_nil _ rfl
  obtain ⟨first, hfirst⟩ : ∃ first, one.compile (fun _ => false) .all [] = .ok first := ⟨_, rfl⟩
  obtain ⟨second, hsecond⟩ : ∃ second, two.compile (fun _ => false) .all [] = .ok second :=
    ⟨_, rfl⟩
  obtain ⟨hown, -, hothers⟩ := facet?_compile_select hreach (fun _ => false) .all "author"
    _ _ true true hfirst hsecond
  exact ⟨hreach, first, second, hfirst, hsecond, hown, hothers "year" (by decide)⟩

end Search
end FacetedSearch
