import FacetedSearch.Proofs.Filter.ByIds
import FacetedSearch.Proofs.Search.Reachable

/-!
# Selecting by id in a search

A search looks the ids up in the filter of a name, selects the values that they lead to, and
puts the filter in its place.  If an id cannot be read, nothing changes; otherwise the selected
ids are the one spellings of those that were given, whatever was offered and whatever was
selected before.

* `Search.filter_update`, `Search.filter_withSelection`: the filter that is found after a change;
* `Search.selectIds_eq`: selecting by ids;
* `Search.selectIds_canonical`: the selected ids.
-/

namespace FacetedSearch
namespace Search

variable {search : Search} {name : String} {held filter : Filter}

/-! ## The steps -/

theorem filters_withSelection (search : Search) (filter : Filter) (previous : List FacetValue)
    (silent : Bool) : (search.withSelection filter previous silent).search =
      { search with filters := search.filters.update filter.name fun _ => filter } := by
  unfold withSelection
  dsimp only
  split <;> rfl

theorem answer_withSelection (search : Search) (filter : Filter) (previous : List FacetValue)
    (silent : Bool) : (search.withSelection filter previous silent).answer = .ok () := by
  unfold withSelection
  dsimp only
  split <;> rfl

/-- A filter that takes the place of another of its name is found there. -/
theorem filter_update (hheld : search.filter name = .ok held) (hname : filter.name = name) :
    ({ search with filters := search.filters.update name fun _ => filter } : Search).filter name =
      .ok filter := by
  have hget : (search.filters.update name fun _ => filter).get? name =
      (search.filters.get? name).map fun _ => filter :=
    Catalog.get?_update fun _ _ _ => hname
  unfold Search.filter at hheld ⊢
  cases hfound : search.filters.get? name with
  | none =>
    rw [hfound] at hheld
    cases hheld
  | some other => simp only [hget, hfound, Option.map_some]

theorem filter_withSelection (hheld : search.filter name = .ok held) (hname : filter.name = name)
    (previous : List FacetValue) (silent : Bool) :
    (search.withSelection filter previous silent).search.filter name = .ok filter := by
  subst hname
  rw [filters_withSelection]
  exact filter_update hheld rfl

theorem select_eq (hheld : search.filter name = .ok held) (values : List FacetValue)
    (silent : Bool) :
    search.select name values silent =
      match held.select values with
      | .error error => .refuse search error
      | .ok next => search.withSelection next held.selected silent := by
  unfold select
  cases hselect : held.select values with
  | error error => simp only [hheld, hselect]
  | ok next => simp only [hheld, hselect]

/-- Selecting by ids is looking them up, selecting what they lead to, and putting the filter in
its place; it is refused where one of the first two fails. -/
theorem selectIds_eq (hheld : search.filter name = .ok held) (ids : List String) (silent : Bool) :
    search.selectIds name ids silent =
      match (held.valuesOfIds ids).bind held.select with
      | .error error => .refuse search error
      | .ok next => search.withSelection next held.selected silent := by
  have hlook : ((Except.ok held : Except SearchError Filter).bind fun filter =>
      filter.valuesOfIds ids) = held.valuesOfIds ids := rfl
  unfold selectIds
  rw [hheld, hlook]
  cases held.valuesOfIds ids with
  | error error => rfl
  | ok values => exact select_eq hheld values silent

theorem name_of_select {values : List FacetValue} (h : held.select values = .ok filter) :
    filter.name = held.name := by
  obtain ⟨accepted, -, rfl⟩ := Filter.select_eq_ok_iff.1 h
  rfl

/-! ## The selected ids -/

/-- **Selecting by ids ends with their one spellings.**  It succeeds exactly if every id can be
read, and then the selected ids are the ids as they are in a filter over terms, the texts of the
integers that they denote in one over integers, and the ids of the intervals that they denote in
one over intervals.  Nothing else matters: not how an id was spelled, not what is offered, and
not what was selected before. -/
theorem selectIds_canonical (h : search.Reachable) (hfilter : search.filter name = .ok filter)
    (hkind : filter.kind.isBuiltIn = true) (hoffers : filter.OffersPlainly) {ids : List String}
    (hfinite : ∀ id ∈ ids, filter.kind.ReadsFinite id) (silent : Bool) :
    ((search.selectIds name ids silent).answer = .ok () ↔
        ∀ id ∈ ids, (filter.kind.canonicalId? id).isSome = true) ∧
      ((search.selectIds name ids silent).answer = .ok () →
        (search.selectIds name ids silent).search.selectedIds name =
          .ok (ids.filterMap filter.kind.canonicalId?)) := by
  have hkeeps : filter.kind.KeepsConversions := FilterKind.keepsConversions_of_isBuiltIn hkind
  have settled : filter.Settled :=
    (h.coherent.reachable filter (filter_eq_ok hfilter).1).settled hkeeps
  have hlists : ∀ facet ∈ filter.available, filter.kind.Lists facet.key :=
    fun _ hfacet => hoffers.lists hkind hfacet
  rw [← Filter.exists_valuesOfIds_iff hkeeps, selectIds_eq hfilter]
  cases hvalues : filter.valuesOfIds ids with
  | error error =>
    refine ⟨⟨?_, ?_⟩, ?_⟩
    · intro hok
      cases hok
    · rintro ⟨values, hok⟩
      cases hok
    · intro hok
      cases hok
  | ok values =>
    obtain ⟨next, hselect, hids⟩ := Filter.select_valuesOfIds settled hlists hfinite hvalues
    have hname : next.name = name := (name_of_select hselect).trans (filter_eq_ok hfilter).2
    have hsteps : (Except.ok values).bind filter.select = .ok next := hselect
    rw [hsteps]
    dsimp only
    rw [answer_withSelection]
    refine ⟨⟨fun _ => ⟨values, rfl⟩, fun _ => rfl⟩, fun _ => ?_⟩
    rw [selectedIds, filter_withSelection hfilter hname]
    exact hids

/-- A year is listed as a text, in another spelling than that in which it is given. -/
theorem selectIds_canonical_of_years :
    let facets : List Facet := [⟨.term (.text "+7"), 2⟩, ⟨.term (.int 8), 1⟩]
    let filter := (Filter.ofKind "year" (.numeric .default)).withFacets facets
    let search : Search := { Search.new with filters := ⟨[filter]⟩ }
    let ids := ["+7", " 008", "9"]
    search.Reachable ∧ search.filter "year" = .ok filter ∧ filter.kind.isBuiltIn = true ∧
      filter.OffersPlainly ∧ (∀ id ∈ ids, filter.kind.ReadsFinite id) ∧
      filter.valuesOfIds ids =
        .ok [.term (.text "+7"), .term (.int 8), .term (.int 9)] ∧
      (search.selectIds "year" ids false).search.selectedIds "year" = .ok ["7", "8", "9"] := by
  intro facets filter search ids
  have hreach : search.Reachable := .call (.replaceFilters [filter])
    (List.forall_mem_singleton.2 (.withFacets facets (.ofKind _ _))) .new
  have hfilter : search.filter "year" = .ok filter := rfl
  have hkind : filter.kind.isBuiltIn = true := rfl
  have hraw : filter.kind.readSection filter.name (.obj [("terms", .arr [
      .obj [("term", .str "+7"), ("count", .int 2)],
      .obj [("term", .int 8), ("count", .int 1)]])]) = .ok (filter.available, 2) := rfl
  have hdouble : ∀ options, filter.kind = .numeric options →
      ∀ facet ∈ filter.available, ∀ x, facet.key ≠ .term (.float x) := by
    intro options _
    refine List.forall_mem_cons.2 ⟨fun x hx => ?_, List.forall_mem_singleton.2 fun x hx => ?_⟩
    · cases hx
    · cases hx
  have hoffers : filter.OffersPlainly :=
    ⟨Or.inr ⟨_, 2, hraw⟩, hdouble, fun options hrange => by cases hrange⟩
  have hfinite : ∀ id ∈ ids, filter.kind.ReadsFinite id :=
    fun id _ options hrange => by cases hrange
  have hcanonical := selectIds_canonical hreach hfilter hkind hoffers hfinite false
  have hspelled : ∀ id ∈ ids, (filter.kind.canonicalId? id).isSome = true := by decide
  exact ⟨hreach, hfilter, hkind, hoffers, hfinite, rfl, hcanonical.2 (hcanonical.1.2 hspelled)⟩

end Search
end FacetedSearch
