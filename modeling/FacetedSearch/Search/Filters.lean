import FacetedSearch.Search.Basic

/-!
# Filters of a search

Filters are defined, added and removed like fields.  Their selections are replaced by
value or by id, and listeners hear of it only when the selection is not the same as
before, or not at all if the change is to be silent.

## Main definitions

* `Search.replaceFilters`, `Search.pushFilter`, `Search.eraseFilter`: the filters;
* `Search.select`, `Search.selectIds`, `Search.clearSelection`: the selections;
* `Search.selection`, `Search.selectedIds`, `Search.selectedFacets`: reading them.
-/

namespace FacetedSearch

namespace Search

/-- The filter of a name, or the error that there is none. -/
def filter (search : Search) (name : String) : Except SearchError Filter :=
  match search.filters.get? name with
  | none => .error (.unknownFilter name)
  | some filter => .ok filter

/-! ## The filters -/

/-- Replaces every filter. -/
def replaceFilters (search : Search) (filters : List Filter) : Reply Unit :=
  match filters.forM Filter.check with
  | .error error => .refuse search error
  | .ok () => match Catalog.ofList? filters with
    | .error error => .refuse search error
    | .ok filters => .announce { search with filters := filters } ()
        [⟨.filtersReset filters.names, .filters⟩]

/-- Appends a filter. -/
def pushFilter (search : Search) (filter : Filter) : Reply Unit :=
  match filter.check with
  | .error error => .refuse search error
  | .ok () => match search.filters.push? filter with
    | .error error => .refuse search error
    | .ok filters =>
      .announce { search with filters := filters } ()
        [⟨.filterAdded filter.name search.filters.size, .filters⟩]

/-- Removes the filter of a name and answers with it. -/
def eraseFilter (search : Search) (name : String) : Reply Filter :=
  match search.filters.remove? name with
  | none => .refuse search (.unknownFilter name)
  | some (index, filter, filters) =>
    .announce { search with filters := filters } filter
      [⟨.filterRemoved name index, .filters⟩]

/-! ## The selections -/

/-- Puts a filter in the place of the one of its name, whose selection was `previous`. -/
def withSelection (search : Search) (filter : Filter) (previous : List FacetValue)
    (silent : Bool) : Reply Unit :=
  let changed := { search with filters := search.filters.update filter.name fun _ => filter }
  if silent || FacetValue.sameValues previous filter.selected then .quiet changed ()
  else .announce changed ()
      [⟨.selectionChanged filter.name previous filter.selected, .selection filter.name⟩]

/-- Replaces the selection of a filter by values. -/
def select (search : Search) (name : String) (values : List FacetValue) (silent : Bool) :
    Reply Unit :=
  match search.filter name with
  | .error error => .refuse search error
  | .ok filter => match filter.select values with
    | .error error => .refuse search error
    | .ok selecting => search.withSelection selecting filter.selected silent

/-- Replaces the selection of a filter by the values of ids. -/
def selectIds (search : Search) (name : String) (ids : List String) (silent : Bool) :
    Reply Unit :=
  match (search.filter name).bind fun filter => filter.valuesOfIds ids with
  | .error error => .refuse search error
  | .ok values => search.select name values silent

/-- Selects nothing in a filter. -/
def clearSelection (search : Search) (name : String) (silent : Bool) : Reply Unit :=
  match search.filter name with
  | .error error => .refuse search error
  | .ok filter => search.withSelection filter.clear filter.selected silent

/-- The selected values of a filter. -/
def selection (search : Search) (name : String) : Except SearchError (List FacetValue) :=
  (search.filter name).map Filter.selected

/-- The ids of the selected values of a filter. -/
def selectedIds (search : Search) (name : String) : Except SearchError (List String) :=
  (search.filter name).bind Filter.selectedIds

/-- The facets of the selected values of a filter. -/
def selectedFacets (search : Search) (name : String) : Except SearchError (List Facet) :=
  (search.filter name).bind Filter.selectedFacets

end Search

end FacetedSearch
