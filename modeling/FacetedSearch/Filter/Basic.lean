import FacetedSearch.Catalog
import FacetedSearch.Filter.Kind
import FacetedSearch.Switch

/-!
# Filters

A filter offers the facets of one field and holds what is selected among them.

Selected values are kept in the form that the filter's ids are read back as, and every
selected id has a placeholder, a facet without results.  The placeholder stands in for
the facet when no response has listed it, so a selection never loses its line.

## Main definitions

* `Combination`, `Filter`: filters and how several selected values combine;
* `Filter.facetOfId`, `Filter.idOfValue`, `Filter.valueOfId`: going between ids, facets and
  selected values;
* `Filter.choices`, `Filter.selectedFacets`: the lines that are shown;
* `Filter.select`, `Filter.clear`: changing the selection;
* `Filter.condition?`, `Filter.facetRequest?`: what a filter adds to a request;
* `Filter.tally`, `Filter.refresh`: what a filter takes from a response.
-/

namespace FacetedSearch

/-- How several selected values combine. -/
inductive Combination where
  /-- One of them has to hold. -/
  | any
  /-- Each of them has to hold. -/
  | all
  deriving DecidableEq

namespace Combination

/-- The word for a combination. -/
def word : Combination → String
  | .any => "or"
  | .all => "and"

/-- The combination of a word. -/
def ofWord? : String → Option Combination
  | "or" => some .any
  | "and" => some .all
  | _ => none

/-- A combination as a document. -/
def toJson (combination : Combination) : Json := .str combination.word

/-- The combination in a document. -/
def ofJson? (document : Json) : Option Combination := document.variant?.bind ofWord?

@[simp] theorem ofWord?_word (combination : Combination) :
    ofWord? combination.word = some combination := by
  cases combination <;> rfl

end Combination

/-- What a response says about one filter. -/
structure Tally where
  facets : List Facet
  /-- How many facets there are, listed or not. -/
  totalFacets : UInt64
  totalResults : UInt64

/-- Nothing is listed and nothing is counted. -/
def Tally.none : Tally := ⟨[], 0, 0⟩

/-- A facetable field with what is offered and what is selected. -/
structure Filter where
  name : String
  label : String
  kind : FilterKind
  enabled : Switch
  multiple : Bool
  combination : Combination
  /-- What labels put before a value. -/
  lead : String
  /-- What labels put after a value. -/
  trail : String
  expandable : Bool
  collapsible : Bool
  /-- The facets of the last response. -/
  available : List Facet
  selected : List FacetValue
  /-- A facet without results for every selected id. -/
  placeholders : Assoc Facet
  totalFacets : UInt64
  totalResults : UInt64

instance : Named Filter := ⟨Filter.name⟩

namespace Filter

/-- The filter of a name and a kind, with nothing offered and nothing selected. -/
def ofKind (name : String) (kind : FilterKind) : Filter where
  name := name
  label := name
  kind := kind
  enabled := .fixed true
  multiple := true
  combination := .any
  lead := ""
  trail := ""
  expandable := true
  collapsible := true
  available := []
  selected := []
  placeholders := []
  totalFacets := 0
  totalResults := 0

/-- A filter needs a name, a way of being displayed, and options that fit together. -/
def check (filter : Filter) : Except SearchError Unit :=
  if filter.name = "" then .error (.configuration .nameRequired)
  else if !filter.expandable && !filter.collapsible then
    .error (.configuration (.undisplayable filter.name))
  else filter.kind.check

/-- Whether anything is selected. -/
def hasSelection (filter : Filter) : Bool := !filter.selected.isEmpty

/-- Whether there are more facets than the response listed. -/
def hasMore (filter : Filter) : Bool :=
  UInt64.ofNat filter.available.length < filter.totalFacets

/-! ## Ids, facets and values -/

/-- The facet of an id: the available one whose value or id it is, else the placeholder
of that id, else a facet without results. -/
def facetOfId (filter : Filter) (id : String) : Except SearchError Facet := do
  let key ← filter.kind.ofId id
  let listed := filter.available.find? fun facet =>
    facet.key.sameValue key || filter.kind.idOf facet.key == id
  let held := (filter.placeholders.get? id).or (filter.placeholders.get? (filter.kind.idOf key))
  return (listed.or held).getD (.placeholder key)

/-- The facets of several ids. -/
def facetsOfIds (filter : Filter) (ids : List String) : Except SearchError (List Facet) :=
  ids.mapM filter.facetOfId

/-- The value of an id: that of its facet. -/
def valueOfId (filter : Filter) (id : String) : Except SearchError FacetValue :=
  (filter.facetOfId id).map fun facet => filter.kind.valueOf facet.key

/-- The values of several ids. -/
def valuesOfIds (filter : Filter) (ids : List String) : Except SearchError (List FacetValue) :=
  ids.mapM filter.valueOfId

/-- The id of a value, in the form in which the filter would select it. -/
def idOfValue (filter : Filter) (value : FacetValue) : Except SearchError String :=
  (filter.kind.accept filter.name value).map filter.kind.idOf

/-- The ids of several values. -/
def idsOfValues (filter : Filter) (values : List FacetValue) : Except SearchError (List String) :=
  values.mapM filter.idOfValue

/-! ## Lines -/

/-- Whether a facet covers every result while nothing is selected. -/
def matchesAll (filter : Filter) (facet : Facet) : Bool :=
  facet.count == filter.totalResults && filter.selected.isEmpty

/-- The text of a facet's line. -/
def lineOf (filter : Filter) (facet : Facet) : String :=
  filter.kind.label ⟨filter.lead, filter.trail, facet.count == 0, filter.matchesAll facet⟩ facet

/-- The ids of the selected values. -/
def selectedIds (filter : Filter) : Except SearchError (List String) :=
  filter.idsOfValues filter.selected

/-- The facets of the selected values. -/
def selectedFacets (filter : Filter) : Except SearchError (List Facet) :=
  filter.selectedIds.bind filter.facetsOfIds

/-- Whether a selected value has the given id. -/
def isSelected (filter : Filter) (id : String) : Bool :=
  filter.selected.any fun value =>
    match filter.idOfValue value with
    | .ok selectedId => selectedId == id
    | .error _ => false

/-- A facet as something to be selected. -/
def choice (filter : Filter) (facet : Facet) : Choice where
  id := filter.kind.idOf facet.key
  text := filter.lineOf facet
  count := facet.count
  selected := filter.isSelected (filter.kind.idOf facet.key)
  muted := facet.count == 0
  matchAll := filter.matchesAll facet

/-- The available facets as choices. -/
def choices (filter : Filter) : List Choice := filter.available.map filter.choice

/-- The selected facets as choices. -/
def selectedChoices (filter : Filter) : Except SearchError (List Choice) :=
  filter.selectedFacets.map fun facets => facets.map filter.choice

/-! ## Selecting -/

/-- The placeholders of keys, by id. -/
def placeholdersOf (kind : FilterKind) (keys : List FacetValue) : Assoc Facet :=
  keys.foldl (fun held key => held.insert (kind.idOf key) (.placeholder key)) []

/-- Replaces the selection, unless the filter cannot select one of the values. -/
def select (filter : Filter) (values : List FacetValue) : Except SearchError Filter :=
  (values.mapM (filter.kind.accept filter.name)).map fun keys =>
    { filter with
      selected := keys.map filter.kind.valueOf
      placeholders := placeholdersOf filter.kind keys }

/-- Selects nothing. -/
def clear (filter : Filter) : Filter :=
  { filter with selected := [], placeholders := [] }

/-! ## Requests -/

/-- The condition for the selection: none when the filter is off or nothing is selected,
and several values combine as the filter says. -/
def condition? (flags : Flags) (filter : Filter) : Option Json :=
  if filter.enabled.isOn flags then
    match filter.selected with
    | [] => none
    | [value] => filter.kind.condition? filter.name value
    | values =>
      match values.filterMap (filter.kind.condition? filter.name) with
      | [] => none
      | conditions => some (.single filter.combination.word (.arr conditions))
  else none

/-- The facet request, confined to the results of a condition if one is given. -/
def facetRequest? (flags : Flags) (filter : Filter) (confinement : Option Json) : Option Json :=
  if filter.enabled.isOn flags then
    match confinement, filter.kind.aggregation filter.name with
    | some condition, .obj members => some (.obj (Assoc.insert "facet_filter" condition members))
    | _, request => some request
  else none

/-! ## Responses -/

/-- What a response says about the filter: nothing when the filter is off, and only the
number of results when it has no section. -/
def tally (flags : Flags) (filter : Filter) (response : Response) :
    Except SearchError Tally :=
  if filter.enabled.isOn flags then
    match response.section? filter.name with
    | some raw => (filter.kind.readSection filter.name raw).map fun read =>
        ⟨read.1, read.2, response.hits.total⟩
    | none => .ok ⟨[], 0, response.hits.total⟩
  else .ok .none

/-- Offers the given facets. -/
def withFacets (filter : Filter) (facets : List Facet) : Filter :=
  { filter with available := facets }

/-- Takes over the totals of a response. -/
def withTotals (filter : Filter) (tally : Tally) : Filter :=
  { filter with totalFacets := tally.totalFacets, totalResults := tally.totalResults }

/-- Takes over the totals and the facets of a response. -/
def withTally (filter : Filter) (tally : Tally) : Filter :=
  (filter.withTotals tally).withFacets tally.facets

/-- Takes over the totals of a response, and gives the facets back. -/
def readTotals (flags : Flags) (filter : Filter) (response : Response) :
    Except SearchError (List Facet × Filter) :=
  (filter.tally flags response).map fun tally =>
    (tally.facets, filter.withTotals tally)

/-- Takes over the totals and the facets of a response. -/
def refresh (flags : Flags) (filter : Filter) (response : Response) :
    Except SearchError Filter :=
  (filter.tally flags response).map filter.withTally

end Filter

end FacetedSearch
