import FacetedSearch.Search.Basic
import FacetedSearch.Request.Section

/-!
# Compiling requests

A request is compiled in four passes over a seed: what is searched for, the fields, the
facets, and the conditions for what is selected.  The first pass always runs, the others
as the options say.

Each facet is counted among the results of every *other* filter's selection and never of
its own.  So selecting a value does not make its siblings disappear.

## Main definitions

* `Search.compileQuery`, `Search.compileFields`, `Search.compileFacets`,
  `Search.compileConditions`: the passes;
* `Search.compile`, `Search.compileRecount`: the request of a search, and the one that
  counts the facets of a filter again;
* `Search.request`, `Search.facetRequest`: the requests that a search sends.
-/

namespace FacetedSearch

/-- The name under which every indexed field is searched. -/
def allFields : String := "_all"

/-- What a query adds to the query section. -/
def Query.members (query : Query) : Assoc Json :=
  if query.isEmpty then [("match_all", .obj [])]
  else match query with
    | .empty => []
    | .text wanted => [("match", .single allFields (.str wanted))]
    | .terms wanted => [("terms", .single allFields (.arr (wanted.map .str)))]
    | .structured members => members

/-! ## Conditions -/

/-- The conditions of all filters, in order. -/
def conditions (flags : Flags) (filters : List Filter) : List Json :=
  filters.filterMap fun filter => filter.condition? flags

/-- The condition that the selections of all filters but one hold. -/
def conditionOfOthers? (flags : Flags) (filters : List Filter) (name : String) : Option Json :=
  allOf? (conditions flags (filters.filter fun filter => filter.name ≠ name))

namespace Search

/-! ## The passes -/

/-- Says what is searched for. -/
def compileQuery (search : Search) (request : Request) : Except Rejection Request :=
  request.extendObject "query" search.query.members

/-- Adds what one field asks for. -/
def compileField (flags : Flags) (request : Request) (field : Field) : Except Rejection Request := do
  let request ← match field.scriptRequest? flags, field.fieldRequest? flags with
    | some script, _ => request.extendObject "script_fields" [(field.name, script)]
    | none, some name => request.pushItem "fields" name
    | none, none => .ok request
  match field.sortRequest? flags with
  | some sort => request.pushItem "sort" sort
  | none => .ok request

/-- Adds what the fields ask for, field by field. -/
def compileFields (flags : Flags) (options : RequestOptions) (search : Search)
    (request : Request) : Except Rejection Request :=
  if options.includeFields then search.fields.items.foldlM (compileField flags) request
  else .ok request

/-- Adds the facet request of one filter, confined to the selections of the others. -/
def compileFacet (flags : Flags) (filters : List Filter) (request : Request) (filter : Filter) :
    Except Rejection Request :=
  match filter.facetRequest? flags (conditionOfOthers? flags filters filter.name) with
  | some facet => request.extendObject "facets" [(filter.name, facet)]
  | none => .ok request

/-- Adds the facet requests, filter by filter. -/
def compileFacets (flags : Flags) (options : RequestOptions) (search : Search)
    (request : Request) : Except Rejection Request :=
  if options.includeFacets then
    search.filters.items.foldlM (compileFacet flags search.filters.items) request
  else .ok request

/-- Adds the conditions for what is selected.  A single condition becomes the filter
section or is merged into it; several are added to those that must all hold. -/
def compileConditions (flags : Flags) (options : RequestOptions) (search : Search)
    (request : Request) : Except Rejection Request :=
  if options.includeFilters then
    match conditions flags search.filters.items with
    | [] => .ok request
    | [.obj members] => request.extendObject "filter" members
    | [condition] => .ok (Assoc.insert "filter" condition request)
    | several => request.uniteConditions several
  else .ok request

/-! ## Requests -/

/-- The request of a search, compiled onto a seed. -/
def compile (flags : Flags) (options : RequestOptions) (search : Search) (seed : Request) :
    Except Rejection Request := do
  let request ← search.compileQuery seed
  let request ← search.compileFields flags options request
  let request ← search.compileFacets flags options request
  search.compileConditions flags options request

/-- The request that counts the facets of one filter again, and then, if facets are
included, all of them; compiled onto a seed. -/
def compileRecount (flags : Flags) (options : RequestOptions) (search : Search)
    (name : String) (seed : Request) : Except SearchError Request :=
  match search.filters.get? name with
  | none => .error (.unknownFilter name)
  | some filter =>
    ((compileFacet flags search.filters.items seed filter).bind
      (search.compileFacets flags options)).mapError Rejection.error

/-- The request that a search sends for a window, or for one page of any window. -/
def request (flags : Flags) (search : Search) (window : Option Window) :
    Except SearchError Request :=
  let seed := match window with
    | some window => window.request
    | none => [("size", .ofUInt64 search.pageLength)]
  (search.compile flags search.options seed).mapError Rejection.error

/-- The request that a search sends to count the facets of a filter again. -/
def facetRequest (flags : Flags) (search : Search) (name : String) :
    Except SearchError Request :=
  search.compileRecount flags search.options name []

end Search

end FacetedSearch
