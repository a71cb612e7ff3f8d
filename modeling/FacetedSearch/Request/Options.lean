import FacetedSearch.Json.Record

/-!
# What a request is made of

A request always says what is searched for.  Whether it also names the fields, the facets
and the selected conditions can be chosen.

## Main definitions

* `RequestOptions`: the parts that are included;
* `RequestOptions.toJson`, `RequestOptions.ofJson?`: the choice in documents.
-/

namespace FacetedSearch

/-- The parts that are included in a request. -/
structure RequestOptions where
  includeFields : Bool
  includeFacets : Bool
  includeFilters : Bool
  deriving DecidableEq

namespace RequestOptions

/-- Everything is included. -/
def all : RequestOptions := ⟨true, true, true⟩

/-- The options as a document. -/
def toJson (options : RequestOptions) : Json :=
  .obj [("include_fields", .bool options.includeFields),
    ("include_facets", .bool options.includeFacets),
    ("include_filters", .bool options.includeFilters)]

/-- The options in a document; what is not said is included. -/
def ofJson? (document : Json) : Option RequestOptions := do
  let record ← Record.ofJson? 3 document
  let includeFields ← record.withDefault? 0 "include_fields" true Json.toBool?
  let includeFacets ← record.withDefault? 1 "include_facets" true Json.toBool?
  let includeFilters ← record.withDefault? 2 "include_filters" true Json.toBool?
  return ⟨includeFields, includeFacets, includeFilters⟩

end RequestOptions

end FacetedSearch
