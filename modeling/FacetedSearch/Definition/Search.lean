import FacetedSearch.Definition.Field
import FacetedSearch.Definition.Filter
import FacetedSearch.Json.Reader
import FacetedSearch.Search.Fields
import FacetedSearch.Search.Filters

/-!
# Definitions of searches

A search can be set up from the text of a JSON object that defines its fields and
filters.  Every member is optional, and what is not said is as in a new search.

## Main definitions

* `SearchDefinition`, `SearchDefinition.ofText`: the object, and reading it from a text;
* `Search.ofDefinition`: the search that is set up.
-/

namespace FacetedSearch

/-- The definition of a search. -/
structure SearchDefinition where
  pageLength : UInt64
  options : RequestOptions
  fields : List FieldDefinition
  filters : List FilterDefinition
  deriving DecidableEq

namespace SearchDefinition

/-- What defines a new search. -/
def default : SearchDefinition := ⟨defaultPageLength, .all, [], []⟩

/-- A definition as a document. -/
def toJson (definition : SearchDefinition) : Json :=
  .obj [("page_length", .ofUInt64 definition.pageLength), ("compiler", definition.options.toJson),
    ("fields", .arr (definition.fields.map FieldDefinition.toJson)),
    ("filters", .arr (definition.filters.map FilterDefinition.toJson))]

/-- The definition in a document. -/
def ofJson? (document : Json) : Option SearchDefinition := do
  let record ← Record.ofJson? 4 document
  let pageLength ← record.withDefault? 0 "page_length" defaultPageLength Json.toUInt64?
  let options ← record.withDefault? 1 "compiler" .all RequestOptions.ofJson?
  let fields ← record.withDefault? 2 "fields" [] (Json.toList? FieldDefinition.ofJson?)
  let filters ← record.withDefault? 3 "filters" [] (Json.toList? FilterDefinition.ofJson?)
  return ⟨pageLength, options, fields, filters⟩

/-- The definition in a text, which has to be that of a JSON object. -/
def ofText (text : String) : Except SearchError SearchDefinition :=
  match Json.read? Json.nestingLimit text with
  | none => .error (.configuration .unreadableDefinition)
  | some (.obj members) => match ofJson? (.obj members) with
    | some definition => .ok definition
    | none => .error (.configuration .unreadableDefinition)
  | some _ => .error (.configuration .definitionNotAnObject)

end SearchDefinition

namespace Search

/-- The search that a definition sets up. -/
def ofDefinition (definition : SearchDefinition) : Except SearchError Search := do
  let paged := Search.new.resizePages definition.pageLength
  paged.answer
  let fielded := (paged.search.withOptions definition.options).replaceFields
    (definition.fields.map FieldDefinition.build)
  fielded.answer
  let filtered := fielded.search.replaceFilters (definition.filters.map FilterDefinition.build)
  filtered.answer
  return filtered.search

end Search

end FacetedSearch
