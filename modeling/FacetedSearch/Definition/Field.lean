import FacetedSearch.Field

/-!
# Definitions of fields

A field can be defined by a record in a JSON document.  Only its name has to be given; a
field that nothing else is said about is titled by its name, read off the stored
document, unsorted, and on.

## Main definitions

* `FieldDefinition`, `FieldDefinition.build`: the record, and the field that it defines;
* `FieldDefinition.toJson`, `FieldDefinition.ofJson?`: the record in documents.
-/

namespace FacetedSearch

/-- The definition of a field. -/
structure FieldDefinition where
  name : String
  title : Option String
  script : Option String
  orderBy : Option Direction
  enabled : Bool
  display : Bool
  deriving DecidableEq

namespace FieldDefinition

/-- The field of a definition; it is titled by its name unless a title is given. -/
def build (definition : FieldDefinition) : Field where
  name := definition.name
  title := definition.title.getD definition.name
  script := definition.script
  sort := definition.orderBy
  enabled := .fixed definition.enabled
  displayed := .fixed definition.display

/-- A definition as a document. -/
def toJson (definition : FieldDefinition) : Json :=
  .ofFields [("fieldname", some (.str definition.name)), ("title", definition.title.map .str),
    ("script_field", definition.script.map .str),
    ("order_by", definition.orderBy.map Direction.toJson),
    ("enabled", some (.bool definition.enabled)), ("display", some (.bool definition.display))]

/-- The definition in a document. -/
def ofJson? (document : Json) : Option FieldDefinition := do
  let record ← Record.ofJson? 6 document
  let name ← record.required? 0 "fieldname" Json.toText?
  let title ← record.optional? 1 "title" Json.toText?
  let script ← record.optional? 2 "script_field" Json.toText?
  let orderBy ← record.optional? 3 "order_by" Direction.ofJson?
  let enabled ← record.withDefault? 4 "enabled" true Json.toBool?
  let display ← record.withDefault? 5 "display" true Json.toBool?
  return ⟨name, title, script, orderBy, enabled, display⟩

end FieldDefinition

end FacetedSearch
