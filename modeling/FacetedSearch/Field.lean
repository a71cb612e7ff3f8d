import FacetedSearch.Catalog
import FacetedSearch.Json.Record
import FacetedSearch.Switch

/-!
# Fields

A field is a column of the result list.  It is read off the stored document, or computed
by a script, and it may be the key that results are sorted by.  Each of the three has its
own place in a request; a field that is switched off has none.

## Main definitions

* `Direction`, `Field`: the fields;
* `Field.check`: a field needs a name;
* `Field.fieldRequest?`, `Field.scriptRequest?`, `Field.sortRequest?`: what a field adds to
  a request;
* `Field.nextSort`: the direction that a click on the column heading turns to.
-/

namespace FacetedSearch

/-- The direction of a sort. -/
inductive Direction where
  | asc
  | desc
  deriving DecidableEq

namespace Direction

/-- The word for a direction. -/
def word : Direction → String
  | .asc => "asc"
  | .desc => "desc"

/-- The other direction. -/
def flip : Direction → Direction
  | .asc => .desc
  | .desc => .asc

/-- The direction of a word. -/
def ofWord? : String → Option Direction
  | "asc" => some .asc
  | "desc" => some .desc
  | _ => none

/-- A direction as a document. -/
def toJson (direction : Direction) : Json := .str direction.word

/-- The direction in a document. -/
def ofJson? (document : Json) : Option Direction := document.variant?.bind ofWord?

@[simp] theorem ofWord?_word (direction : Direction) :
    ofWord? direction.word = some direction := by
  cases direction <;> rfl

@[simp] theorem flip_flip (direction : Direction) : direction.flip.flip = direction := by
  cases direction <;> rfl

end Direction

/-- A column of the result list. -/
structure Field where
  name : String
  title : String
  /-- The script that computes the field, if it is not read off the document. -/
  script : Option String
  sort : Option Direction
  enabled : Switch
  displayed : Switch

instance : Named Field := ⟨Field.name⟩

namespace Field

/-- The plain field of a name: titled by it, read off the document, unsorted, on. -/
def ofName (name : String) : Field :=
  ⟨name, name, none, none, .fixed true, .fixed true⟩

/-- Whether a script computes the field. -/
def isScripted (field : Field) : Bool := field.script.isSome

/-- Whether results are sorted by the field. -/
def isSorted (field : Field) : Bool := field.sort.isSome

/-- A field needs a name. -/
def check (field : Field) : Except SearchError Unit :=
  if field.name = "" then .error (.configuration .nameRequired) else .ok ()

/-- The same field with another sort. -/
def withSort (field : Field) (sort : Option Direction) : Field :=
  { field with sort := sort }

@[simp] theorem name_withSort (field : Field) (sort : Option Direction) :
    (field.withSort sort).name = field.name := rfl

@[simp] theorem sort_withSort (field : Field) (sort : Option Direction) :
    (field.withSort sort).sort = sort := rfl

/-- The direction a toggle turns to: descending if the field is sorted ascending, and
ascending otherwise. -/
def nextSort (field : Field) : Direction :=
  (field.sort.getD .desc).flip

/-! ## Requests -/

/-- The entry for the list of fields, unless a script computes the field. -/
def fieldRequest? (flags : Flags) (field : Field) : Option Json :=
  if field.enabled.isOn flags && !field.isScripted then some (.str field.name) else none

/-- The entry under the field's name among the script fields, if a script computes it. -/
def scriptRequest? (flags : Flags) (field : Field) : Option Json :=
  if field.enabled.isOn flags then field.script.map fun script => .single "script" (.str script)
  else none

/-- The entry for the list of sort keys, if results are sorted by the field. -/
def sortRequest? (flags : Flags) (field : Field) : Option Json :=
  if field.enabled.isOn flags then
    field.sort.map fun direction => .single field.name direction.toJson
  else none

end Field

/-- The field that results are sorted by, and the direction. -/
structure SortKey where
  field : String
  direction : Direction
  deriving DecidableEq

namespace SortKey

/-- A sort as a document. -/
def toJson (order : SortKey) : Json :=
  .obj [("fieldname", .str order.field), ("order", order.direction.toJson)]

/-- The sort in a document. -/
def ofJson? (document : Json) : Option SortKey := do
  let record ← Record.ofJson? 2 document
  let field ← record.required? 0 "fieldname" Json.toText?
  let direction ← record.required? 1 "order" Direction.ofJson?
  return ⟨field, direction⟩

end SortKey

end FacetedSearch
