import FacetedSearch.Search.Basic

/-!
# Fields of a search

Fields are defined all at once, or added and removed one by one.  At most one of them is
the sort key at any time.  So a field that arrives sorted, or that a sort is set on,
takes the sort from every other field.

## Main definitions

* `Search.replaceFields`, `Search.pushField`, `Search.eraseField`: the fields;
* `Search.sort`, `Search.flipSort`: the sort;
* `Search.sortKey?`, `Search.directionOf`: what results are sorted by.
-/

namespace FacetedSearch

/-- Leaves the sort of the first sorted field and takes it from all others. -/
def keepFirstSort : List Field → List Field
  | [] => []
  | field :: rest =>
    if field.isSorted then field :: rest.map (·.withSort none) else field :: keepFirstSort rest

/-- Takes the sort from every field but the one of a name. -/
def clearSortExcept (name : String) (field : Field) : Field :=
  if field.name = name then field else field.withSort none

/-- Gives the sort to the field of a name and takes it from every other. -/
def sortOnly (name : String) (direction : Direction) (field : Field) : Field :=
  field.withSort (if field.name = name then some direction else none)

namespace Search

/-! ## The fields -/

/-- Replaces every field; only the first sorted one stays sorted. -/
def replaceFields (search : Search) (fields : List Field) : Reply Unit :=
  match fields.forM Field.check with
  | .error error => .refuse search error
  | .ok () => match Catalog.ofList? (keepFirstSort fields) with
    | .error error => .refuse search error
    | .ok fields => .announce { search with fields := fields } ()
        [⟨.fieldsReset fields.names, .fields⟩]

/-- Appends a field; if it is sorted, no other stays sorted. -/
def pushField (search : Search) (field : Field) : Reply Unit :=
  match field.check with
  | .error error => .refuse search error
  | .ok () => match search.fields.push? field with
    | .error error => .refuse search error
    | .ok fields =>
      let fields := if field.isSorted then fields.map (clearSortExcept field.name) else fields
      .announce { search with fields := fields } ()
        [⟨.fieldAdded field.name search.fields.size, .fields⟩]

/-- Removes the field of a name and answers with it. -/
def eraseField (search : Search) (name : String) : Reply Field :=
  match search.fields.remove? name with
  | none => .refuse search (.unknownField name)
  | some (index, field, fields) =>
    .announce { search with fields := fields } field
      [⟨.fieldRemoved name index, .fields⟩]

/-! ## The sort -/

/-- What results are sorted by. -/
def sortKey? (search : Search) : Option SortKey :=
  search.fields.items.findSome? fun field => field.sort.map fun direction =>
    ⟨field.name, direction⟩

/-- The direction in which results are sorted by a field, if they are. -/
def directionOf (search : Search) (name : String) : Except SearchError (Option Direction) :=
  match search.fields.get? name with
  | none => .error (.unknownField name)
  | some field => .ok field.sort

/-- Sorts by a field that is there.  The same sort again is no change. -/
def sortOn (search : Search) (field : Field) (direction : Direction) : Reply Direction :=
  let sorted := { search with fields := search.fields.map (sortOnly field.name direction) }
  if field.sort = some direction then .quiet sorted direction
  else .announce sorted direction
      [⟨.sortChanged field.name field.sort direction, .sort field.name⟩]

/-- Sorts by the field of a name. -/
def sort (search : Search) (name : String) (direction : Direction) :
    Reply Direction :=
  match search.fields.get? name with
  | none => .refuse search (.unknownField name)
  | some field => search.sortOn field direction

/-- Sorts by the field of a name, ascending. -/
def sortAscending (search : Search) (name : String) : Reply Direction := search.sort name .asc

/-- The name of the field that a toggle is about: the given one, else the one that results
are sorted by, else the first. -/
def flipTarget? (search : Search) (name : Option String) : Option String :=
  name.or ((search.sortKey?.map SortKey.field).or (search.fields.first?.map Field.name))

/-- Turns the sort of a field and answers with the new direction, or with nothing when
there is no field at all. -/
def flipSort (search : Search) (name : Option String) : Reply (Option Direction) :=
  match search.flipTarget? name with
  | none => .quiet search none
  | some target => match search.fields.get? target with
    | none => .refuse search (.unknownField target)
    | some field =>
      let reply := search.sortOn field field.nextSort
      ⟨reply.answer.map some, reply.search, reply.events⟩

end Search

end FacetedSearch
