import FacetedSearch.Error

/-!
# Catalogs

The fields and the filters of a search are kept in the order in which they were defined,
because that order shows in requests, and are found by name.  A catalog never takes in a
second item of the same name.

## Main definitions

* `Named`: types whose values have a name;
* `Catalog.get?`, `Catalog.position?`: finding an item by name;
* `Catalog.push?`, `Catalog.remove?`, `Catalog.ofList?`: growing, shrinking, and starting
  afresh;
* `Catalog.map`, `Catalog.update`: changing every item, or one.
-/

namespace FacetedSearch

/-- Types whose values have a name. -/
class Named (α : Type) where
  name : α → String

/-- Items in the order of their definition. -/
structure Catalog (α : Type) where
  items : List α

namespace Catalog

variable {α : Type}

/-- The catalog without items. -/
def empty : Catalog α := ⟨[]⟩

/-- Changes every item. -/
def map (f : α → α) (catalog : Catalog α) : Catalog α := ⟨catalog.items.map f⟩

/-- How many items there are. -/
def size (catalog : Catalog α) : Nat := catalog.items.length

/-- The item that was defined first. -/
def first? (catalog : Catalog α) : Option α := catalog.items.head?

variable [Named α]

/-- The names in order. -/
def names (catalog : Catalog α) : List String := catalog.items.map Named.name

/-- The item of a name. -/
def get? (catalog : Catalog α) (name : String) : Option α :=
  catalog.items.find? fun item => Named.name item == name

/-- The index of the item of a name. -/
def position? (catalog : Catalog α) (name : String) : Option Nat :=
  catalog.items.findIdx? fun item => Named.name item == name

/-- Whether there is an item of a name. -/
def contains (catalog : Catalog α) (name : String) : Bool :=
  catalog.items.any fun item => Named.name item == name

/-- Appends an item; an item of that name may not be there yet. -/
def push? (catalog : Catalog α) (item : α) : Except SearchError (Catalog α) :=
  if catalog.contains (Named.name item) then .error (.duplicateName (Named.name item))
  else .ok ⟨catalog.items ++ [item]⟩

/-- Takes out the item of a name: its index, itself, and the catalog without it. -/
def remove? (catalog : Catalog α) (name : String) : Option (Nat × α × Catalog α) :=
  match catalog.position? name, catalog.get? name with
  | some index, some item => some (index, item, ⟨catalog.items.eraseIdx index⟩)
  | _, _ => none

/-- Changes the item of a name. -/
def update (catalog : Catalog α) (name : String) (f : α → α) : Catalog α :=
  catalog.map fun item => if Named.name item = name then f item else item

/-- The first name in a list that stood in it before. -/
def firstRepeated? : List String → List String → Option String
  | _, [] => none
  | seen, name :: rest =>
    if name ∈ seen then some name else firstRepeated? (name :: seen) rest

/-- The catalog of a list of items, unless a name is repeated. -/
def ofList? (items : List α) : Except SearchError (Catalog α) :=
  match firstRepeated? [] (items.map Named.name) with
  | some name => .error (.duplicateName name)
  | none => .ok ⟨items⟩

end Catalog

end FacetedSearch
