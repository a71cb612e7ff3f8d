import FacetedSearch.Json.Basic

/-!
# Records in documents

A record is written as an object, one member for each field.  It is read from an object
by key, members of other keys being ignored, or from an array by position, the fields
being numbered in the order of their declaration.

A field may have a default, which stands in where the member or item is missing.  The
default need not be the absent value: where a field is optional, `null` says that it is
absent, which a missing member does only if absence is its default.

## Main definitions

* `Record.ofJson?`: a record of a bounded number of fields;
* `Record.required?`, `Record.optional?`, `Record.withDefault?`: reading one field;
* `Json.toUInt64?`, `Json.toText?`, …: reading the plain types;
* `Json.variant?`: the name of one of several plain alternatives.
-/

namespace FacetedSearch

namespace Json

/-! ## Plain types -/

/-- A truth value. -/
def toBool? : Json → Option Bool
  | .bool b => some b
  | _ => none

/-- A text. -/
def toText? : Json → Option String
  | .str s => some s
  | _ => none

/-- An unsigned 64-bit integer. -/
def toUInt64? : Json → Option UInt64
  | .int n => if 0 ≤ n ∧ n < UInt64.size then some (UInt64.ofNat n.toNat) else none
  | _ => none

/-- An unsigned 32-bit integer. -/
def toUInt32? : Json → Option UInt32
  | .int n => if 0 ≤ n ∧ n < UInt32.size then some (UInt32.ofNat n.toNat) else none
  | _ => none

/-- A double, from a number of either kind. -/
def toBinary64? : Json → Option Binary64
  | .int n => some (Binary64.ofInt n)
  | .float x => some x
  | _ => none

/-- An optional value: `null` is its absence. -/
def toOption? {α : Type} (read : Json → Option α) : Json → Option (Option α)
  | .null => some none
  | document => (read document).map some

/-- A list, from an array. -/
def toList? {α : Type} (read : Json → Option α) : Json → Option (List α)
  | .arr items => items.mapM read
  | _ => none

/-- The name of a plain alternative: a text, or an object whose one member has that key
and nothing in it. -/
def variant? : Json → Option String
  | .str name => some name
  | .obj [(name, .null)] => some name
  | _ => none

end Json

/-- The document of a record: members by key, or items by position. -/
inductive Record where
  | byKey (members : Assoc Json)
  | byPosition (items : List Json)

namespace Record

/-- The record in a document; an array may not have more items than there are fields. -/
def ofJson? (fields : Nat) : Json → Option Record
  | .obj members => some (.byKey members)
  | .arr items => if items.length ≤ fields then some (.byPosition items) else none
  | _ => none

/-- The document of one field. -/
def field? (record : Record) (position : Nat) (key : String) : Option Json :=
  match record with
  | .byKey members => members.get? key
  | .byPosition items => items[position]?

variable {α : Type}

/-- A field that has to be there. -/
def required? (record : Record) (position : Nat) (key : String) (read : Json → Option α) :
    Option α :=
  (record.field? position key).bind read

/-- A field that has a default. -/
def withDefault? (record : Record) (position : Nat) (key : String) (default : α)
    (read : Json → Option α) : Option α :=
  match record.field? position key with
  | none => some default
  | some document => read document

/-- An optional field: absent by default, and `null` is absent too. -/
def optional? (record : Record) (position : Nat) (key : String)
    (read : Json → Option α) : Option (Option α) :=
  record.withDefault? position key none (Json.toOption? read)

end Record

/-! ## Writing records -/

/-- The object of the members that are there. -/
def Json.ofFields (fields : List (String × Option Json)) : Json :=
  .obj (fields.filterMap fun field => field.2.map fun value => (field.1, value))

end FacetedSearch
