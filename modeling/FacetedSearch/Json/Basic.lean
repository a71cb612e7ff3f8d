import FacetedSearch.Assoc
import FacetedSearch.Number.Binary64

/-!
# JSON documents

Requests, responses and definitions are JSON documents whose object keys keep their
order.  A number is an integer or a double, and the two never mix: `5` is not `5.0`.
JSON has no spelling for infinities and `NaN`, so a document holds `null` in their
place.

Two documents that differ only in the order of object members mean the same.
`Json.sameValue` is that comparison; it tells integers from doubles and compares
doubles by value.

## Main definitions

* `Json`: the documents;
* `Json.ofBinary64`: a double as a document, `null` when it has no spelling;
* `Json.sameValue`: equality up to the order of object members.
-/

namespace FacetedSearch

/-- A JSON document.  The members of an object are in the order in which they are
written, and their keys are distinct in every document that is read or built here. -/
inductive Json where
  | null
  | bool (value : Bool)
  | int (value : Int)
  | float (value : Binary64)
  | str (value : String)
  | arr (items : List Json)
  | obj (members : List (String × Json))
  deriving Inhabited

namespace Json

/-- A double as a document; infinities and `NaN` have no spelling. -/
def ofBinary64 (x : Binary64) : Json :=
  if x.isFinite then .float x else .null

/-- A count as a document. -/
def ofUInt64 (n : UInt64) : Json := .int n.toNat

/-- The object with one member. -/
def single (key : String) (value : Json) : Json := .obj [(key, value)]

/-- A document, or `null` when there is none. -/
def ofOption {α : Type} (write : α → Json) : Option α → Json
  | none => .null
  | some value => write value

/-- The members of an object. -/
def members? : Json → Option (Assoc Json)
  | .obj members => some members
  | _ => none

/-- The items of an array. -/
def items? : Json → Option (List Json)
  | .arr items => some items
  | _ => none

@[simp] theorem members?_obj (members : Assoc Json) : members? (.obj members) = some members := rfl

@[simp] theorem items?_arr (items : List Json) : items? (.arr items) = some items := rfl

/-! ## Equality up to member order -/

mutual

/-- Equality of documents up to the order of object members. -/
def sameValue : Json → Json → Bool
  | .null, .null => true
  | .bool a, .bool b => a == b
  | .int a, .int b => a == b
  | .float a, .float b => a.sameValue b
  | .str a, .str b => a == b
  | .arr as, .arr bs => sameItems as bs
  | .obj as, .obj bs => as.length == bs.length && sameMembers as bs
  | _, _ => false

/-- Item by item equality. -/
def sameItems : List Json → List Json → Bool
  | [], [] => true
  | a :: as, b :: bs => sameValue a b && sameItems as bs
  | _, _ => false

/-- Every member of the first object has an equal one in the second. -/
def sameMembers : List (String × Json) → Assoc Json → Bool
  | [], _ => true
  | (key, a) :: as, bs =>
    (match Assoc.get? key bs with
      | some b => sameValue a b
      | none => false) && sameMembers as bs

end

end Json

end FacetedSearch
