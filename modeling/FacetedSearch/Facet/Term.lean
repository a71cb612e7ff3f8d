import FacetedSearch.Json.Record
import FacetedSearch.Number.PlainText
import FacetedSearch.Text.Integer

/-!
# Terms

A term is a single value that documents carry and a terms facet counts: a 64-bit
integer, a double or a text.  In a document it is a bare number or string; a number is
read as an integer when it is one that fits, and as a double otherwise.

## Main definitions

* `Term`, `Term.shown`: terms, and how ids and labels show them;
* `Term.compare?`, `Term.sameValue`: comparison, first by kind and then by value;
* `Term.toJson`, `Term.ofJson?`: terms in documents.
-/

namespace FacetedSearch

/-- A single value of a document. -/
inductive Term where
  | int (value : Int64)
  | float (value : Binary64)
  | text (value : String)
  deriving DecidableEq

namespace Term

/-- How ids and labels show a term. -/
def shown : Term → String
  | .int value => integerText value.toInt
  | .float value => value.plainText
  | .text value => value

@[simp] theorem shown_int (value : Int64) : shown (.int value) = integerText value.toInt := rfl

@[simp] theorem shown_float (value : Binary64) : shown (.float value) = value.plainText := rfl

@[simp] theorem shown_text (value : String) : shown (.text value) = value := rfl

/-! ## Comparison -/

/-- The order of the kinds: integers, then doubles, then texts. -/
def kindRank : Term → Nat
  | .int _ => 0
  | .float _ => 1
  | .text _ => 2

/-- Comparison by kind and then by value; texts compare by code points. -/
def compare? : Term → Term → Option Ordering
  | .int a, .int b => some (compare a.toInt b.toInt)
  | .float a, .float b => a.compare? b
  | .text a, .text b => some (compare a b)
  | a, b => some (compare a.kindRank b.kindRank)

/-- Equality by value: `NaN` differs from itself and the two zeros are equal. -/
def sameValue : Term → Term → Bool
  | .int a, .int b => a == b
  | .float a, .float b => a.sameValue b
  | .text a, .text b => a == b
  | _, _ => false

/-! ## Documents -/

/-- A term as a document. -/
def toJson : Term → Json
  | .int value => .int value.toInt
  | .float value => .ofBinary64 value
  | .text value => .str value

/-- The term in a document. -/
def ofJson? : Json → Option Term
  | .int n => match int64Of? n with
    | some value => some (.int value)
    | none => some (.float (.ofInt n))
  | .float x => some (.float x)
  | .str s => some (.text s)
  | _ => none

end Term

end FacetedSearch
