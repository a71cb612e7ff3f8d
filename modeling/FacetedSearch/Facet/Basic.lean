import FacetedSearch.Facet.Bounds
import FacetedSearch.Facet.Term

/-!
# Facets and the values they offer

A facet is one line of a facet list: a value and the number of results that carry it.
The value is a term or an interval, and the same values are what a filter selects.
Documents spell the two roles differently.  A *selected* value is written bare, a term
as itself and an interval as its record.  The value of a *facet* is written under its
kind, as `term` or `range`.

## Main definitions

* `FacetValue`: a term or an interval, with its id and its comparison;
* `FacetValue.toJson`, `FacetValue.ofJson?`: the bare spelling;
* `FacetValue.toKeyJson`, `FacetValue.ofKeyJson?`: the spelling under the kind;
* `Facet`: a value with its count, and `Facet.placeholder`, one without results;
* `Choice`: a facet as something to be selected.
-/

namespace FacetedSearch

/-- What a facet counts and a filter selects. -/
inductive FacetValue where
  | term (term : Term)
  | range (bounds : Bounds)
  deriving DecidableEq

namespace FacetValue

/-- How messages show a value. -/
def shown : FacetValue → String
  | .term t => t.shown
  | .range bounds => bounds.shown

/-- The id of a value: the text of a term, or the id of an interval. -/
def id : FacetValue → String
  | .term t => t.shown
  | .range bounds => bounds.id

@[simp] theorem shown_term (t : Term) : shown (.term t) = t.shown := rfl

@[simp] theorem shown_range (bounds : Bounds) : shown (.range bounds) = bounds.shown := rfl

@[simp] theorem id_term (t : Term) : id (.term t) = t.shown := rfl

@[simp] theorem id_range (bounds : Bounds) : id (.range bounds) = bounds.id := rfl

/-- Comparison of two terms or two intervals; a term and an interval do not compare. -/
def compare? : FacetValue → FacetValue → Option Ordering
  | .term a, .term b => a.compare? b
  | .range a, .range b => a.compare? b
  | _, _ => none

/-- Equality by value: `NaN` differs from itself and the two zeros are equal. -/
def sameValue : FacetValue → FacetValue → Bool
  | .term a, .term b => a.sameValue b
  | .range a, .range b => a.sameValue b
  | _, _ => false

/-- Equality by value of two lists, place by place. -/
def sameValues : List FacetValue → List FacetValue → Bool
  | [], [] => true
  | a :: as, b :: bs => a.sameValue b && sameValues as bs
  | _, _ => false

/-! ## Documents -/

/-- A selected value as a document. -/
def toJson : FacetValue → Json
  | .term t => t.toJson
  | .range bounds => bounds.toJson

/-- The selected value in a document: a term if it is one, and else an interval. -/
def ofJson? (document : Json) : Option FacetValue :=
  match Term.ofJson? document with
  | some t => some (.term t)
  | none => (Bounds.ofJson? document).map .range

/-- The value of a facet as a document. -/
def toKeyJson : FacetValue → Json
  | .term t => .single "term" t.toJson
  | .range bounds => .single "range" bounds.toJson

/-- The value of a facet in a document. -/
def ofKeyJson? : Json → Option FacetValue
  | .obj [("term", document)] => (Term.ofJson? document).map .term
  | .obj [("range", document)] => (Bounds.ofJson? document).map .range
  | _ => none

end FacetValue

/-- A value and the number of results that carry it. -/
structure Facet where
  key : FacetValue
  count : UInt64
  deriving DecidableEq

namespace Facet

/-- A value without results so far. -/
def placeholder (key : FacetValue) : Facet := ⟨key, 0⟩

@[simp] theorem placeholder_key (key : FacetValue) : (placeholder key).key = key := rfl

@[simp] theorem placeholder_count (key : FacetValue) : (placeholder key).count = 0 := rfl

/-- The id of a facet is that of its value. -/
def id (facet : Facet) : String := facet.key.id

/-- A facet as a document. -/
def toJson (facet : Facet) : Json :=
  .obj [("key", facet.key.toKeyJson), ("count", .ofUInt64 facet.count)]

/-- The facet in a document. -/
def ofJson? (document : Json) : Option Facet := do
  let record ← Record.ofJson? 2 document
  let key ← record.required? 0 "key" FacetValue.ofKeyJson?
  let count ← record.required? 1 "count" Json.toUInt64?
  return ⟨key, count⟩

end Facet

/-- A facet as something to be selected. -/
structure Choice where
  id : String
  text : String
  count : UInt64
  selected : Bool
  /-- No result carries the value. -/
  muted : Bool
  /-- Every result carries the value and nothing is selected. -/
  matchAll : Bool
  deriving DecidableEq

namespace Choice

/-- A choice as a document. -/
def toJson (choice : Choice) : Json :=
  .obj [("id", .str choice.id), ("text", .str choice.text), ("count", .ofUInt64 choice.count),
    ("selected", .bool choice.selected), ("muted", .bool choice.muted),
    ("match_all", .bool choice.matchAll)]

/-- The choice in a document. -/
def ofJson? (document : Json) : Option Choice := do
  let record ← Record.ofJson? 6 document
  let id ← record.required? 0 "id" Json.toText?
  let text ← record.required? 1 "text" Json.toText?
  let count ← record.required? 2 "count" Json.toUInt64?
  let selected ← record.required? 3 "selected" Json.toBool?
  let muted ← record.required? 4 "muted" Json.toBool?
  let matchAll ← record.required? 5 "match_all" Json.toBool?
  return ⟨id, text, count, selected, muted, matchAll⟩

end Choice

end FacetedSearch
