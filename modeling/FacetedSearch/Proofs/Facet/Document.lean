import FacetedSearch.Facet.Basic
import FacetedSearch.Proofs.Json.Record
import FacetedSearch.Proofs.Text.Integer

/-!
# Facets are read as they were written

A selected value is written bare.  What is read tells by its shape what it is: an integer that
fits, any other number, a text, and else an interval.  The shapes do not overlap, so a value is
read as what it was, a double without a fraction as a double and an interval without bounds as an
interval.  Only what has no spelling in a document is lost, which are infinities and `NaN`.

* `Bounds.IsWritable`, `Term.IsWritable`, `FacetValue.IsWritable`: what has a spelling;
* `Bounds.ofJson?_toJson`, `Term.ofJson?_toJson`, `FacetValue.ofJson?_toJson`,
  `FacetValue.ofKeyJson?_toKeyJson`, `Facet.ofJson?_toJson`.
-/

namespace FacetedSearch

/-! ## Intervals -/

namespace Bounds

/-- The bounds that are there can be written down. -/
structure IsWritable (bounds : Bounds) : Prop where
  lower : ∀ x, bounds.lower = some x → x.isFinite = true
  upper : ∀ x, bounds.upper = some x → x.isFinite = true

/-- An interval is read off the members of an object; a bound whose member is not there is
absent. -/
theorem ofJson?_obj {bounds : Bounds} {members : Assoc Json} (h : bounds.IsWritable)
    (hlower : Assoc.get? "from" members = bounds.lower.map .ofBinary64)
    (hupper : Assoc.get? "to" members = bounds.upper.map .ofBinary64) :
    Bounds.ofJson? (.obj members) = some bounds := by
  simp only [Bounds.ofJson?, Record.ofJson?, bind, Option.bind, pure,
    Record.optional?_byKey_map hlower fun x hx => Json.toBinary64?_ofBinary64 (h.lower x hx),
    Record.optional?_byKey_map hupper fun x hx => Json.toBinary64?_ofBinary64 (h.upper x hx)]

theorem ofJson?_toJson {bounds : Bounds} (h : bounds.IsWritable) :
    Bounds.ofJson? bounds.toJson = some bounds := by
  have hfound := Json.get?_written (show ([("from", bounds.lower.map Json.ofBinary64),
    ("to", bounds.upper.map .ofBinary64)].map Prod.fst).Nodup from
      (by decide : ["from", "to"].Nodup))
  rw [List.forall_mem_cons, List.forall_mem_singleton] at hfound
  exact ofJson?_obj h hfound.1 hfound.2

end Bounds

/-! ## Terms -/

/-- A term can be written down unless it is a double without a spelling. -/
def Term.IsWritable : Term → Prop
  | .float x => x.isFinite = true
  | .int _ | .text _ => True

/-- Integers, doubles and texts have spellings of their own. -/
theorem Term.ofJson?_toJson {term : Term} (h : term.IsWritable) :
    Term.ofJson? term.toJson = some term := by
  cases term with
  | int n => simp only [toJson, ofJson?, int64Of?_toInt]
  | float x =>
    have hfinite : x.isFinite = true := h
    rw [toJson, Json.ofBinary64, if_pos hfinite]
    rfl
  | text s => rfl

/-! ## Values -/

namespace FacetValue

/-- A value can be written down if its doubles can. -/
def IsWritable : FacetValue → Prop
  | .term t => t.IsWritable
  | .range bounds => bounds.IsWritable

/-- **A selected value is read as it was written**, terms first and intervals then. -/
theorem ofJson?_toJson {value : FacetValue} (h : value.IsWritable) :
    FacetValue.ofJson? value.toJson = some value := by
  cases value with
  | term t =>
    have hread : Term.ofJson? t.toJson = some t := Term.ofJson?_toJson h
    rw [toJson, FacetValue.ofJson?, hread]
  | range bounds =>
    -- an object is no term
    have hnone : Term.ofJson? bounds.toJson = none := rfl
    have hread : Bounds.ofJson? bounds.toJson = some bounds := Bounds.ofJson?_toJson h
    rw [toJson, FacetValue.ofJson?, hnone, hread]
    rfl

theorem ofKeyJson?_toKeyJson {value : FacetValue} (h : value.IsWritable) :
    ofKeyJson? value.toKeyJson = some value := by
  cases value with
  | term t =>
    show (Term.ofJson? t.toJson).map FacetValue.term = _
    rw [Term.ofJson?_toJson h]
    rfl
  | range bounds =>
    show (Bounds.ofJson? bounds.toJson).map FacetValue.range = _
    rw [Bounds.ofJson?_toJson h]
    rfl

end FacetValue

/-- A facet is read off the two members of an object. -/
theorem Facet.ofJson?_obj {facet : Facet} {members : Assoc Json} (h : facet.key.IsWritable)
    (hkey : Assoc.get? "key" members = some facet.key.toKeyJson)
    (hcount : Assoc.get? "count" members = some (.ofUInt64 facet.count)) :
    Facet.ofJson? (.obj members) = some facet := by
  simp only [Facet.ofJson?, Record.ofJson?, bind, Option.bind, pure,
    Record.required?_byKey _ hkey, Record.required?_byKey _ hcount,
    FacetValue.ofKeyJson?_toKeyJson h, Json.toUInt64?_ofUInt64]

theorem Facet.ofJson?_toJson {facet : Facet} (h : facet.key.IsWritable) :
    Facet.ofJson? facet.toJson = some facet :=
  Facet.ofJson?_obj h rfl rfl

end FacetedSearch
