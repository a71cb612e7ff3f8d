import FacetedSearch.Json.Record
import FacetedSearch.Number.PlainText
import FacetedSearch.Text.DecimalDigit

/-!
# Bounds of a range, and their ids

A range facet counts documents in half-open intervals `[lower, upper)` of which either
end may be open.  The id of an interval joins the plain texts of its bounds with a
dash, an absent bound leaving its place empty.

An id is read by its shape alone: two runs of decimal digits with at most one point
each, around a single dash.  The digits may be of any script, but a bound is only there
if its text has a numeric reading; otherwise it is taken as absent.  So ids carry
finite bounds without a sign and no others, and `Bounds.isEncodable` says which
intervals have an id to be read back from.

## Main definitions

* `Bounds`, `Bounds.shown`: intervals, and how messages show them;
* `Bounds.id`, `Bounds.ofId?`: the id of an interval, and the interval of an id;
* `Bounds.isEncodable`: both bounds are absent or finite and unsigned;
* `Bounds.toJson`, `Bounds.ofJson?`: intervals in documents.
-/

namespace FacetedSearch

/-- The interval `[lower, upper)`; an absent bound leaves its end open. -/
structure Bounds where
  lower : Option Binary64
  upper : Option Binary64
  deriving DecidableEq

namespace Bounds

/-- Whether both ends are open. -/
def isUnbounded (bounds : Bounds) : Bool :=
  bounds.lower.isNone && bounds.upper.isNone

/-- How messages and labels show an interval. -/
def shown (bounds : Bounds) : String :=
  "[" ++ Binary64.boundText bounds.lower ++ ", " ++ Binary64.boundText bounds.upper ++ ")"

/-! ## Ids -/

/-- The id of an interval: the texts of its bounds around a dash. -/
def id (bounds : Bounds) : String :=
  Binary64.boundText bounds.lower ++ "-" ++ Binary64.boundText bounds.upper

/-- Whether a run of characters has the shape of a bound: decimal digits of any script
with at most one point. -/
def isBoundText (cs : List Char) : Bool :=
  cs.all (fun c => c == '.' || isDecimalDigit c) && cs.count '.' ≤ 1

/-- The interval of an id given as characters. -/
def ofIdChars? (cs : List Char) : Option Bounds :=
  let before := cs.takeWhile (· ≠ '-')
  match cs.dropWhile (· ≠ '-') with
  | [] => none
  | _ :: after =>
    if isBoundText before && isBoundText after then
      some ⟨Binary64.ofChars? before, Binary64.ofChars? after⟩
    else none

/-- The interval of an id, if the id has the shape of one. -/
def ofId? (text : String) : Option Bounds := ofIdChars? text.toList

/-- Whether an id can carry a bound. -/
def isEncodableBound : Option Binary64 → Bool
  | none => true
  | some x => x.isUnsigned

/-- Whether an id can carry both bounds. -/
def isEncodable (bounds : Bounds) : Bool :=
  isEncodableBound bounds.lower && isEncodableBound bounds.upper

/-! ## Comparison -/

/-- Comparison of bounds: an absent one comes first. -/
def compareBound? : Option Binary64 → Option Binary64 → Option Ordering
  | none, none => some .eq
  | none, some _ => some .lt
  | some _, none => some .gt
  | some x, some y => x.compare? y

/-- Comparison by the lower bounds and then by the upper ones. -/
def compare? (a b : Bounds) : Option Ordering :=
  match compareBound? a.lower b.lower with
  | some .eq => compareBound? a.upper b.upper
  | other => other

/-- Equality by value: `NaN` differs from itself and the two zeros are equal. -/
def sameValue (a b : Bounds) : Bool :=
  compareBound? a.lower b.lower == some .eq && compareBound? a.upper b.upper == some .eq

/-! ## Documents -/

/-- An interval as a document: a member for each bound that is there. -/
def toJson (bounds : Bounds) : Json :=
  .ofFields [("from", bounds.lower.map .ofBinary64), ("to", bounds.upper.map .ofBinary64)]

/-- The interval in a document. -/
def ofJson? (document : Json) : Option Bounds := do
  let record ← Record.ofJson? 2 document
  let lower ← record.optional? 0 "from" Json.toBinary64?
  let upper ← record.optional? 1 "to" Json.toBinary64?
  return ⟨lower, upper⟩

end Bounds

end FacetedSearch
