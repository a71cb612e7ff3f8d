import FacetedSearch.Number.Decimal
import FacetedSearch.Text.Integer

/-!
# Plain number text

Ids, labels and messages write a double in positional notation, whatever its size:
the fewest digits that read back, no exponent, no trailing point, a minus sign also on
the negative zero.  The infinities are `inf` and `-inf`, and the rest is `NaN`.

Reading is more liberal than writing.  It takes an optional sign, then digits with at
most one point somewhere among or beside them, then an optional decimal exponent; or
one of the words `inf`, `infinity` and `nan` in any case.

## Main definitions

* `Decimal.positional`: the digits of a decimal with its point in place;
* `Binary64.plainText`: the text of a double;
* `Binary64.ofText?`: the double that a text denotes, correctly rounded.
-/

namespace FacetedSearch

/-! ## Writing -/

/-- The digits of a decimal in positional notation. -/
def Decimal.positional (d : Decimal) : List Char :=
  let ds := digits d.significand
  if 0 ≤ d.exponent then ds ++ List.replicate d.exponent.toNat '0'
  else
    let places := (-d.exponent).toNat
    if places < ds.length then
      ds.take (ds.length - places) ++ '.' :: ds.drop (ds.length - places)
    else '0' :: '.' :: (List.replicate (places - ds.length) '0' ++ ds)

namespace Binary64

/-- The characters of the sign. -/
def signChars (negative : Bool) : List Char := if negative then ['-'] else []

/-- The plain text of a double: positional, with the fewest digits that read back. -/
def plainText : Binary64 → String
  | .nan => "NaN"
  | .infinity negative => String.ofList (signChars negative ++ "inf".toList)
  | .finite negative rank =>
    String.ofList (signChars negative ++ (Decimal.shortest .up rank.val).positional)

/-- The plain text of a bound: nothing when it is absent. -/
def boundText : Option Binary64 → String
  | none => ""
  | some x => x.plainText

@[simp] theorem boundText_none : boundText none = "" := rfl

@[simp] theorem boundText_some (x : Binary64) : boundText (some x) = x.plainText := rfl

end Binary64

/-! ## Reading -/

/-- The exponent part of a number: nothing at all, or a mark and an integer. -/
def Decimal.exponentPart? : List Char → Option Int
  | [] => some 0
  | c :: rest => if c = 'e' ∨ c = 'E' then integerOf? rest else none

/-- The decimal that an unsigned text denotes.  Exponents are cut to a range that no
magnitude of so many digits leaves: beyond it everything is zero or overflows. -/
def Decimal.ofChars? (cs : List Char) : Option Decimal :=
  let whole := cs.takeWhile Char.isDigit
  let afterWhole := cs.dropWhile Char.isDigit
  let (fraction, rest) := match afterWhole with
    | '.' :: more => (more.takeWhile Char.isDigit, more.dropWhile Char.isDigit)
    | other => ([], other)
  if whole = [] ∧ fraction = [] then none
  else
    (exponentPart? rest).map fun e =>
      let limit : Int := cs.length + 400
      ⟨ofDigits (whole ++ fraction), max (-limit) (min limit e) - fraction.length⟩

namespace Binary64

/-- The double that an unsigned text denotes, given the sign. -/
def ofUnsigned? (negative : Bool) (cs : List Char) : Option Binary64 :=
  let lower := cs.map Char.toLower
  if lower = "inf".toList ∨ lower = "infinity".toList then some (.infinity negative)
  else if lower = "nan".toList then some .nan
  else (Decimal.ofChars? cs).map fun d => d.toBinary64 negative

/-- The double that a list of characters denotes. -/
def ofChars? : List Char → Option Binary64
  | '-' :: rest => ofUnsigned? true rest
  | '+' :: rest => ofUnsigned? false rest
  | cs => ofUnsigned? false cs

/-- The double that a text denotes, rounded to nearest. -/
def ofText? (text : String) : Option Binary64 := ofChars? text.toList

end Binary64

end FacetedSearch
