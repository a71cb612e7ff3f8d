import FacetedSearch.Number.Binary64
import FacetedSearch.Text.Blank

/-!
# Integer texts

The ids of integer terms are decimal texts of 64-bit integers.  Reading one takes
blanks at the ends, a sign of either kind and leading zeros; writing gives the one
canonical text.  Labels show the integer part of a bound with its thousands separated.

## Main definitions

* `integerText`, `integerOfText?`: the canonical text, and the liberal reading;
* `groupThousands`: digits in groups of three;
* `Binary64.groupedText`: a bound as labels show it.
-/

namespace FacetedSearch

/-- The decimal digits of an integer, after its minus sign. -/
def integerChars (n : Int) : List Char :=
  if n < 0 then '-' :: Nat.toDigits 10 n.natAbs else Nat.toDigits 10 n.natAbs

/-- The decimal text of an integer. -/
def integerText (n : Int) : String := String.ofList (integerChars n)

/-- The natural number of a run of ASCII digits, which may not be empty. -/
def naturalOf? (cs : List Char) : Option Nat :=
  if cs ≠ [] ∧ cs.all Char.isDigit then some (Nat.ofDigitChars 10 cs 0) else none

/-- The integer of a run of ASCII digits after an optional sign. -/
def integerOf? : List Char → Option Int
  | '-' :: rest => (naturalOf? rest).map fun n => -(n : Int)
  | '+' :: rest => (naturalOf? rest).map fun n => (n : Int)
  | cs => (naturalOf? cs).map fun n => (n : Int)

/-- The 64-bit integer equal to an integer, if there is one. -/
def int64Of? (n : Int) : Option Int64 :=
  if (Int64.ofInt n).toInt = n then some (Int64.ofInt n) else none

/-- The 64-bit integer that a text denotes, blanks at its ends aside. -/
def integerOfText? (text : String) : Option Int64 :=
  (integerOf? (trimBlanks text.toList)).bind int64Of?

/-! ## Thousands -/

/-- Puts a comma before every group of three that ends the digits. -/
def groupThousands : List Char → List Char
  | [] => []
  | [c] => [c]
  | c :: rest => if rest.length % 3 = 0 then c :: ',' :: groupThousands rest
    else c :: groupThousands rest

/-- An integer with its thousands separated. -/
def groupedIntegerChars (n : Int) : List Char :=
  let digits := groupThousands (Nat.toDigits 10 n.natAbs)
  if n < 0 then '-' :: digits else digits

/-- The integer part of a bound with its thousands separated. -/
def Binary64.groupedText (x : Binary64) : String :=
  String.ofList (groupedIntegerChars x.toInt64.toInt)

end FacetedSearch
