import FacetedSearch.Json.Basic
import FacetedSearch.Number.PlainText

/-!
# Numerals of JSON text

A numeral without point and exponent is an integer if it fits 64 bits, signed or not,
and otherwise a double; the negative zero is a double too.  A numeral with a point or
an exponent is a double.

Doubles are read quickly rather than with one rounding.  The digits are gathered into a
64-bit significand, and what does not fit any more only counts towards the scale, or
not at all behind the point.  The significand is rounded to a double, and that is
multiplied or divided by the double nearest to the power of ten, rounding again.  So a
numeral of many digits may come out as a neighbour of the nearest double.  Overflow is
an error, underflow gives zero.

## Main definitions

* `Gathered`: a significand with its scale, built digit by digit;
* `scaled?`: a significand times a power of ten, in two roundings;
* `Json.ofNumeral?`: the number that a numeral denotes.
-/

namespace FacetedSearch

/-! ## Gathering digits -/

/-- A significand that fits 64 bits, the power of ten that scales it, and whether it is
full: once a digit did not fit, no later one of the same run is taken either. -/
structure Gathered where
  significand : Nat
  scale : Int
  full : Bool

namespace Gathered

/-- The significand after one more digit, if that still fits 64 bits. -/
def push? (g : Gathered) (c : Char) : Option Nat :=
  let next := g.significand * 10 + (c.toNat - '0'.toNat)
  if g.full = false ∧ next < UInt64.size then some next else none

/-- One digit before the point: a digit that does not fit still counts as a place. -/
def pushWhole (g : Gathered) (c : Char) : Gathered :=
  match g.push? c with
  | some next => ⟨next, g.scale, false⟩
  | none => ⟨g.significand, g.scale + 1, true⟩

/-- One digit behind the point: a digit that does not fit is dropped. -/
def pushFraction (g : Gathered) (c : Char) : Gathered :=
  match g.push? c with
  | some next => ⟨next, g.scale - 1, false⟩
  | none => ⟨g.significand, g.scale, true⟩

/-- The digits before the point. -/
def ofWhole (digits : List Char) : Gathered :=
  digits.foldl pushWhole ⟨0, 0, false⟩

/-- Adds the digits behind the point. -/
def addFraction (g : Gathered) (digits : List Char) : Gathered :=
  digits.foldl pushFraction ⟨g.significand, g.scale, false⟩

end Gathered

/-! ## Scaling -/

/-- The rank nearest to a power of ten. -/
def powerOfTen (e : Nat) : Nat :=
  Binary64.nearestRank (Nat.pow 10 e * Binary64.unitsPerOne) 1

/-- The rank nearest to the product of two ranks. -/
def rankTimes (rank power : Nat) : Nat :=
  Binary64.nearestRank (Binary64.unitsOf rank * Binary64.unitsOf power) Binary64.unitsPerOne

/-- The rank nearest to the quotient of two ranks. -/
def rankOver (rank power : Nat) : Nat :=
  Binary64.nearestRank (Binary64.unitsOf rank * Binary64.unitsPerOne) (Binary64.unitsOf power)

/-- The largest exponent whose power of ten is a finite double. -/
abbrev largestPower : Nat := 308

/-- A rank divided by a power of ten, by the largest power as often as it goes. -/
def scaledDown (rank e : Nat) : Nat :=
  if _h : e ≤ largestPower then rankOver rank (powerOfTen e)
  else if rank = 0 then 0
  else scaledDown (rankOver rank (powerOfTen largestPower)) (e - largestPower)
termination_by e
decreasing_by simp only [largestPower] at *; omega

/-- A significand times a power of ten, with the given sign; nothing on overflow. -/
def scaled? (negative : Bool) (significand : Nat) (scale : Int) : Option Binary64 :=
  let start := Binary64.nearestRank (significand * Binary64.unitsPerOne) 1
  if scale < 0 then some (Binary64.ofRank negative (scaledDown start scale.natAbs))
  else if largestPower < scale then
    if start = 0 then some (Binary64.ofRank negative 0) else none
  else
    let rank := rankTimes start (powerOfTen scale.toNat)
    if rank < finiteMagnitudes then some (Binary64.ofRank negative rank) else none

/-! ## Reading a numeral -/

/-- Exponents of this size or more are not computed with: two to the power of 31. -/
abbrev exponentLimit : Int := 2147483648

/-- The double of gathered digits and the exponent behind them.  An exponent past 31
bits is beyond everything: zero when negative, an error otherwise. -/
def Gathered.double? (g : Gathered) (negative : Bool) (exponent : Int) : Option Binary64 :=
  if exponentLimit ≤ exponent then
    if g.significand = 0 then some (Binary64.ofRank negative 0) else none
  else if exponent ≤ -exponentLimit then some (Binary64.ofRank negative 0)
  else scaled? negative g.significand (g.scale + exponent)

/-- The integer of a numeral without point and exponent; what does not fit 64 bits, and
the negative zero, is a double. -/
def Json.ofWholeNumeral? (negative : Bool) (digits : List Char) : Option Json :=
  let n := Decimal.ofDigits digits
  let gathered := Gathered.ofWhole digits
  if negative then
    if n ≠ 0 ∧ (int64Of? (-n)).isSome then some (.int (-n))
    else (gathered.double? true 0).map .float
  else if n < UInt64.size then some (.int n)
  else (gathered.double? false 0).map .float

/-- The number of an unsigned numeral, given the sign. -/
def Json.ofUnsignedNumeral? (negative : Bool) (cs : List Char) : Option Json :=
  let whole := cs.takeWhile Char.isDigit
  if whole = [] ∨ (whole.head? = some '0' ∧ 1 < whole.length) then none
  else
    let gathered := Gathered.ofWhole whole
    match cs.dropWhile Char.isDigit with
    | [] => Json.ofWholeNumeral? negative whole
    | '.' :: more =>
      let fraction := more.takeWhile Char.isDigit
      let all := gathered.addFraction fraction
      if fraction = [] then none
      else (Decimal.exponentPart? (more.dropWhile Char.isDigit)).bind fun e =>
        (all.double? negative e).map .float
    | rest => (Decimal.exponentPart? rest).bind fun e => (gathered.double? negative e).map .float

/-- The number that a numeral denotes. -/
def Json.ofNumeral? : List Char → Option Json
  | '-' :: rest => Json.ofUnsignedNumeral? true rest
  | cs => Json.ofUnsignedNumeral? false cs

end FacetedSearch
