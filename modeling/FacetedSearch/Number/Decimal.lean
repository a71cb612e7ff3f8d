import FacetedSearch.Number.Binary64

/-!
# Decimal numbers and the shortest one that reads back

A `Decimal` is a significand and a power of ten.  Every finite double is a decimal
exactly, but its text should have as few digits as still name it.  `shortest` looks
for that decimal on the grids of multiples of `10 ^ e`, coarse grids first.  On one
grid only the two neighbours of the magnitude can be nearest to it, so only those are
tried, and trying one means reading it back.  Where both neighbours read back the
nearer is taken, and `Tie` settles a draw.

Nothing has to be known about the search for its result to be right: a candidate is
only ever returned because it reads back, and the exact decimal stands behind the
last grid.

## Main definitions

* `Decimal.nearestRank`: the rank of the magnitude nearest to a decimal;
* `Decimal.exact`: the decimal equal to a magnitude;
* `Decimal.shortest`: the decimal with the fewest digits that reads back.
-/

namespace FacetedSearch

/-- The number `significand * 10 ^ exponent`. -/
structure Decimal where
  significand : Nat
  exponent : Int
  deriving DecidableEq

/-- Which of two equally near decimals is taken. -/
inductive Tie where
  | up
  | even
  deriving DecidableEq

namespace Decimal

/-- The numerator of a decimal as a quotient. -/
def numerator (d : Decimal) : Nat := d.significand * Nat.pow 10 d.exponent.toNat

/-- The denominator of a decimal as a quotient. -/
def denominator (d : Decimal) : Nat := Nat.pow 10 (-d.exponent).toNat

/-- The rank of the magnitude nearest to a decimal; it may lie past the finite ranks. -/
def nearestRank (d : Decimal) : Nat :=
  Binary64.nearestRank (d.numerator * Binary64.unitsPerOne) d.denominator

/-- The double nearest to a decimal, with the given sign. -/
def toBinary64 (negative : Bool) (d : Decimal) : Binary64 :=
  Binary64.ofRank negative d.nearestRank

/-- Whether a decimal reads back as the given rank. -/
def names (d : Decimal) (rank : Nat) : Bool := d.nearestRank == rank

/-- The decimal equal to the magnitude of a rank. -/
def exact (rank : Nat) : Decimal :=
  ⟨Binary64.unitsOf rank * Nat.pow 5 Binary64.unitPlaces, -Binary64.unitPlaces⟩

/-! ## The search for few digits -/

/-- The magnitude of a rank divided by `10 ^ e`, as a numerator and a denominator. -/
def onGrid (rank : Nat) (e : Int) : Nat × Nat :=
  (Binary64.unitsOf rank * Nat.pow 10 (-e).toNat, Binary64.unitsPerOne * Nat.pow 10 e.toNat)

/-- Whether the upper neighbour on a grid is to be taken where both read back. -/
def prefersUpper (tie : Tie) (num den : Nat) : Bool :=
  match compare (2 * (num % den)) den with
  | .lt => false
  | .gt => true
  | .eq => match tie with
    | .up => true
    | .even => num / den % 2 == 1

/-- The better of the magnitude's two neighbours among the multiples of `10 ^ e`, of
those that read back. -/
def neighbour? (tie : Tie) (rank : Nat) (e : Int) : Option Decimal :=
  let (num, den) := onGrid rank e
  let below : Decimal := ⟨num / den, e⟩
  let above : Decimal := ⟨num / den + 1, e⟩
  if below.names rank then
    some (if above.names rank && prefersUpper tie num den then above else below)
  else if above.names rank then some above
  else none

/-- An exponent whose power of ten exceeds the magnitude of a rank. -/
def coarsest (rank : Nat) : Int :=
  (((Binary64.unitsOf rank).log2 : Int) - 1073) * 30103 / 100000 + 2

/-- The grids that are searched, coarse ones first: those of up to seventeen digits and
a few more. -/
def grids (rank : Nat) : List Int :=
  (List.range 24).map fun steps => coarsest rank - (steps : Nat)

/-- The decimal of fewest digits that reads back as the magnitude of a rank, and of
those the nearest. -/
def shortest (tie : Tie) (rank : Nat) : Decimal :=
  if rank = 0 then ⟨0, 0⟩
  else ((grids rank).findSome? (neighbour? tie rank)).getD (exact rank)

/-! ## Digits -/

/-- The decimal digits of a natural number, most significant first. -/
def digits (n : Nat) : List Char := Nat.toDigits 10 n

/-- The natural number that a run of decimal digits denotes. -/
def ofDigits (cs : List Char) : Nat := Nat.ofDigitChars 10 cs 0

theorem names_iff {d : Decimal} {rank : Nat} : d.names rank = true ↔ d.nearestRank = rank := by
  simp [names]

theorem ofDigits_digits (n : Nat) : ofDigits (digits n) = n :=
  Nat.ofDigitChars_toDigits (by decide) (by decide)

/-- A neighbour is only taken if it reads back. -/
theorem nearestRank_of_neighbour? {tie : Tie} {rank : Nat} {e : Int} {d : Decimal}
    (h : neighbour? tie rank e = some d) : d.nearestRank = rank := by
  rw [← names_iff]
  unfold neighbour? at h
  generalize onGrid rank e = grid at h
  obtain ⟨num, den⟩ := grid
  dsimp only at h
  generalize (⟨num / den, e⟩ : Decimal) = below at h
  generalize (⟨num / den + 1, e⟩ : Decimal) = above at h
  by_cases hb : below.names rank = true <;> by_cases ha : above.names rank = true <;>
    by_cases hp : prefersUpper tie num den = true <;> simp_all

end Decimal

end FacetedSearch
