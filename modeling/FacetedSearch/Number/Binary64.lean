/-!
# Double-precision numbers, exactly

Bounds and float terms are IEEE binary64 numbers.  They are kept here as exact data,
so that reading, writing and comparing them are functions on natural numbers about
which theorems can be stated.

A finite number is a sign and a *rank*: the finite magnitudes, listed from zero
upwards, are numbered `0, 1, 2, …`, and there are `2047 * 2 ^ 52` of them.  Zero has
rank `0` under either sign.  Every magnitude is a whole number of *units*, the unit
being the smallest positive magnitude, `2 ^ (-1074)`.  Ranks below `2 ^ 53` equal
their units; after that each block of `2 ^ 52` ranks doubles the spacing.

## Main definitions

* `unitsOf`: the units of a rank;
* `nearestRank`: the rank nearest to a quotient of units, a tie going to the even rank;
* `Binary64.ofQuotient`, `Binary64.ofInt`: rounding exact values, overflowing to infinity;
* `Binary64.compare?`, `Binary64.sameValue`: comparison by value, where `NaN` is
  unordered and the two zeros are one value;
* `Binary64.toInt64`: truncation, clamped to the 64-bit integers.
-/

namespace FacetedSearch

/-- How many ranks share one spacing: two to the power of 52. -/
abbrev blockRanks : Nat := 4503599627370496

/-- How many finite magnitudes there are. -/
abbrev finiteMagnitudes : Nat := 2047 * blockRanks

/-- A double-precision number; a finite one is a sign and the rank of its magnitude. -/
inductive Binary64 where
  | nan
  | infinity (negative : Bool)
  | finite (negative : Bool) (rank : Fin finiteMagnitudes)
  deriving DecidableEq

namespace Binary64

/-! ## Ranks and units -/

/-- How many binary places the unit has. -/
def unitPlaces : Nat := 1074

/-- How many units make one. -/
def unitsPerOne : Nat := Nat.pow 2 unitPlaces

-- closed by more than the unfolding, the power would be evaluated
theorem unitsPerOne_eq : unitsPerOne = Nat.pow 2 unitPlaces := by
  unfold unitsPerOne
  with_reducible rfl

/-- The spacing at a rank is two to this power, in units. -/
def spacing (rank : Nat) : Nat := rank / blockRanks - 1

/-- The magnitude of a rank, in units. -/
def unitsOf (rank : Nat) : Nat :=
  (rank - spacing rank * blockRanks) * Nat.pow 2 (spacing rank)

/-- The whole number nearest to a quotient; halfway goes to the even neighbour. -/
def roundHalfEven (num den : Nat) : Nat :=
  let below := num / den
  let rest := num % den
  if 2 * rest < den then below
  else if den < 2 * rest then below + 1
  else if below % 2 = 0 then below
  else below + 1

/-- The rank nearest to `num / den` units.  It may lie past the finite ranks. -/
def nearestRank (num den : Nat) : Nat :=
  let doublings := (num / den).log2 - 52
  roundHalfEven num (den * Nat.pow 2 doublings) + doublings * blockRanks

/-- The number with the given sign and rank, infinite past the finite ranks. -/
def ofRank (negative : Bool) (rank : Nat) : Binary64 :=
  if h : rank < finiteMagnitudes then .finite negative ⟨rank, h⟩ else .infinity negative

/-- The number nearest to `num / den`, with the given sign. -/
def ofQuotient (negative : Bool) (num den : Nat) : Binary64 :=
  ofRank negative (nearestRank (num * unitsPerOne) den)

/-- The number nearest to an integer. -/
def ofInt (n : Int) : Binary64 :=
  ofQuotient (decide (n < 0)) n.natAbs 1

/-- The zero without a sign. -/
def zero : Binary64 := ofRank false 0

/-! ## Sign and class -/

/-- The same number with the other sign; `NaN` stays. -/
def neg : Binary64 → Binary64
  | .nan => .nan
  | .infinity negative => .infinity !negative
  | .finite negative rank => .finite (!negative) rank

/-- Neither infinite nor `NaN`. -/
def isFinite : Binary64 → Bool
  | .finite _ _ => true
  | _ => false

/-- Finite and without a minus sign; the negative zero is excluded. -/
def isUnsigned : Binary64 → Bool
  | .finite negative _ => !negative
  | _ => false

@[simp] theorem isFinite_finite (negative : Bool) (rank : Fin finiteMagnitudes) :
    isFinite (.finite negative rank) = true := rfl

@[simp] theorem isFinite_nan : isFinite .nan = false := rfl

@[simp] theorem isFinite_infinity (negative : Bool) : isFinite (.infinity negative) = false := rfl

@[simp] theorem isUnsigned_finite (negative : Bool) (rank : Fin finiteMagnitudes) :
    isUnsigned (.finite negative rank) = !negative := rfl

@[simp] theorem isUnsigned_nan : isUnsigned .nan = false := rfl

@[simp] theorem isUnsigned_infinity (negative : Bool) :
    isUnsigned (.infinity negative) = false := rfl

/-! ## Comparison by value -/

/-- The place of a number on the extended line of ranks.  Both zeros are at `0`. -/
def position : Binary64 → Int
  | .nan => 0
  | .infinity false => finiteMagnitudes
  | .infinity true => -finiteMagnitudes
  | .finite false rank => rank.val
  | .finite true rank => -rank.val

/-- Comparison by value; `NaN` compares with nothing. -/
def compare? : Binary64 → Binary64 → Option Ordering
  | .nan, _ => none
  | _, .nan => none
  | x, y => some (compare x.position y.position)

/-- Equality by value: the zeros are equal, `NaN` differs from itself. -/
def sameValue (x y : Binary64) : Bool :=
  x.compare? y == some .eq

/-! ## Integers -/

/-- Finite and without a fractional part. -/
def isIntegral : Binary64 → Bool
  | .finite _ rank => unitsOf rank.val % unitsPerOne == 0
  | _ => false

/-- The integer between the number and zero that is nearest to the number, if finite. -/
def truncate : Binary64 → Int
  | .finite false rank => (unitsOf rank.val / unitsPerOne : Nat)
  | .finite true rank => -(unitsOf rank.val / unitsPerOne : Nat)
  | _ => 0

/-- The integer clamped to the 64-bit range. -/
def clampInt64 (n : Int) : Int64 :=
  if n < Int64.minValue.toInt then Int64.minValue
  else if Int64.maxValue.toInt < n then Int64.maxValue
  else Int64.ofInt n

/-- Truncation to the 64-bit integers: what lies outside goes to the nearer end, and
`NaN` to zero. -/
def toInt64 : Binary64 → Int64
  | .nan => 0
  | .infinity false => Int64.maxValue
  | .infinity true => Int64.minValue
  | x => clampInt64 x.truncate

end Binary64

end FacetedSearch
