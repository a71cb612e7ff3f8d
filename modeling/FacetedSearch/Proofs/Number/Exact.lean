import FacetedSearch.Proofs.Number.IntegerText
import Mathlib.Algebra.Field.Rat
import Mathlib.Data.Int.Cast.Lemmas
import Mathlib.Data.Rat.Floor
import Mathlib.Tactic.NormNum

/-!
# The exact value of a double

A finite double is a fraction, its units over the units of one, and it is an integer exactly if
nothing is left when they are divided.  The test for a fractional part is therefore exact, and
where it is passed truncation does not change the value.  What does change it is the clamp
behind the truncation: it keeps what a 64-bit integer can be and moves all else to the nearer
end of the range.

* `towardsZero`: truncation of a number;
* `Binary64.exactValue?`: the number that a finite double is;
* `Binary64.exactValue?_eq_intCast_iff`: which doubles are integers, and which integers;
* `Binary64.truncate_of_exactValue?`: the integer part of a double;
* `Binary64.toInt64_of_exactValue?`, `Binary64.toInt64_of_towardsZero`,
  `Binary64.clampInt64_of_outside`: what becomes of them.
-/

namespace FacetedSearch

/-! ## Truncation -/

/-- The integer next to a number on the side of zero. -/
def towardsZero (q : ℚ) : Int := if q < 0 then ⌈q⌉ else ⌊q⌋

theorem towardsZero_of_nonneg {q : ℚ} (h : 0 ≤ q) : towardsZero q = ⌊q⌋ :=
  if_neg (not_lt.2 h)

theorem towardsZero_neg_of_nonneg {q : ℚ} (h : 0 ≤ q) : towardsZero (-q) = -⌊q⌋ := by
  rcases h.eq_or_lt with rfl | hpos
  · rw [neg_zero, towardsZero_of_nonneg le_rfl, Int.floor_zero, neg_zero]
  · rw [towardsZero, if_pos (neg_lt_zero.2 hpos), Int.ceil_neg]

/-- What lies between minus one and one is truncated to zero. -/
theorem towardsZero_eq_zero {q : ℚ} (hlow : -1 < q) (hhigh : q < 1) : towardsZero q = 0 := by
  unfold towardsZero
  split
  · next hneg => exact Int.ceil_eq_zero_iff.2 ⟨hlow, hneg.le⟩
  · next hneg => exact Int.floor_eq_zero_iff.2 ⟨not_lt.1 hneg, hhigh⟩

theorem towardsZero_intCast (n : Int) : towardsZero (n : ℚ) = n := by
  unfold towardsZero
  split
  · exact Int.ceil_intCast n
  · exact Int.floor_intCast n

/-! ## Values -/

namespace Binary64

variable {x : Binary64} {n : Int} {q : ℚ}

/-- The number that a finite double is. -/
def exactValue? : Binary64 → Option ℚ
  | .finite false rank => some ((unitsOf rank.val : ℚ) / unitsPerOne)
  | .finite true rank => some (-((unitsOf rank.val : ℚ) / unitsPerOne))
  | _ => none

/-- A fraction is an integer exactly if the division leaves nothing. -/
theorem natCast_div_eq_intCast_iff {num den : Nat} (hden : 0 < den) :
    (num : ℚ) / den = n ↔ num % den = 0 ∧ ((num / den : Nat) : Int) = n := by
  have hne : (den : ℚ) ≠ 0 := Nat.cast_ne_zero.2 (Nat.pos_iff_ne_zero.1 hden)
  rw [div_eq_iff hne]
  constructor
  · intro h
    have hint : (num : Int) = n * den := by exact_mod_cast h
    have hdvd : den ∣ num := Int.natCast_dvd_natCast.1 ⟨n, by rw [hint, Int.mul_comm]⟩
    refine ⟨Nat.mod_eq_zero_of_dvd hdvd, ?_⟩
    rw [Int.natCast_ediv, hint]
    exact Int.mul_ediv_cancel n (by omega)
  · rintro ⟨hmod, rfl⟩
    have hsplit : num / den * den = num := Nat.div_mul_cancel (Nat.dvd_of_mod_eq_zero hmod)
    exact_mod_cast hsplit.symm

/-- **The test for a fractional part is exact**, and truncation then gives the value. -/
theorem exactValue?_eq_intCast_iff :
    x.exactValue? = some (n : ℚ) ↔ x.isIntegral = true ∧ x.truncate = n := by
  cases x with
  | nan => exact iff_of_false nofun nofun
  | infinity negative => exact iff_of_false nofun nofun
  | finite negative rank =>
    rw [isIntegral, beq_iff_eq]
    cases negative with
    | false =>
      rw [exactValue?, Option.some.injEq]
      exact natCast_div_eq_intCast_iff unitsPerOne_pos
    | true =>
      rw [exactValue?, Option.some.injEq, neg_eq_iff_eq_neg, ← Int.cast_neg,
        natCast_div_eq_intCast_iff unitsPerOne_pos, truncate, neg_eq_iff_eq_neg]

/-- A double has one exact value at most. -/
theorem exactValue?_intCast_unique {n' : Int} (h : x.exactValue? = some (n : ℚ))
    (h' : x.exactValue? = some (n' : ℚ)) : n = n' :=
  (exactValue?_eq_intCast_iff.1 h).2.symm.trans (exactValue?_eq_intCast_iff.1 h').2

/-- A double is truncated as the number that it is. -/
theorem truncate_of_exactValue? (h : x.exactValue? = some q) : x.truncate = towardsZero q := by
  cases x with
  | nan => cases h
  | infinity negative => cases h
  | finite negative rank =>
    have hnonneg : (0 : ℚ) ≤ (unitsOf rank.val : ℚ) / unitsPerOne :=
      div_nonneg (Nat.cast_nonneg _) (Nat.cast_nonneg _)
    have hfloor : ⌊(unitsOf rank.val : ℚ) / unitsPerOne⌋ =
        ((unitsOf rank.val / unitsPerOne : Nat) : Int) := by
      rw [Rat.floor_natCast_div_natCast, Int.natCast_ediv]
    cases negative with
    | false =>
      rw [← Option.some.inj h, towardsZero_of_nonneg hnonneg, hfloor]
      rfl
    | true =>
      rw [← Option.some.inj h, towardsZero_neg_of_nonneg hnonneg, hfloor]
      rfl

/-- What a finite double is converted to is its integer part, clamped. -/
theorem toInt64_eq_clampInt64 (h : x.exactValue? = some q) :
    x.toInt64 = clampInt64 (towardsZero q) := by
  rw [← truncate_of_exactValue? h]
  cases x with
  | nan => cases h
  | infinity negative => cases h
  | finite negative rank => rfl

/-- What an integral double is converted to is its value, clamped. -/
theorem toInt64_of_exactValue? (h : x.exactValue? = some (n : ℚ)) : x.toInt64 = clampInt64 n := by
  rw [toInt64_eq_clampInt64 h, towardsZero_intCast]

/-- Where the integer part is a 64-bit integer, the conversion gives it. -/
theorem toInt64_of_towardsZero {m : Int64} (h : x.exactValue? = some q)
    (hm : towardsZero q = m.toInt) : x.toInt64 = m := by
  rw [toInt64_eq_clampInt64 h, hm, clampInt64_toInt]

/-- What no 64-bit integer is goes to the end of the range on its side. -/
theorem clampInt64_of_outside (h : ∀ m : Int64, m.toInt ≠ n) :
    clampInt64 n = if n < 0 then Int64.minValue else Int64.maxValue := by
  unfold clampInt64
  split
  · next hlow => rw [if_pos (Int.lt_of_lt_of_le hlow (by decide))]
  · next hlow =>
    split
    · next hhigh => rw [if_neg (Int.not_lt.2 (Int.le_of_lt (Int.lt_of_le_of_lt (by decide) hhigh)))]
    · next hhigh =>
      refine absurd (Int64.toInt_ofInt_of_le ?_ ?_) (h (Int64.ofInt n))
      · exact Int.not_lt.1 hlow
      · exact Int.lt_add_one_of_le (Int.not_lt.1 hhigh)

end Binary64

end FacetedSearch
