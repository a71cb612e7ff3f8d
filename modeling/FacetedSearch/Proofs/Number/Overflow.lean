import FacetedSearch.Proofs.Number.Shortest
import Mathlib.Tactic.Ring

/-!
# Which numbers are too large

Rounding goes past the finite magnitudes exactly for the numbers that are not below the middle
between the largest finite magnitude and what would be the next one.  The middle itself goes
past: the largest magnitude has an odd significand, so the tie goes to the other side.

The rank of a number is a rounded significand above so many blocks.  If these are fewer than
those of the largest magnitude the rank is finite, if they are more it is not, and if they are
as many it depends on whether the significand is rounded up to one bit more than it can have.

* `Binary64.roundHalfEven_lt_iff`: rounding stays below an even number;
* `Binary64.nearestRank_lt_iff`: which quotients stay below so many blocks;
* `Decimal.overflow`, `Decimal.nearestRank_lt_iff`: which decimals are finite.
-/

namespace FacetedSearch

namespace Binary64

/-- Rounding stays below an even number exactly for what is below the middle between it and the
number before. -/
theorem roundHalfEven_lt_iff {num den n : Nat} (hden : 0 < den) (heven : n % 2 = 0) :
    roundHalfEven num den < n ↔ 2 * num + den < 2 * (n * den) := by
  have hsplit : den * (num / den) + num % den = num := Nat.div_add_mod num den
  have hrest : num % den < den := Nat.mod_lt num hden
  have hlow := div_le_roundHalfEven num den
  have hhigh := roundHalfEven_le_succ num den
  rcases Nat.lt_trichotomy (num / den + 1) n with hless | hnext | hmore
  · have hroom : (num / den + 2) * den ≤ n * den := Nat.mul_le_mul_right den hless
    rw [Nat.add_mul, Nat.mul_comm (num / den)] at hroom
    exact iff_of_true (Nat.lt_of_le_of_lt hhigh hless) (by omega)
  · -- the number before is odd, so a tie is rounded up
    have hexpand : n * den = den * (num / den) + den := by
      rw [← hnext, Nat.add_mul, Nat.mul_comm (num / den), Nat.one_mul]
    rw [hexpand]
    unfold roundHalfEven
    dsimp only
    split
    · omega
    · split
      · omega
      · split <;> omega
  · have hover : n * den ≤ den * (num / den) := by
      rw [Nat.mul_comm n]
      exact Nat.mul_le_mul_left den (Nat.le_of_lt_succ hmore)
    exact iff_of_false (by omega) (by omega)

section Significand

variable {num den doublings : Nat}

/-- After the doublings that rounding takes away, a quotient has at most 53 bits. -/
theorem lt_of_doublings (hden : 0 < den) (h : (num / den).log2 - 52 = doublings) :
    num < 2 * blockRanks * (den * 2 ^ doublings) := by
  have hbits : num / den < 2 ^ (53 + doublings) :=
    Nat.lt_of_lt_of_le Nat.lt_log2_self (Nat.pow_le_pow_right (by decide) (by omega))
  have hexpand : 2 ^ (53 + doublings) * den = 2 * blockRanks * (den * 2 ^ doublings) := by
    have hblock : 2 * blockRanks = 2 ^ 53 := rfl
    rw [hblock, Nat.pow_add, Nat.mul_assoc, Nat.mul_comm den]
  exact hexpand ▸ (Nat.div_lt_iff_lt_mul hden).1 hbits

/-- If there are any doublings, it has no fewer. -/
theorem le_of_doublings (hden : 0 < den) (h : (num / den).log2 - 52 = doublings)
    (hpos : 0 < doublings) : blockRanks * (den * 2 ^ doublings) ≤ num := by
  have hne : num / den ≠ 0 := by
    intro hzero
    rw [hzero, Nat.log2_zero] at h
    omega
  have hbits : 2 ^ (52 + doublings) ≤ num / den := (Nat.le_log2 hne).1 (by omega)
  have hexpand : 2 ^ (52 + doublings) * den = blockRanks * (den * 2 ^ doublings) := by
    have hblock : blockRanks = 2 ^ 52 := rfl
    rw [hblock, Nat.pow_add, Nat.mul_assoc, Nat.mul_comm den]
  exact hexpand ▸ (Nat.le_div_iff_mul_le hden).1 hbits

end Significand

/-- **A quotient of units has a rank in the first blocks** exactly if it is below the middle
between the last magnitude of these blocks and the next one. -/
theorem nearestRank_lt_iff {num den : Nat} (hden : 0 < den) (top : Nat) :
    nearestRank num den < (top + 2) * blockRanks ↔
      2 * num + den * 2 ^ top < 2 * (2 * blockRanks * (den * 2 ^ top)) := by
  obtain ⟨doublings, hdoublings⟩ : ∃ doublings, (num / den).log2 - 52 = doublings := ⟨_, rfl⟩
  have hpos : 0 < den * 2 ^ doublings := Nat.mul_pos hden (Nat.pow_pos (by decide))
  have hrank : nearestRank num den =
      roundHalfEven num (den * 2 ^ doublings) + doublings * blockRanks := by
    rw [nearestRank, hdoublings]
    rfl
  have hupper := lt_of_doublings hden hdoublings
  have hround : roundHalfEven num (den * 2 ^ doublings) ≤ 2 * blockRanks :=
    Nat.le_trans (roundHalfEven_le_succ _ _) ((Nat.div_lt_iff_lt_mul hpos).2 hupper)
  have hdouble : ∀ less more : Nat, less < more → 2 * (den * 2 ^ less) ≤ den * 2 ^ more := by
    intro less more h
    rw [Nat.mul_left_comm, ← Nat.pow_succ']
    exact Nat.mul_le_mul_left den (Nat.pow_le_pow_right (by decide) h)
  rw [hrank]
  rcases Nat.lt_trichotomy doublings top with hless | rfl | hmore
  · have hscale := hdouble doublings top hless
    unfold blockRanks at *
    exact iff_of_true (by omega) (by omega)
  · -- only here does it matter how the significand is rounded
    rw [← roundHalfEven_lt_iff hpos (by decide)]
    unfold blockRanks
    omega
  · have hscale := hdouble top doublings hmore
    have hlower := le_of_doublings hden hdoublings (Nat.zero_lt_of_lt hmore)
    have hround' : blockRanks ≤ roundHalfEven num (den * 2 ^ doublings) :=
      Nat.le_trans ((Nat.le_div_iff_mul_le hpos).2 hlower) (div_le_roundHalfEven _ _)
    unfold blockRanks at *
    exact iff_of_false (by omega) (by omega)

end Binary64

namespace Decimal

/-- The least number that is too large: the middle between the largest finite magnitude and what
would be the next one. -/
def overflow : Nat := (4 * blockRanks - 1) * Nat.pow 2 (Binary64.unitPlaces - 104)

theorem denominator_pos (d : Decimal) : 0 < d.denominator := Nat.pow_pos (by decide)

/-- **A decimal is nearest to a finite magnitude exactly if it is below the overflow.** -/
theorem nearestRank_lt_iff (d : Decimal) :
    d.nearestRank < finiteMagnitudes ↔ d.numerator < overflow * d.denominator := by
  obtain ⟨places, hplaces⟩ : ∃ places, Binary64.unitPlaces = places + 104 := ⟨970, rfl⟩
  have hone : Binary64.unitsPerOne = 2 ^ (places + 104) := by
    rw [Binary64.unitsPerOne_eq, hplaces, Nat.pow_eq]
  have hover : overflow = (4 * blockRanks - 1) * 2 ^ places := by
    rw [overflow, hplaces, Nat.add_sub_cancel, Nat.pow_eq]
  have hmagnitudes : finiteMagnitudes = (places + 1 + (places + 104) + 2) * blockRanks := by
    have hbits : Binary64.unitPlaces = 1074 := rfl
    exact congrArg (· * blockRanks) (by omega)
  have hscale : d.denominator * 2 ^ (places + 1 + (places + 104)) =
      2 * (d.denominator * 2 ^ places) * 2 ^ (places + 104) := by
    rw [Nat.pow_add, Nat.pow_succ, ← Nat.mul_assoc, ← Nat.mul_assoc, Nat.mul_comm _ 2]
  have hpos : 0 < 2 ^ (places + 104) := Nat.pow_pos (by decide)
  have hcommon : ∀ n m unit : Nat, 0 < unit →
      (2 * (n * unit) + 2 * m * unit < 2 * (2 * blockRanks * (2 * m * unit)) ↔
        n + m < 4 * blockRanks * m) := by
    intro n m unit hunit
    have hleft : 2 * (n * unit) + 2 * m * unit = (n + m) * (2 * unit) := by ring
    have hright : 2 * (2 * blockRanks * (2 * m * unit)) = 4 * blockRanks * m * (2 * unit) := by
      ring
    rw [hleft, hright, Nat.mul_lt_mul_right (by omega)]
  rw [nearestRank, hmagnitudes, Binary64.nearestRank_lt_iff d.denominator_pos, hone, hscale,
    hcommon _ _ _ hpos, hover, Nat.mul_assoc (4 * blockRanks - 1), Nat.mul_comm (2 ^ places)]
  unfold blockRanks
  omega

end Decimal
end FacetedSearch
