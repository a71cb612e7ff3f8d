import FacetedSearch.Number.Decimal

/-!
# The shortest decimal reads back

The text of a double has the digits of `Decimal.shortest`.  Every decimal that the search
finds reads back, because it was tried.  What is left to show is that the exact decimal,
which stands behind the search, reads back too: its quotient is a whole number of units,
and a magnitude is nearest to itself.

* `Binary64.nearestRank_unitsOf`: rounding the units of a rank gives the rank;
* `Decimal.nearestRank_shortest`: the shortest decimal of a rank reads back as the rank.
-/

namespace FacetedSearch

namespace Binary64

/-! ## Units of a rank -/

/-- Below the second block a rank is its own number of units. -/
theorem unitsOf_of_lt {rank : Nat} (h : rank < 2 * blockRanks) : unitsOf rank = rank := by
  have hs : spacing rank = 0 := by
    unfold spacing
    unfold blockRanks at *
    omega
  rw [unitsOf, hs, Nat.zero_mul, Nat.sub_zero]
  exact Nat.mul_one rank

/-- From the second block on, the rank within its block is a significand of 53 bits. -/
theorem significand_bounds {rank : Nat} (h : 2 * blockRanks ≤ rank) :
    blockRanks ≤ rank - spacing rank * blockRanks ∧
      rank - spacing rank * blockRanks < 2 * blockRanks := by
  unfold spacing
  unfold blockRanks at *
  omega

theorem log2_unitsOf {rank : Nat} (h : 2 * blockRanks ≤ rank) :
    (unitsOf rank).log2 = 52 + spacing rank := by
  obtain ⟨hlow, hhigh⟩ := significand_bounds h
  have hpos : 0 < Nat.pow 2 (spacing rank) := Nat.pow_pos (by decide)
  have hne : unitsOf rank ≠ 0 := by
    rw [unitsOf]
    exact Nat.mul_ne_zero (by unfold blockRanks at *; omega) (Nat.ne_of_gt hpos)
  have hblock : blockRanks = 2 ^ 52 := rfl
  rw [Nat.log2_eq_iff hne, unitsOf]
  constructor
  · rw [Nat.pow_add, ← hblock]
    exact Nat.mul_le_mul_right _ hlow
  · rw [Nat.add_right_comm, Nat.pow_add, Nat.pow_succ, ← hblock, Nat.mul_comm blockRanks 2]
    exact Nat.mul_lt_mul_of_pos_right hhigh hpos

/-! ## Rounding -/

theorem roundHalfEven_mul (n : Nat) {den : Nat} (h : 0 < den) :
    roundHalfEven (n * den) den = n := by
  unfold roundHalfEven
  rw [Nat.mul_mod_left, Nat.mul_div_cancel n h]
  simp only [Nat.mul_zero, if_pos h]

theorem div_le_roundHalfEven (num den : Nat) : num / den ≤ roundHalfEven num den := by
  unfold roundHalfEven
  dsimp only
  split
  · exact Nat.le_refl _
  · split
    · exact Nat.le_succ _
    · split
      · exact Nat.le_refl _
      · exact Nat.le_succ _

theorem roundHalfEven_le_succ (num den : Nat) : roundHalfEven num den ≤ num / den + 1 := by
  unfold roundHalfEven
  dsimp only
  split
  · exact Nat.le_succ _
  · split
    · exact Nat.le_refl _
    · split
      · exact Nat.le_succ _
      · exact Nat.le_refl _

/-- **A magnitude is nearest to itself**, however the quotient is written. -/
theorem nearestRank_unitsOf (rank : Nat) {den : Nat} (h : 0 < den) :
    nearestRank (unitsOf rank * den) den = rank := by
  unfold nearestRank
  rw [Nat.mul_div_cancel _ h]
  rcases Nat.lt_or_ge rank (2 * blockRanks) with hr | hr
  · have hlog : (unitsOf rank).log2 - 52 = 0 := by
      rw [unitsOf_of_lt hr]
      have : rank.log2 < 53 := by
        rcases Nat.eq_zero_or_pos rank with h0 | h0
        · rw [h0]; decide
        · exact (Nat.log2_lt (Nat.ne_of_gt h0)).2 hr
      omega
    simp only [hlog]
    have h1 : den * Nat.pow 2 0 = den := Nat.mul_one den
    rw [h1, roundHalfEven_mul _ h, unitsOf_of_lt hr, Nat.zero_mul, Nat.add_zero]
  · have hlog : (unitsOf rank).log2 - 52 = spacing rank := by
      rw [log2_unitsOf hr, Nat.add_sub_cancel_left]
    have hpos : 0 < den * Nat.pow 2 (spacing rank) := Nat.mul_pos h (Nat.pow_pos (by decide))
    simp only [hlog]
    rw [unitsOf, Nat.mul_assoc, Nat.mul_comm _ den, roundHalfEven_mul _ hpos]
    have hsig : 0 < rank - spacing rank * blockRanks :=
      Nat.lt_of_lt_of_le (by decide) (significand_bounds hr).1
    exact Nat.sub_add_cancel (Nat.le_of_lt (Nat.lt_of_sub_pos hsig))

end Binary64

namespace Decimal

theorem numerator_of_exponent {d : Decimal} {places : Nat} (h : d.exponent = -(places : Int)) :
    d.numerator = d.significand := by
  rw [numerator, h, Int.toNat_neg_natCast]
  exact Nat.mul_one d.significand

theorem denominator_of_exponent {d : Decimal} {places : Nat} (h : d.exponent = -(places : Int)) :
    d.denominator = Nat.pow 10 places := by
  rw [denominator, h, Int.neg_neg, Int.toNat_natCast]

/-- A decimal whose places cancel the unit is nearest to the magnitude whose units it has. -/
theorem nearestRank_of_exponent {d : Decimal} {rank : Nat} (places : Nat)
    (hone : Binary64.unitsPerOne = Nat.pow 2 places) (hexp : d.exponent = -(places : Int))
    (hsig : d.significand = Binary64.unitsOf rank * Nat.pow 5 places) : d.nearestRank = rank := by
  have hten : Nat.pow 10 places = Nat.pow 5 places * Nat.pow 2 places := Nat.mul_pow 5 2 places
  rw [nearestRank, numerator_of_exponent hexp, denominator_of_exponent hexp, hone, hsig,
    Nat.mul_assoc, ← hten]
  exact Binary64.nearestRank_unitsOf rank (Nat.pow_pos (by decide))

/-- The exact decimal of a magnitude reads back as it. -/
theorem nearestRank_exact (rank : Nat) : (exact rank).nearestRank = rank :=
  nearestRank_of_exponent Binary64.unitPlaces Binary64.unitsPerOne_eq rfl rfl

theorem nearestRank_zero : (⟨0, 0⟩ : Decimal).nearestRank = 0 := by
  rw [nearestRank]
  generalize Binary64.unitsPerOne = scale
  have hnum : (⟨0, 0⟩ : Decimal).numerator * scale = Binary64.unitsOf 0 * 1 := Nat.zero_mul scale
  rw [hnum]
  exact Binary64.nearestRank_unitsOf 0 Nat.one_pos

/-- **The shortest decimal reads back.** -/
theorem nearestRank_shortest (tie : Tie) (rank : Nat) : (shortest tie rank).nearestRank = rank := by
  unfold shortest
  split
  · next h =>
    rw [h]
    exact nearestRank_zero
  · cases hfound : (grids rank).findSome? (neighbour? tie rank) with
    | none => exact nearestRank_exact rank
    | some d =>
      obtain ⟨e, -, he⟩ := List.exists_of_findSome?_eq_some hfound
      exact nearestRank_of_neighbour? he

end Decimal

end FacetedSearch
