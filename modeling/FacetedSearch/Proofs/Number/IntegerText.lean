import FacetedSearch.Proofs.Number.PlainText
import FacetedSearch.Proofs.Text.Integer

/-!
# Doubles whose text is an integer

The text of a double has the fewest digits that read back, and zeros up to the point.  So it
can be the text of an integer that the double is not: the double next to a large integer is
written with zeros where it has other digits.  What the text says is always the integer to
which the double is nearest, and no more can be said of large ones.  Below two to the power of
53, however, every integer is a double, and being nearest to it is being it.

Whatever its size, a double whose text is an integer has no fractional part.  Up to that power
it is the integer, and beyond it the spacing of doubles is at least one.

* `Binary64.unitsOf_nearestRank_of_lt`: a small integer is a double;
* `Binary64.unitsPerOne_dvd_unitsOf`: a double that is nearest to an integer is integral;
* `Binary64.exists_of_integerOfText?_plainText`: what an integer text says of a double;
* `Binary64.isIntegral_of_integerOfText?`, `Binary64.truncate_of_integerOfText?`: so it is
  integral, and the integer itself if that is small.
-/

namespace FacetedSearch

namespace Decimal

/-! ## Positional notation without a point -/

/-- Digits alone are read as an integer of the same nearest rank. -/
theorem nearestRank_of_naturalOf?_positional {d : Decimal} {n : Nat}
    (h : naturalOf? d.positional = some n) : (⟨n, 0⟩ : Decimal).nearestRank = d.nearestRank := by
  unfold naturalOf? at h
  split at h
  · next hdigits =>
    have hall : ∀ c ∈ d.positional, c.isDigit = true := List.all_eq_true.1 hdigits.2
    have hn : ofDigits d.positional = n := Option.some.inj h
    rcases d.positional_shape with ⟨hexp, hpos⟩ | ⟨whole, fraction, hpos, -⟩
    · rw [hpos, ofDigits_append_zeros, ofDigits_digits] at hn
      rw [← hn]
      exact nearestRank_scale hexp
    · have hpoint : '.' ∈ d.positional := by
        rw [hpos]
        exact List.mem_append_right _ List.mem_cons_self
      exact absurd (hall '.' hpoint) (by decide)
  · cases h

theorem isBlank_of_mem_positional {d : Decimal} {c : Char} (h : c ∈ d.positional) :
    isBlank c = false := by
  rcases d.positional_shape with ⟨-, hpos⟩ | ⟨whole, fraction, hpos, hw, hf, -⟩
  · rw [hpos] at h
    rcases List.mem_append.1 h with h | h
    · exact isBlank_of_isDigit (isDigit_of_mem_digits h)
    · exact isBlank_of_isDigit (isDigit_of_mem_zeros h)
  · rw [hpos] at h
    rcases List.mem_append.1 h with h | h
    · exact isBlank_of_isDigit (hw c h)
    · rcases List.mem_cons.1 h with rfl | h
      · decide
      · exact isBlank_of_isDigit (hf c h)

end Decimal

namespace Binary64

/-! ## Integers among the magnitudes -/

/-- A significand of 53 bits has its rank in the block of its exponent. -/
theorem unitsOf_add_mul {significand : Nat} (exponent : Nat) (hlow : blockRanks ≤ significand)
    (hhigh : significand < 2 * blockRanks) :
    unitsOf (significand + exponent * blockRanks) = significand * Nat.pow 2 exponent := by
  have hspacing : spacing (significand + exponent * blockRanks) = exponent := by
    unfold spacing
    rw [Nat.add_mul_div_right _ _ (by decide)]
    unfold blockRanks at *
    omega
  rw [unitsOf, hspacing, Nat.add_sub_cancel]

/-- A number of at most 53 bits is a magnitude, also after doubling it often. -/
theorem exists_unitsOf_eq {n places : Nat} (h : n < 2 * blockRanks) (hplaces : 52 ≤ places) :
    ∃ rank, unitsOf rank = n * Nat.pow 2 places := by
  rcases Nat.eq_zero_or_pos n with rfl | hpos
  · exact ⟨0, by rw [unitsOf_of_lt (by decide), Nat.zero_mul]⟩
  · have hlog : n.log2 ≤ 52 := Nat.lt_succ_iff.1 ((Nat.log2_lt hpos.ne').2 h)
    have hpow : 0 < 2 ^ (52 - n.log2) := Nat.pow_pos (by decide)
    have hlow : blockRanks ≤ n * 2 ^ (52 - n.log2) :=
      calc blockRanks = 2 ^ n.log2 * 2 ^ (52 - n.log2) := by
            rw [← Nat.pow_add, Nat.add_sub_cancel' hlog]
        _ ≤ n * 2 ^ (52 - n.log2) := Nat.mul_le_mul_right _ (Nat.log2_self_le hpos.ne')
    have hhigh : n * 2 ^ (52 - n.log2) < 2 * blockRanks :=
      calc n * 2 ^ (52 - n.log2) < 2 ^ (n.log2 + 1) * 2 ^ (52 - n.log2) :=
            Nat.mul_lt_mul_of_pos_right Nat.lt_log2_self hpow
        _ = 2 * blockRanks := by
            rw [← Nat.pow_add, Nat.add_right_comm, Nat.add_sub_cancel' hlog]
            rfl
    refine ⟨_, (unitsOf_add_mul (places - (52 - n.log2)) hlow hhigh).trans ?_⟩
    rw [Nat.mul_assoc]
    refine congrArg (n * ·) ?_
    rw [Nat.pow_eq, Nat.pow_eq, ← Nat.pow_add]
    congr 1
    omega

/-- One is a power of two in units. -/
theorem exists_unitsPerOne_eq : ∃ places, 52 ≤ places ∧ unitsPerOne = Nat.pow 2 places :=
  ⟨unitPlaces, by decide, unitsPerOne_eq⟩

theorem unitsPerOne_pos : 0 < unitsPerOne := by
  obtain ⟨places, -, hone⟩ := exists_unitsPerOne_eq
  rw [hone]
  exact Nat.pow_pos (by decide)

/-- **An integer below two to the power of 53 is a double.** -/
theorem unitsOf_nearestRank_of_lt {n : Nat} (h : n < 2 * blockRanks) :
    unitsOf (nearestRank (n * unitsPerOne) 1) = n * unitsPerOne := by
  obtain ⟨places, hplaces, hone⟩ := exists_unitsPerOne_eq
  obtain ⟨rank, hrank⟩ := exists_unitsOf_eq h hplaces
  rw [← hone] at hrank
  have hself : nearestRank (unitsOf rank * 1) 1 = rank := nearestRank_unitsOf rank Nat.one_pos
  rw [Nat.mul_one, hrank] at hself
  exact (congrArg unitsOf hself).trans hrank

/-- What is nearest to a number of more bits than a significand has is as coarse as the bits
that are cut off. -/
theorem pow_dvd_unitsOf_nearestRank {num places : Nat} (h : 52 + places ≤ num.log2) :
    Nat.pow 2 places ∣ unitsOf (nearestRank num 1) := by
  obtain ⟨doublings, hlog⟩ : ∃ doublings, num.log2 = 52 + doublings :=
    ⟨num.log2 - 52, by omega⟩
  have hne : num ≠ 0 := by
    rintro rfl
    rw [Nat.log2_zero] at h
    omega
  have hrank : nearestRank num 1 =
      roundHalfEven num (1 * Nat.pow 2 doublings) + doublings * blockRanks := by
    rw [nearestRank, Nat.div_one, hlog, Nat.add_sub_cancel_left]
  have hround : blockRanks ≤ roundHalfEven num (1 * Nat.pow 2 doublings) := by
    refine Nat.le_trans ?_ (div_le_roundHalfEven _ _)
    rw [Nat.one_mul, Nat.pow_eq, Nat.le_div_iff_mul_le (Nat.pow_pos (by decide))]
    calc blockRanks * 2 ^ doublings = 2 ^ num.log2 := by rw [hlog, Nat.pow_add]
      _ ≤ num := Nat.log2_self_le hne
  have hspacing : places ≤ spacing (nearestRank num 1) := by
    unfold spacing
    rw [hrank, Nat.add_mul_div_right _ _ (by decide)]
    have : 1 ≤ roundHalfEven num (1 * Nat.pow 2 doublings) / blockRanks :=
      (Nat.one_le_div_iff (by decide)).2 hround
    omega
  exact Nat.dvd_mul_left_of_dvd (Nat.pow_dvd_pow 2 hspacing) _

/-- **What is nearest to an integer is integral.** -/
theorem unitsPerOne_dvd_unitsOf (n : Nat) :
    unitsPerOne ∣ unitsOf (nearestRank (n * unitsPerOne) 1) := by
  rcases Nat.lt_or_ge n (2 * blockRanks) with hsmall | hlarge
  · rw [unitsOf_nearestRank_of_lt hsmall]
    exact Nat.dvd_mul_left _ _
  · obtain ⟨places, -, hone⟩ := exists_unitsPerOne_eq
    have hpos : 0 < n := Nat.lt_of_lt_of_le (by decide) hlarge
    have hne : n * unitsPerOne ≠ 0 := Nat.mul_ne_zero hpos.ne' unitsPerOne_pos.ne'
    have hbits : 52 + places ≤ (n * unitsPerOne).log2 := by
      rw [Nat.le_log2 hne, Nat.pow_add, hone]
      exact Nat.mul_le_mul_right _ (Nat.le_trans (by decide) hlarge)
    have hdvd := pow_dvd_unitsOf_nearestRank hbits
    rwa [← hone] at hdvd

/-! ## Integer texts -/

/-- A text is only read as an integer if it is the text of a finite double.  The double is then
the one that is nearest to the integer, and has its sign. -/
theorem exists_of_integerOfText?_plainText {x : Binary64} {n : Int64}
    (h : integerOfText? x.plainText = some n) :
    ∃ negative rank, x = .finite negative rank ∧
      rank.val = nearestRank (n.toInt.natAbs * unitsPerOne) 1 ∧
      n.toInt = if negative then -(n.toInt.natAbs : Int) else (n.toInt.natAbs : Int) := by
  cases x with
  | nan => cases h
  | infinity negative => cases negative <;> cases h
  | finite negative rank =>
    have hblank : ∀ c ∈ signChars negative ++ (Decimal.shortest .up rank.val).positional,
        isBlank c = false := by
      intro c hc
      rcases List.mem_append.1 hc with hc | hc
      · cases negative with
        | false => exact absurd hc List.not_mem_nil
        | true =>
          rw [List.mem_singleton.1 hc]
          decide
      · exact Decimal.isBlank_of_mem_positional hc
    have htext : (plainText (.finite negative rank)).toList =
        signChars negative ++ (Decimal.shortest .up rank.val).positional := String.toList_ofList
    rw [integerOfText?, htext, trimBlanks_eq_self hblank] at h
    obtain ⟨i, hi, hn⟩ := Option.bind_eq_some_iff.1 h
    -- the sign is read off, and what is left are the digits of a natural number
    obtain ⟨k, hk, hik⟩ : ∃ k : Nat,
        naturalOf? (Decimal.shortest .up rank.val).positional = some k ∧
          i = if negative then -(k : Int) else (k : Int) := by
      cases negative with
      | true =>
        have hminus : integerOf? ('-' :: (Decimal.shortest .up rank.val).positional) = some i := hi
        rw [integerOf?_minus] at hminus
        obtain ⟨k, hk, hik⟩ := Option.map_eq_some_iff.1 hminus
        exact ⟨k, hk, hik.symm⟩
      | false =>
        obtain ⟨c, rest, hcons, hdigit⟩ := (Decimal.shortest .up rank.val).positional_eq_cons
        have hplain : signChars false ++ (Decimal.shortest .up rank.val).positional =
            c :: rest := hcons
        rw [hplain, integerOf?_of_digit hdigit, ← hcons] at hi
        obtain ⟨k, hk, hik⟩ := Option.map_eq_some_iff.1 hi
        exact ⟨k, hk, hik.symm⟩
    have hni : n.toInt = i := by
      unfold int64Of? at hn
      split at hn
      · next hfits => rw [← Option.some.inj hn, hfits]
      · cases hn
    have habs : n.toInt.natAbs = k := by
      rw [hni, hik]
      split
      · rw [Int.natAbs_neg, Int.natAbs_natCast]
      · exact Int.natAbs_natCast k
    have hwhole : (⟨k, 0⟩ : Decimal).nearestRank = nearestRank (k * unitsPerOne) 1 := by
      have hnum : (⟨k, 0⟩ : Decimal).numerator = k := Nat.mul_one k
      rw [Decimal.nearestRank, hnum]
      rfl
    refine ⟨negative, rank, rfl, ?_, ?_⟩
    · rw [habs, ← hwhole, Decimal.nearestRank_of_naturalOf?_positional hk,
        Decimal.nearestRank_shortest]
    · rw [habs, hni]
      exact hik

/-- **A double whose text is an integer is integral.** -/
theorem isIntegral_of_integerOfText? {x : Binary64} {n : Int64}
    (h : integerOfText? x.plainText = some n) : x.isIntegral = true := by
  obtain ⟨negative, rank, rfl, hrank, -⟩ := exists_of_integerOfText?_plainText h
  rw [isIntegral, beq_iff_eq, hrank]
  exact Nat.mod_eq_zero_of_dvd (unitsPerOne_dvd_unitsOf _)

/-- **A double whose text is a small integer is that integer.** -/
theorem truncate_of_integerOfText? {x : Binary64} {n : Int64}
    (h : integerOfText? x.plainText = some n) (hsmall : n.toInt.natAbs < 2 * blockRanks) :
    x.truncate = n.toInt := by
  obtain ⟨negative, rank, rfl, hrank, hsign⟩ := exists_of_integerOfText?_plainText h
  have hquotient : unitsOf rank.val / unitsPerOne = n.toInt.natAbs := by
    rw [hrank, unitsOf_nearestRank_of_lt hsmall]
    exact Nat.mul_div_cancel _ unitsPerOne_pos
  rw [hsign]
  cases negative with
  | true => exact congrArg (fun k : Nat => -(k : Int)) hquotient
  | false => exact congrArg (fun k : Nat => (k : Int)) hquotient

/-! ## Clamping -/

/-- A 64-bit integer is not clamped. -/
theorem clampInt64_toInt (n : Int64) : clampInt64 n.toInt = n := by
  unfold clampInt64
  rw [if_neg (Int.not_lt.2 (Int64.minValue_le_toInt n)),
    if_neg (Int.not_lt.2 (Int64.toInt_le n)), Int64.ofInt_toInt]

/-- A double that is a 64-bit integer is converted to it. -/
theorem toInt64_of_truncate {x : Binary64} {n : Int64} (hintegral : x.isIntegral = true)
    (h : x.truncate = n.toInt) : x.toInt64 = n := by
  cases x with
  | nan => cases hintegral
  | infinity negative => cases hintegral
  | finite negative rank =>
    have hclamp : toInt64 (.finite negative rank) =
        clampInt64 (truncate (.finite negative rank)) := rfl
    rw [hclamp, h, clampInt64_toInt]

end Binary64

end FacetedSearch
