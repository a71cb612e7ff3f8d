import FacetedSearch.Number.PlainText
import FacetedSearch.Proofs.Number.Shortest
import Mathlib.Data.List.TakeWhile

/-!
# Plain number texts read back

The plain text of a finite double is positional notation: a run of digits, or two runs
around a point.  `Decimal.positional_shape` says so once, together with what the digits
denote, and everything else about these texts follows from the shape.

Reading does not give the written decimal back, since trailing zeros stand for the power
of ten.  It gives a decimal of the same nearest rank, which is all that a double needs.

* `Decimal.ofChars?_of_digits`, `Decimal.ofChars?_of_point`: what such texts denote;
* `Decimal.positional_shape`: the two shapes of positional notation;
* `Binary64.ofChars?_plainText`: an unsigned double is read back from its text.
-/

namespace FacetedSearch

namespace Decimal

/-! ## Reading digits -/

theorem isDigit_of_mem_digits {n : Nat} {c : Char} (h : c ∈ digits n) : c.isDigit = true :=
  Nat.isDigit_of_mem_toDigits (by decide) (by decide) h

theorem isDigit_of_mem_zeros {n : Nat} {c : Char} (h : c ∈ List.replicate n '0') :
    c.isDigit = true := by
  rw [List.eq_of_mem_replicate h]
  rfl

/-- The range to which exponents are cut leaves an absent exponent at zero. -/
theorem cut_zero (n : Nat) : max (-((n : Int) + 400)) (min ((n : Int) + 400) 0) = 0 := by
  omega

/-- A run of digits alone denotes a whole number. -/
theorem ofChars?_of_digits {whole : List Char} (hd : ∀ c ∈ whole, c.isDigit = true)
    (hne : whole ≠ []) : ofChars? whole = some ⟨ofDigits whole, 0⟩ := by
  have htake : whole.takeWhile Char.isDigit = whole := List.takeWhile_eq_self_iff.2 hd
  have hdrop : whole.dropWhile Char.isDigit = [] := List.dropWhile_eq_nil_iff.2 hd
  unfold ofChars?
  simp only [htake, hdrop, hne, false_and, if_false, exponentPart?, Option.map_some,
    List.append_nil, cut_zero]
  rfl

/-- Digits around a point denote the number without the point, scaled down. -/
theorem ofChars?_of_point {whole fraction : List Char} (hw : ∀ c ∈ whole, c.isDigit = true)
    (hf : ∀ c ∈ fraction, c.isDigit = true) (hne : whole ++ fraction ≠ []) :
    ofChars? (whole ++ '.' :: fraction) =
      some ⟨ofDigits (whole ++ fraction), -(fraction.length : Int)⟩ := by
  have htake : (whole ++ '.' :: fraction).takeWhile Char.isDigit = whole := by
    rw [List.takeWhile_append_of_pos hw, List.takeWhile_cons_of_neg (by decide), List.append_nil]
  have hdrop : (whole ++ '.' :: fraction).dropWhile Char.isDigit = '.' :: fraction := by
    rw [List.dropWhile_append_of_pos hw, List.dropWhile_cons_of_neg (by decide)]
  have htake' : fraction.takeWhile Char.isDigit = fraction := List.takeWhile_eq_self_iff.2 hf
  have hdrop' : fraction.dropWhile Char.isDigit = [] := List.dropWhile_eq_nil_iff.2 hf
  have hsome : ¬(whole = [] ∧ fraction = []) := mt List.append_eq_nil_iff.2 hne
  unfold ofChars?
  simp only [htake, hdrop, htake', hdrop', hsome, if_false, exponentPart?, Option.map_some,
    cut_zero, Int.zero_sub]

/-! ## The shape of positional notation -/

theorem ofDigits_append_zeros (cs : List Char) (n : Nat) :
    ofDigits (cs ++ List.replicate n '0') = ofDigits cs * Nat.pow 10 n := by
  rw [ofDigits, Nat.ofDigitChars_append, Nat.ofDigitChars_replicate_zero]
  exact Nat.mul_comm _ _

theorem ofDigits_zeros_append (n : Nat) (cs : List Char) :
    ofDigits (List.replicate n '0' ++ cs) = ofDigits cs := by
  rw [ofDigits, Nat.ofDigitChars_append, Nat.ofDigitChars_replicate_zero, Nat.mul_zero]
  rfl

/-- Writing the power of ten out leaves the nearest rank as it is. -/
theorem nearestRank_scale {d : Decimal} (h : 0 ≤ d.exponent) :
    (⟨d.significand * Nat.pow 10 d.exponent.toNat, 0⟩ : Decimal).nearestRank = d.nearestRank := by
  have hnum : (⟨d.significand * Nat.pow 10 d.exponent.toNat, 0⟩ : Decimal).numerator =
      d.numerator := Nat.mul_one _
  have hden : d.denominator = 1 := by
    rw [denominator, Int.toNat_of_nonpos (Int.neg_nonpos_of_nonneg h), Nat.pow_eq, Nat.pow_zero]
  rw [nearestRank, nearestRank, hnum, hden]
  rfl

/-- Positional notation is a run of digits if there are no places, and two runs around a
point if there are.  Read without the point it is the significand. -/
theorem positional_shape (d : Decimal) :
    (0 ≤ d.exponent ∧ d.positional = digits d.significand ++ List.replicate d.exponent.toNat '0') ∨
    (∃ whole fraction, d.positional = whole ++ '.' :: fraction ∧
      (∀ c ∈ whole, c.isDigit = true) ∧ (∀ c ∈ fraction, c.isDigit = true) ∧ whole ≠ [] ∧
      ofDigits (whole ++ fraction) = d.significand ∧ d.exponent = -(fraction.length : Int)) := by
  have hdigit : ∀ c ∈ digits d.significand, c.isDigit = true := fun c => isDigit_of_mem_digits
  by_cases hexp : 0 ≤ d.exponent
  · refine Or.inl ⟨hexp, ?_⟩
    unfold positional
    simp only [hexp, if_true]
  · refine Or.inr ?_
    unfold positional
    simp only [hexp, if_false]
    split
    · next hplaces =>
      refine ⟨_, _, rfl, fun c hc => hdigit c (List.mem_of_mem_take hc),
        fun c hc => hdigit c (List.mem_of_mem_drop hc), ?_, ?_, ?_⟩
      · rw [ne_eq, List.take_eq_nil_iff]
        rintro (h | h)
        · omega
        · rw [h, List.length_nil] at hplaces
          omega
      · rw [List.take_append_drop, ofDigits_digits]
      · rw [List.length_drop]
        omega
    · next hplaces =>
      refine ⟨['0'], _, rfl, ?_, ?_, List.cons_ne_nil _ _, ?_, ?_⟩
      · intro c hc
        rw [List.mem_singleton.1 hc]
        rfl
      · intro c hc
        rcases List.mem_append.1 hc with hc | hc
        · exact isDigit_of_mem_zeros hc
        · exact hdigit c hc
      · rw [← List.append_assoc]
        exact (ofDigits_zeros_append (_ + 1) _).trans (ofDigits_digits _)
      · rw [List.length_append, List.length_replicate]
        omega

/-- **Reading positional notation** gives a decimal of the same nearest rank. -/
theorem ofChars?_positional (d : Decimal) :
    ∃ read, ofChars? d.positional = some read ∧ read.nearestRank = d.nearestRank := by
  rcases positional_shape d with ⟨hexp, hpos⟩ | ⟨whole, fraction, hpos, hw, hf, hne, hsig, hexp⟩
  · rw [hpos]
    refine ⟨_, ofChars?_of_digits ?_ ?_, ?_⟩
    · intro c hc
      rcases List.mem_append.1 hc with hc | hc
      · exact isDigit_of_mem_digits hc
      · exact isDigit_of_mem_zeros hc
    · exact List.append_ne_nil_of_left_ne_nil Nat.toDigits_ne_nil _
    · rw [ofDigits_append_zeros, ofDigits_digits]
      exact nearestRank_scale hexp
  · rw [hpos]
    refine ⟨_, ofChars?_of_point hw hf (List.append_ne_nil_of_left_ne_nil hne _), ?_⟩
    rw [hsig, ← hexp]

/-- Positional notation starts with a digit. -/
theorem positional_eq_cons (d : Decimal) :
    ∃ c rest, d.positional = c :: rest ∧ c.isDigit = true := by
  rcases positional_shape d with ⟨-, hpos⟩ | ⟨whole, fraction, hpos, hw, -, hne, -, -⟩
  · obtain ⟨c, rest, hc⟩ := List.exists_cons_of_ne_nil (Nat.toDigits_ne_nil (b := 10)
      (n := d.significand))
    refine ⟨c, rest ++ List.replicate d.exponent.toNat '0', ?_, ?_⟩
    · rw [hpos, digits, hc, List.cons_append]
    · have hmem : c ∈ digits d.significand := by
        rw [digits, hc]
        exact List.mem_cons_self
      exact isDigit_of_mem_digits hmem
  · obtain ⟨c, rest, rfl⟩ := List.exists_cons_of_ne_nil hne
    exact ⟨c, rest ++ '.' :: fraction, hpos, hw c List.mem_cons_self⟩

end Decimal

namespace Binary64

/-! ## Texts of doubles -/

theorem toLower_of_isDigit {c : Char} (h : c.isDigit = true) : c.toLower = c := by
  have hnine : c.toNat ≤ '9'.toNat := (Char.isDigit_iff_toNat.1 h).2
  unfold Char.toLower
  rw [dif_neg]
  rintro ⟨hupper, -⟩
  exact absurd (Nat.le_trans (UInt32.le_iff_toNat_le.1 hupper) hnine) (by decide)

/-- A text that starts with a digit is none of the words, and has no sign. -/
theorem ofChars?_of_digit {c : Char} {rest : List Char} (h : c.isDigit = true) :
    ofChars? (c :: rest) = (Decimal.ofChars? (c :: rest)).map fun d => d.toBinary64 false := by
  have hminus : c ≠ '-' := by rintro rfl; exact absurd h (by decide)
  have hplus : c ≠ '+' := by rintro rfl; exact absurd h (by decide)
  have hi : c ≠ 'i' := by rintro rfl; exact absurd h (by decide)
  have hn : c ≠ 'n' := by rintro rfl; exact absurd h (by decide)
  have hsign : ofChars? (c :: rest) = ofUnsigned? false (c :: rest) := by
    unfold ofChars?
    split
    · next heq => exact absurd (List.cons.inj heq).1 hminus
    · next heq => exact absurd (List.cons.inj heq).1 hplus
    · rfl
  have hword : ∀ word : List Char, word.head? ≠ some c → (c :: rest).map Char.toLower ≠ word := by
    rintro word hword rfl
    rw [List.map_cons, List.head?_cons, toLower_of_isDigit h] at hword
    exact hword rfl
  have hinf := hword "inf".toList (by simpa using hi.symm)
  have hinfinity := hword "infinity".toList (by simpa using hi.symm)
  have hnan := hword "nan".toList (by simpa using hn.symm)
  rw [hsign, ofUnsigned?]
  simp only [hinf, hinfinity, hnan, or_self, if_false]

theorem toList_plainText (rank : Fin finiteMagnitudes) :
    (plainText (.finite false rank)).toList = (Decimal.shortest .up rank.val).positional :=
  String.toList_ofList

/-- An unsigned double is given by its rank. -/
theorem exists_rank_of_isUnsigned {x : Binary64} (h : x.isUnsigned = true) :
    ∃ rank, x = .finite false rank := by
  cases x with
  | nan => exact absurd h (by decide)
  | infinity negative => exact absurd h (by simp)
  | finite negative rank =>
    cases negative with
    | true => exact absurd h (by simp)
    | false => exact ⟨rank, rfl⟩

/-- **The plain text of an unsigned double reads back.** -/
theorem ofChars?_plainText {x : Binary64} (h : x.isUnsigned = true) :
    ofChars? x.plainText.toList = some x := by
  obtain ⟨rank, rfl⟩ := exists_rank_of_isUnsigned h
  obtain ⟨c, rest, hcons, hdigit⟩ := (Decimal.shortest .up rank.val).positional_eq_cons
  obtain ⟨read, hread, hrank⟩ := (Decimal.shortest .up rank.val).ofChars?_positional
  rw [toList_plainText, hcons, ofChars?_of_digit hdigit, ← hcons, hread, Option.map_some,
    Decimal.toBinary64, hrank, Decimal.nearestRank_shortest, ofRank, dif_pos rank.isLt]

end Binary64

end FacetedSearch
