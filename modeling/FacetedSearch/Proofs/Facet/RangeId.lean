import FacetedSearch.Facet.Bounds
import FacetedSearch.Proofs.Number.Overflow
import FacetedSearch.Proofs.Number.PlainText

/-!
# Range ids read back

An id joins the texts of two bounds with a dash.  The text of a bound that an id can carry
is digits with at most one point, so it holds no dash of its own, and the dash between the
bounds is the only one.

The other way round, what has the shape of a bound is read as a bound without a sign, or as
none.  Only if it has more digits than a finite number has, it is read as infinity, and that no
id can carry.  And the text of a bound that no id can carry does not have the shape of one: it
has a sign, which looks like a second dash, or it is a word.

* `Bounds.isBoundText_iff`: the shape of a bound's text;
* `Bounds.ofIdChars?_of_texts`, `Bounds.exists_texts_of_ofIdChars?`: an id is two texts of that
  shape around a dash;
* `Bounds.ofId?_id`: an interval that an id can carry is read back from its id;
* `Bounds.isEncodable_of_ofId?_id`: no other interval is read back;
* `Bounds.isEncodable_of_ofId?`: what is read can be carried, if it is finite;
* `Bounds.isTooLarge`, `Bounds.exists_texts_hasInfinity_eq`: when it is not.
-/

namespace FacetedSearch

/-- Whether a number lies past all finite ones. -/
def Binary64.isInfinite : Binary64 → Bool
  | .infinity _ => true
  | _ => false

theorem Binary64.isInfinite_ofRank (negative : Bool) (rank : Nat) :
    (ofRank negative rank).isInfinite = decide (finiteMagnitudes ≤ rank) := by
  unfold ofRank
  split
  · next h => exact (decide_eq_false (Nat.not_le.2 h)).symm
  · next h => exact (decide_eq_true (Nat.not_lt.1 h)).symm

theorem Decimal.isInfinite_toBinary64 (negative : Bool) (d : Decimal) :
    (d.toBinary64 negative).isInfinite = decide (overflow * d.denominator ≤ d.numerator) := by
  rw [toBinary64, Binary64.isInfinite_ofRank, decide_eq_decide, ← Nat.not_lt, ← Nat.not_lt,
    d.nearestRank_lt_iff]

namespace Bounds

/-- Whether one of the bounds lies past all finite numbers. -/
def hasInfinity (bounds : Bounds) : Bool :=
  bounds.lower.any Binary64.isInfinite || bounds.upper.any Binary64.isInfinite

/-! ## Texts of bounds -/

theorem count_point_of_digits {cs : List Char} (h : ∀ c ∈ cs, c.isDigit = true) :
    cs.count '.' = 0 := by
  rw [List.count_eq_zero]
  intro hmem
  exact absurd (h '.' hmem) (by decide)

theorem isBoundText_iff {cs : List Char} :
    isBoundText cs = true ↔
      (∀ c ∈ cs, c = '.' ∨ isDecimalDigit c = true) ∧ cs.count '.' ≤ 1 := by
  simp only [isBoundText, Bool.and_eq_true, List.all_eq_true, Bool.or_eq_true, beq_iff_eq,
    decide_eq_true_eq]

theorem isBoundText_positional (d : Decimal) : isBoundText d.positional = true := by
  rw [isBoundText_iff]
  rcases d.positional_shape with ⟨-, hpos⟩ | ⟨whole, fraction, hpos, hw, hf, -, -, -⟩
  · have hd : ∀ c ∈ d.positional, c.isDigit = true := by
      intro c hc
      rw [hpos] at hc
      rcases List.mem_append.1 hc with hc | hc
      · exact Decimal.isDigit_of_mem_digits hc
      · exact Decimal.isDigit_of_mem_zeros hc
    refine ⟨fun c hc => Or.inr (isDecimalDigit_of_isDigit (hd c hc)), ?_⟩
    rw [count_point_of_digits hd]
    exact Nat.zero_le 1
  · rw [hpos]
    constructor
    · intro c hc
      rcases List.mem_append.1 hc with hc | hc
      · exact Or.inr (isDecimalDigit_of_isDigit (hw c hc))
      · rcases List.mem_cons.1 hc with rfl | hc
        · exact Or.inl rfl
        · exact Or.inr (isDecimalDigit_of_isDigit (hf c hc))
    · rw [List.count_append, List.count_cons_self, count_point_of_digits hw,
        count_point_of_digits hf]

theorem dash_notMem_of_isBoundText {cs : List Char} (h : isBoundText cs = true) : '-' ∉ cs := by
  intro hmem
  rcases (isBoundText_iff.1 h).1 _ hmem with hc | hc
  · exact absurd hc (by decide)
  · exact absurd hc (by decide)

/-! ## Ids -/

/-- A text is split at its first dash, and both parts have to have the shape of a bound. -/
theorem ofIdChars?_append {before : List Char} (after : List Char) (h : '-' ∉ before) :
    ofIdChars? (before ++ '-' :: after) =
      if isBoundText before && isBoundText after then
        some ⟨Binary64.ofChars? before, Binary64.ofChars? after⟩
      else none := by
  have hdash : ∀ c ∈ before, decide (c ≠ '-') = true := by
    intro c hc
    rw [decide_eq_true_eq]
    rintro rfl
    exact h hc
  have htake : (before ++ '-' :: after).takeWhile (· ≠ '-') = before := by
    rw [List.takeWhile_append_of_pos hdash, List.takeWhile_cons_of_neg (by decide),
      List.append_nil]
  have hdrop : (before ++ '-' :: after).dropWhile (· ≠ '-') = '-' :: after := by
    rw [List.dropWhile_append_of_pos hdash, List.dropWhile_cons_of_neg (by decide)]
  unfold ofIdChars?
  simp only [htake, hdrop]

/-- Two texts of bounds around a dash are the id of what they denote. -/
theorem ofIdChars?_of_texts {before after : List Char} (hb : isBoundText before = true)
    (ha : isBoundText after = true) :
    ofIdChars? (before ++ '-' :: after) =
      some ⟨Binary64.ofChars? before, Binary64.ofChars? after⟩ := by
  rw [ofIdChars?_append after (dash_notMem_of_isBoundText hb), hb, ha]
  rfl

/-- **An id is two texts of bounds around a dash**, and nothing else is. -/
theorem exists_texts_of_ofIdChars? {cs : List Char} {bounds : Bounds}
    (h : ofIdChars? cs = some bounds) :
    ∃ before after, cs = before ++ '-' :: after ∧ isBoundText before = true ∧
      isBoundText after = true ∧
      bounds = ⟨Binary64.ofChars? before, Binary64.ofChars? after⟩ := by
  by_cases hdash : '-' ∈ cs
  · obtain ⟨before, after, rfl, hfirst⟩ := List.eq_append_cons_of_mem hdash
    rw [ofIdChars?_append after hfirst] at h
    split at h
    · next hboth =>
      rw [Bool.and_eq_true] at hboth
      exact ⟨before, after, rfl, hboth.1, hboth.2, (Option.some.inj h).symm⟩
    · cases h
  · have hdrop : cs.dropWhile (· ≠ '-') = [] := by
      rw [List.dropWhile_eq_nil_iff]
      intro c hc
      rw [decide_eq_true_eq]
      rintro rfl
      exact hdash hc
    unfold ofIdChars? at h
    simp only [hdrop] at h
    cases h

/-- A bound that an id can carry is read back from its text, which has the shape of one. -/
theorem boundText_of_isEncodableBound {bound : Option Binary64}
    (h : isEncodableBound bound = true) :
    isBoundText (Binary64.boundText bound).toList = true ∧
      Binary64.ofChars? (Binary64.boundText bound).toList = bound := by
  cases bound with
  | none => exact ⟨rfl, rfl⟩
  | some x =>
    refine ⟨?_, Binary64.ofChars?_plainText h⟩
    obtain ⟨rank, rfl⟩ := Binary64.exists_rank_of_isUnsigned h
    rw [Binary64.boundText_some, Binary64.toList_plainText]
    exact isBoundText_positional _

theorem toList_id (bounds : Bounds) :
    bounds.id.toList = (Binary64.boundText bounds.lower).toList ++
      '-' :: (Binary64.boundText bounds.upper).toList := by
  simp only [Bounds.id, String.toList_append, List.append_assoc]
  rfl

/-- **An interval that an id can carry is read back from its id.** -/
theorem ofId?_id {bounds : Bounds} (h : bounds.isEncodable = true) :
    ofId? bounds.id = some bounds := by
  rw [isEncodable, Bool.and_eq_true] at h
  obtain ⟨hlower, hlower'⟩ := boundText_of_isEncodableBound h.1
  obtain ⟨hupper, hupper'⟩ := boundText_of_isEncodableBound h.2
  rw [ofId?, toList_id, ofIdChars?_of_texts hlower hupper, hlower', hupper']

/-! ## Intervals that no id can carry -/

/-- The text of what no id can carry does not have the shape of a bound: it holds a dash, or
letters. -/
theorem isEncodableBound_of_isBoundText {bound : Option Binary64}
    (h : isBoundText (Binary64.boundText bound).toList = true) : isEncodableBound bound = true := by
  cases bound with
  | none => rfl
  | some x =>
    cases x with
    | nan => exact absurd h (by decide)
    | infinity negative => cases negative <;> exact absurd h (by decide)
    | finite negative rank =>
      cases negative with
      | false => rfl
      | true =>
        have htext : (Binary64.boundText (some (.finite true rank))).toList =
            '-' :: (Decimal.shortest .up rank.val).positional := String.toList_ofList
        rw [htext] at h
        exact absurd List.mem_cons_self (dash_notMem_of_isBoundText h)

/-- **An id that is read at all was written for an interval that it can carry.** -/
theorem isEncodable_of_ofId?_id {bounds read : Bounds} (h : ofId? bounds.id = some read) :
    bounds.isEncodable = true := by
  rw [ofId?, toList_id] at h
  have hlower : '-' ∉ (Binary64.boundText bounds.lower).toList := by
    obtain ⟨before, after, htexts, hbefore, hafter, -⟩ := exists_texts_of_ofIdChars? h
    have hcount := congrArg (List.count '-') htexts
    rw [List.count_append, List.count_append, List.count_cons_self, List.count_cons_self,
      List.count_eq_zero.2 (dash_notMem_of_isBoundText hbefore),
      List.count_eq_zero.2 (dash_notMem_of_isBoundText hafter)] at hcount
    rw [← List.count_eq_zero]
    omega
  rw [ofIdChars?_append _ hlower] at h
  split at h
  · next hboth =>
    rw [Bool.and_eq_true] at hboth
    rw [isEncodable, isEncodableBound_of_isBoundText hboth.1,
      isEncodableBound_of_isBoundText hboth.2]
    rfl
  · cases h

/-- What an interval's id is read as is that interval. -/
theorem eq_of_ofId?_id {bounds read : Bounds} (h : ofId? bounds.id = some read) :
    read = bounds :=
  (Option.some.inj ((ofId?_id (isEncodable_of_ofId?_id h)).symm.trans h)).symm

/-! ## Bounds that ids are read as -/

theorem toLower_of_isBoundChar {c : Char} (h : c = '.' ∨ isDecimalDigit c = true) :
    c.toLower = c := by
  rcases h with rfl | h
  · rfl
  · unfold Char.toLower
    rw [dif_neg]
    rintro ⟨hlow, hhigh⟩
    have hlow' : 65 ≤ c.toNat := UInt32.le_iff_toNat_le.1 hlow
    have hhigh' : c.toNat ≤ 90 := UInt32.le_iff_toNat_le.1 hhigh
    obtain ⟨range, hrange, hin⟩ := List.any_eq_true.1 h
    have hout : ∀ range ∈ DecimalDigit.ranges, range.2 < 65 ∨ 90 < range.1 := by decide
    have hside := hout range hrange
    simp only [Bool.and_eq_true, decide_eq_true_eq] at hin
    omega

/-- The text of a bound is none of the words, and has no sign. -/
theorem ofChars?_of_isBoundText {cs : List Char} (h : isBoundText cs = true) :
    Binary64.ofChars? cs = (Decimal.ofChars? cs).map fun d => d.toBinary64 false := by
  have hchars := (isBoundText_iff.1 h).1
  have hlower : cs.map Char.toLower = cs := by
    rw [List.map_congr_left fun c hc => toLower_of_isBoundChar (hchars c hc), List.map_id']
  have hnone : ∀ c : Char, c ≠ '.' → isDecimalDigit c = false → c ∉ cs := by
    intro c hpoint hdigit hmem
    rcases hchars c hmem with hc | hc
    · exact hpoint hc
    · exact absurd (hdigit.symm.trans hc) (by decide)
  have hword : ∀ word : List Char, 'n' ∈ word → cs ≠ word := by
    rintro word hmem rfl
    exact hnone 'n' (by decide) (by decide) hmem
  have hsign : Binary64.ofChars? cs = Binary64.ofUnsigned? false cs := by
    unfold Binary64.ofChars?
    split
    · exact absurd List.mem_cons_self (hnone '-' (by decide) (by decide))
    · exact absurd List.mem_cons_self (hnone '+' (by decide) (by decide))
    · rfl
  have hinf := hword "inf".toList (by decide)
  have hinfinity := hword "infinity".toList (by decide)
  have hnan := hword "nan".toList (by decide)
  rw [hsign, Binary64.ofUnsigned?]
  simp only [hlower, hinf, hinfinity, hnan, or_self, if_false]

/-- A bound that is read from an id can be carried by one, unless it is too large. -/
theorem isEncodableBound_of_ofChars? {cs : List Char} (h : isBoundText cs = true)
    (hfinite : (Binary64.ofChars? cs).any Binary64.isInfinite = false) :
    isEncodableBound (Binary64.ofChars? cs) = true := by
  rw [ofChars?_of_isBoundText h] at hfinite ⊢
  cases hread : Decimal.ofChars? cs with
  | none => rfl
  | some d =>
    rw [hread] at hfinite
    simp only [Option.map_some, Decimal.toBinary64, Binary64.ofRank] at hfinite ⊢
    split
    · rfl
    · next hrank =>
      rw [dif_neg hrank] at hfinite
      exact absurd hfinite (by decide)

/-- **An interval that is read from an id can be carried by one**, unless a bound is too large
to be finite. -/
theorem isEncodable_of_ofId? {id : String} {bounds : Bounds} (h : ofId? id = some bounds)
    (hfinite : bounds.hasInfinity = false) : bounds.isEncodable = true := by
  obtain ⟨before, after, -, hbefore, hafter, rfl⟩ := exists_texts_of_ofIdChars? h
  rw [hasInfinity, Bool.or_eq_false_iff] at hfinite
  rw [isEncodable, isEncodableBound_of_ofChars? hbefore hfinite.1,
    isEncodableBound_of_ofChars? hafter hfinite.2]
  rfl

/-- What an id can carry is finite. -/
theorem hasInfinity_of_isEncodable {bounds : Bounds} (h : bounds.isEncodable = true) :
    bounds.hasInfinity = false := by
  have hbound : ∀ bound : Option Binary64, isEncodableBound bound = true →
      bound.any Binary64.isInfinite = false := by
    intro bound hencodable
    cases bound with
    | none => rfl
    | some x =>
      obtain ⟨rank, rfl⟩ := Binary64.exists_rank_of_isUnsigned hencodable
      rfl
  rw [isEncodable, Bool.and_eq_true] at h
  rw [hasInfinity, hbound _ h.1, hbound _ h.2]
  rfl

/-! ## Bounds that are too large -/

/-- Whether the text of a bound denotes a number past all finite ones. -/
def isTooLarge (cs : List Char) : Bool :=
  (Decimal.ofChars? cs).any fun d => Decimal.overflow * d.denominator ≤ d.numerator

theorem isInfinite_ofChars? {cs : List Char} (h : isBoundText cs = true) :
    (Binary64.ofChars? cs).any Binary64.isInfinite = isTooLarge cs := by
  rw [ofChars?_of_isBoundText h, isTooLarge, Option.any_map]
  exact congrArg (Option.any · _) (funext fun d => d.isInfinite_toBinary64 false)

/-- A decimal in positional notation before the dash is read as the nearest double. -/
theorem ofIdChars?_positional (d : Decimal) :
    ofIdChars? (d.positional ++ ['-']) = some ⟨some (d.toBinary64 false), none⟩ := by
  obtain ⟨read, hread, hrank⟩ := d.ofChars?_positional
  have hshape := isBoundText_positional d
  rw [ofIdChars?_of_texts hshape rfl, ofChars?_of_isBoundText hshape, hread, Option.map_some,
    Decimal.toBinary64, hrank]
  rfl

/-- **An interval that is read from an id has an infinite bound** exactly if one of the texts
around the dash denotes a number that is too large. -/
theorem exists_texts_hasInfinity_eq {id : String} {bounds : Bounds} (h : ofId? id = some bounds) :
    ∃ before after, id.toList = before ++ '-' :: after ∧
      bounds.hasInfinity = (isTooLarge before || isTooLarge after) := by
  obtain ⟨before, after, htexts, hbefore, hafter, rfl⟩ := exists_texts_of_ofIdChars? h
  refine ⟨before, after, htexts, ?_⟩
  rw [hasInfinity, isInfinite_ofChars? hbefore, isInfinite_ofChars? hafter]

end Bounds

end FacetedSearch
