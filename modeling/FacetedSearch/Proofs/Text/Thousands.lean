import FacetedSearch.Proofs.Number.Exact

/-!
# Digits in groups of three

Thousands are counted from the last digit, and the digits are written from the first.  The
function that separates them never looks back: whether a comma follows a digit depends on how
many digits are still to come.  The induction is therefore on the digits from the front, and
what it carries is that only the first group may be short.  A digit in front starts a group of
its own exactly if the first group behind it is full, and since all groups behind that one are
full as well, the number of digits to come says so modulo three.

The sign is no part of this.  It is put in front of the digits of the absolute value, which is
taken of an unbounded integer, so that the least 64-bit integer is like any other.  Without its
commas a grouped text is the plain decimal text, and two of them are the same only if the
integers are.

* `exists_groups`: what is separated by the commas;
* `filter_groupThousands`: what is left without them;
* `Binary64.groupedText_of_towardsZero`: the text of a bound whose integer part is a 64-bit
  integer.
-/

namespace FacetedSearch

/-! ## Groups -/

/-- Full groups of digits behind a first one that may be short. -/
structure Grouped (first : List Char) (rest : List (List Char)) : Prop where
  first_pos : 1 ≤ first.length
  first_le : first.length ≤ 3
  rest_full : ∀ group ∈ rest, group.length = 3

namespace Grouped

variable {first : List Char} {rest : List (List Char)} {c : Char}

/-- What comes behind the first group is a multiple of three. -/
theorem length_flatten (h : Grouped first rest) :
    (first :: rest).flatten.length = first.length + rest.length * 3 := by
  have hlengths : rest.map List.length = rest.map fun _ => 3 := List.map_congr_left h.rest_full
  rw [List.length_flatten, List.map_cons, List.sum_cons, hlengths, List.map_const',
    List.sum_replicate_nat]

/-- The first group is full exactly if the digits are a multiple of three. -/
theorem first_length_eq_three_iff (h : Grouped first rest) :
    first.length = 3 ↔ (first :: rest).flatten.length % 3 = 0 := by
  have hpos := h.first_pos
  have hle := h.first_le
  rw [h.length_flatten]
  omega

/-- A digit alone is one short group. -/
theorem single (c : Char) : Grouped [c] [] where
  first_pos := Nat.le_refl 1
  first_le := Nat.succ_le_succ (Nat.zero_le 2)
  rest_full := nofun

/-- In front of a full group a digit starts a new one. -/
theorem start (h : Grouped first rest) (hfull : first.length = 3) :
    Grouped [c] (first :: rest) where
  first_pos := Nat.le_refl 1
  first_le := Nat.succ_le_succ (Nat.zero_le 2)
  rest_full := List.forall_mem_cons.2 ⟨hfull, h.rest_full⟩

/-- In front of a short group a digit joins it. -/
theorem join (h : Grouped first rest) (hshort : first.length ≠ 3) :
    Grouped (c :: first) rest where
  first_pos := Nat.succ_le_succ (Nat.zero_le _)
  first_le := Nat.lt_of_le_of_ne h.first_le hshort
  rest_full := h.rest_full

end Grouped

/-! ## Commas -/

/-- A comma stands before a group of three that ends the digits. -/
theorem groupThousands_cons_cons (c d : Char) (tail : List Char) :
    groupThousands (c :: d :: tail) =
      if (d :: tail).length % 3 = 0 then c :: ',' :: groupThousands (d :: tail)
      else c :: groupThousands (d :: tail) := by
  rw [groupThousands]
  exact List.cons_ne_nil d tail

theorem intercalate_cons_first (c : Char) (first : List Char) (rest : List (List Char)) :
    [','].intercalate ((c :: first) :: rest) = c :: [','].intercalate (first :: rest) := by
  cases rest with
  | nil => rw [List.intercalate_singleton, List.intercalate_singleton]
  | cons group rest => rw [List.intercalate_cons_cons, List.intercalate_cons_cons]; rfl

/-- **The commas separate full groups**, and a first one that may be short. -/
theorem exists_groups {cs : List Char} (h : cs ≠ []) :
    ∃ first rest, Grouped first rest ∧ (first :: rest).flatten = cs ∧
      groupThousands cs = [','].intercalate (first :: rest) := by
  induction cs with
  | nil => exact absurd rfl h
  | cons c tail ih =>
    cases tail with
    | nil => exact ⟨[c], [], .single c, rfl, rfl⟩
    | cons d tail =>
      obtain ⟨first, rest, hgrouped, hflatten, htext⟩ := ih (List.cons_ne_nil d tail)
      have hfull := hgrouped.first_length_eq_three_iff
      rw [hflatten] at hfull
      rw [groupThousands_cons_cons, htext]
      split
      · next hmod =>
        refine ⟨[c], first :: rest, hgrouped.start (hfull.2 hmod), ?_, ?_⟩
        · rw [List.flatten_cons, hflatten, List.singleton_append]
        · rw [List.intercalate_cons_cons]; rfl
      · next hmod =>
        refine ⟨c :: first, rest, hgrouped.join (mt hfull.1 hmod), ?_, ?_⟩
        · rw [← hflatten, List.flatten_cons, List.flatten_cons, List.cons_append]
        · rw [intercalate_cons_first]

/-- **Without the commas it is what was grouped.** -/
theorem filter_groupThousands {cs : List Char} (h : ',' ∉ cs) :
    (groupThousands cs).filter (· ≠ ',') = cs := by
  induction cs with
  | nil => rfl
  | cons c tail ih =>
    obtain ⟨hc, htail⟩ := not_or.1 (mt List.mem_cons.2 h)
    have hkeep : ∀ cs : List Char, (c :: cs).filter (· ≠ ',') = c :: cs.filter (· ≠ ',') :=
      fun cs => List.filter_cons_of_pos (decide_eq_true (Ne.symm hc))
    cases tail with
    | nil => exact hkeep []
    | cons d tail =>
      rw [groupThousands_cons_cons]
      split
      · rw [hkeep, List.filter_cons_of_neg (by decide), ih htail]
      · rw [hkeep, ih htail]

/-! ## Integers -/

/-- The canonical text is the usual one. -/
theorem integerText_eq_toString (n : Int) : integerText n = toString n := by
  cases n with
  | ofNat n => rfl
  | negSucc n =>
    calc integerText (Int.negSucc n) = String.ofList (['-'] ++ Nat.toDigits 10 (n + 1)) :=
          congrArg String.ofList (if_pos (Int.negSucc_lt_zero n))
      _ = "-" ++ String.ofList (Nat.toDigits 10 (n + 1)) := String.ofList_append
      _ = toString (Int.negSucc n) := rfl

theorem comma_notMem_toDigits (n : Nat) : ',' ∉ Nat.toDigits 10 n := fun h =>
  absurd (isDigit_of_mem_toDigits_ten h) (by decide)

/-- Without the commas it is the decimal text. -/
theorem filter_groupedIntegerChars (n : Int) :
    (groupedIntegerChars n).filter (· ≠ ',') = integerChars n := by
  have hdigits := filter_groupThousands (comma_notMem_toDigits n.natAbs)
  unfold groupedIntegerChars integerChars
  split
  · rw [List.filter_cons_of_pos (by decide), hdigits]
  · exact hdigits

/-- Different integers have different grouped texts. -/
theorem groupedIntegerChars_injective : Function.Injective groupedIntegerChars := by
  intro n k h
  have hchars : integerChars n = integerChars k := by
    rw [← filter_groupedIntegerChars, ← filter_groupedIntegerChars, h]
  have hread : some n = some k := by
    rw [← integerOf?_integerChars, ← integerOf?_integerChars, hchars]
  exact Option.some.inj hread

/-- The digits behind the sign are in groups. -/
theorem exists_groups_groupedIntegerChars (n : Int) :
    ∃ first rest, Grouped first rest ∧ (∀ group ∈ first :: rest, ∀ c ∈ group, c.isDigit) ∧
      groupedIntegerChars n =
        (if n < 0 then ['-'] else []) ++ [','].intercalate (first :: rest) := by
  obtain ⟨first, rest, hgrouped, hflatten, htext⟩ :=
    exists_groups (Nat.toDigits_ne_nil (b := 10) (n := n.natAbs))
  refine ⟨first, rest, hgrouped, ?_, ?_⟩
  · intro group hgroup c hc
    refine isDigit_of_mem_toDigits_ten (n := n.natAbs) ?_
    rw [← hflatten]
    exact List.mem_flatten_of_mem hgroup hc
  · rw [groupedIntegerChars, htext]
    split <;> rfl

/-! ## Bounds -/

/-- **A bound is shown as its integer part, in groups of three.** -/
theorem Binary64.groupedText_of_towardsZero {x : Binary64} {q : ℚ} {m : Int64}
    (hx : x.exactValue? = some q) (hm : towardsZero q = m.toInt) :
    (∃ first rest, Grouped first rest ∧ (∀ group ∈ first :: rest, ∀ c ∈ group, c.isDigit) ∧
      x.groupedText.toList =
        (if m.toInt < 0 then ['-'] else []) ++ [','].intercalate (first :: rest)) ∧
    String.ofList (x.groupedText.toList.filter (· ≠ ',')) = toString m.toInt ∧
    (-1 < q → q < 1 → x.groupedText = "0") ∧
    ∀ (y : Binary64) (r : ℚ) (k : Int64), y.exactValue? = some r → towardsZero r = k.toInt →
      (x.groupedText = y.groupedText ↔ towardsZero q = towardsZero r) := by
  have htext : ∀ {y : Binary64} {r : ℚ} {k : Int64}, y.exactValue? = some r →
      towardsZero r = k.toInt → y.groupedText.toList = groupedIntegerChars k.toInt := by
    intro y r k hy hk
    rw [groupedText, toInt64_of_towardsZero hy hk, String.toList_ofList]
  refine ⟨?_, ?_, ?_, ?_⟩
  · rw [htext hx hm]
    exact exists_groups_groupedIntegerChars m.toInt
  · rw [htext hx hm, filter_groupedIntegerChars, ← integerText_eq_toString, integerText]
  · intro hlow hhigh
    have hzero : m.toInt = 0 := hm.symm.trans (towardsZero_eq_zero hlow hhigh)
    rw [← String.toList_inj, htext hx hm, hzero]
    rfl
  · intro y r k hy hk
    rw [← String.toList_inj, htext hx hm, htext hy hk, groupedIntegerChars_injective.eq_iff,
      hm, hk]

/-- The least 64-bit integer has groups like any other, and minus one half is shown as zero. -/
theorem Binary64.groupedText_of_towardsZero_of_least_int64 :
    let least : Binary64 := .finite true ⟨1086 * blockRanks, by decide⟩
    let half : Binary64 := .finite true ⟨1022 * blockRanks, by decide⟩
    least.exactValue? = some ((Int64.minValue.toInt : Int) : ℚ) ∧
    towardsZero ((Int64.minValue.toInt : Int) : ℚ) = Int64.minValue.toInt ∧
    half.exactValue? = some (-(1 / 2)) ∧ towardsZero (-(1 / 2)) = Int64.toInt 0 ∧
    least.groupedText = "-9,223,372,036,854,775,808" ∧
    String.ofList (least.groupedText.toList.filter (· ≠ ',')) = "-9223372036854775808" ∧
    half.groupedText = "0" ∧ least.groupedText ≠ half.groupedText := by
  intro least half
  have hleast : least.exactValue? = some ((Int64.minValue.toInt : Int) : ℚ) :=
    exactValue?_eq_intCast_iff.2 ⟨by decide +kernel, by decide +kernel⟩
  have hleastZero : towardsZero ((Int64.minValue.toInt : Int) : ℚ) = Int64.minValue.toInt :=
    (truncate_of_exactValue? hleast).symm.trans (by decide +kernel)
  have hhalf : half.exactValue? = some (-(1 / 2)) := by
    have hunits : unitsOf (1022 * blockRanks) * 2 = 1 * unitsPerOne := by decide +kernel
    have hone : (unitsPerOne : ℚ) ≠ 0 := Nat.cast_ne_zero.2 unitsPerOne_pos.ne'
    have hquotient : (unitsOf (1022 * blockRanks) : ℚ) / unitsPerOne = 1 / 2 := by
      rw [div_eq_div_iff hone two_ne_zero]
      exact_mod_cast hunits
    exact congrArg (fun magnitude : ℚ => some (-magnitude)) hquotient
  have hhalfZero : towardsZero (-(1 / 2)) = Int64.toInt 0 :=
    towardsZero_eq_zero (by norm_num) (by norm_num)
  obtain ⟨-, hplain, -, hsame⟩ := groupedText_of_towardsZero hleast hleastZero
  obtain ⟨-, -, hzero, -⟩ := groupedText_of_towardsZero hhalf hhalfZero
  refine ⟨hleast, hleastZero, hhalf, hhalfZero, by decide +kernel, hplain,
    hzero (by norm_num) (by norm_num), fun h => ?_⟩
  have heq := (hsame half _ 0 hhalf hhalfZero).1 h
  rw [hleastZero, hhalfZero] at heq
  exact absurd heq (by decide)

/-- A fraction is cut off: this is the double nearest to 1234567.8. -/
example : Binary64.groupedText (.finite false ⟨4698053240045751501, by decide⟩) = "1,234,567" := by
  decide +kernel

end FacetedSearch
