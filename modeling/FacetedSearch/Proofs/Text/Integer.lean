import FacetedSearch.Text.Integer
import Mathlib.Data.List.TakeWhile

/-!
# Integer texts read back

The canonical text of an integer holds digits and at most a minus sign in front.  None of
these characters is a blank, so nothing is trimmed, and what is read is what was written.

* `integerOf?_integerChars`: the characters of an integer denote it;
* `integerOfText?_integerText`: a 64-bit integer is read back from its text.
-/

namespace FacetedSearch

/-! ## Blanks -/

theorem isBlank_of_isDigit {c : Char} (h : c.isDigit = true) : isBlank c = false := by
  obtain ⟨hlow, hhigh⟩ := Char.isDigit_iff_toNat.1 h
  have hlow' : 48 ≤ c.toNat := hlow
  have hhigh' : c.toNat ≤ 57 := hhigh
  rw [isBlank, List.any_eq_false]
  intro range hrange
  have hout : ∀ range ∈ Blank.ranges, range.2 < 48 ∨ 57 < range.1 := by decide
  have hside := hout range hrange
  simp only [Bool.and_eq_true, decide_eq_true_eq]
  omega

theorem dropWhile_isBlank_of_head {cs : List Char} (h : ∀ c ∈ cs.head?, isBlank c = false) :
    cs.dropWhile isBlank = cs := by
  cases cs with
  | nil => rfl
  | cons c rest =>
    rw [List.dropWhile_cons_of_neg]
    rw [h c rfl]
    exact Bool.false_ne_true

/-- A text without blanks is trimmed of nothing. -/
theorem trimBlanks_eq_self {cs : List Char} (h : ∀ c ∈ cs, isBlank c = false) :
    trimBlanks cs = cs := by
  have hback : ∀ c ∈ cs.reverse.head?, isBlank c = false := fun c hc =>
    h c (List.mem_reverse.1 (List.mem_of_mem_head? hc))
  rw [trimBlanks, dropWhile_isBlank_of_head fun c hc => h c (List.mem_of_mem_head? hc),
    dropWhile_isBlank_of_head hback, List.reverse_reverse]

/-! ## Reading an integer -/

theorem isDigit_of_mem_toDigits_ten {n : Nat} {c : Char} (h : c ∈ Nat.toDigits 10 n) :
    c.isDigit = true :=
  Nat.isDigit_of_mem_toDigits (by decide) (by decide) h

theorem naturalOf?_toDigits (n : Nat) : naturalOf? (Nat.toDigits 10 n) = some n := by
  have hall : (Nat.toDigits 10 n).all Char.isDigit = true :=
    List.all_eq_true.2 fun c hc => isDigit_of_mem_toDigits_ten hc
  rw [naturalOf?, if_pos ⟨Nat.toDigits_ne_nil, hall⟩, Nat.ofDigitChars_ten_toDigits]

/-- A run that starts with a digit has no sign. -/
theorem integerOf?_of_digit {c : Char} {rest : List Char} (h : c.isDigit = true) :
    integerOf? (c :: rest) = (naturalOf? (c :: rest)).map fun n : Nat => (n : Int) := by
  have hminus : c ≠ '-' := by
    rintro rfl
    exact absurd h (by decide)
  have hplus : c ≠ '+' := by
    rintro rfl
    exact absurd h (by decide)
  unfold integerOf?
  split
  · next heq => exact absurd (List.cons.inj heq).1 hminus
  · next heq => exact absurd (List.cons.inj heq).1 hplus
  · cases naturalOf? (c :: rest) <;> rfl

/-- A run after a minus sign is the negative of what it is alone. -/
theorem integerOf?_minus (rest : List Char) :
    integerOf? ('-' :: rest) = (naturalOf? rest).map fun n : Nat => -(n : Int) := by
  rw [integerOf?]
  cases naturalOf? rest <;> rfl

theorem integerOf?_toDigits (n : Nat) : integerOf? (Nat.toDigits 10 n) = some (n : Int) := by
  obtain ⟨c, rest, hcons⟩ := List.exists_cons_of_ne_nil (Nat.toDigits_ne_nil (b := 10) (n := n))
  have hdigit : c.isDigit = true :=
    isDigit_of_mem_toDigits_ten (n := n) (by rw [hcons]; exact List.mem_cons_self)
  rw [hcons, integerOf?_of_digit hdigit, ← hcons, naturalOf?_toDigits, Option.map_some]

/-- The characters of an integer denote it. -/
theorem integerOf?_integerChars (n : Int) : integerOf? (integerChars n) = some n := by
  unfold integerChars
  split
  · next hneg =>
    rw [integerOf?_minus, naturalOf?_toDigits, Option.map_some,
      Int.ofNat_natAbs_of_nonpos (by omega), Int.neg_neg]
  · next hpos =>
    rw [integerOf?_toDigits, Int.natAbs_of_nonneg (by omega)]

theorem isBlank_of_mem_integerChars {n : Int} {c : Char} (h : c ∈ integerChars n) :
    isBlank c = false := by
  unfold integerChars at h
  split at h
  · rcases List.mem_cons.1 h with rfl | h
    · decide
    · exact isBlank_of_isDigit (isDigit_of_mem_toDigits_ten h)
  · exact isBlank_of_isDigit (isDigit_of_mem_toDigits_ten h)

theorem int64Of?_toInt (n : Int64) : int64Of? n.toInt = some n := by
  rw [int64Of?, Int64.ofInt_toInt, if_pos rfl]

/-- **A 64-bit integer is read back from its text.** -/
theorem integerOfText?_integerText (n : Int64) :
    integerOfText? (integerText n.toInt) = some n := by
  have htext : (integerText n.toInt).toList = integerChars n.toInt := String.toList_ofList
  rw [integerOfText?, htext, trimBlanks_eq_self fun c hc => isBlank_of_mem_integerChars hc,
    integerOf?_integerChars]
  exact int64Of?_toInt n

end FacetedSearch
