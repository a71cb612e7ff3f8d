import FacetedSearch.Proofs.Text.Integer

/-!
# The texts that denote an integer

Reading an integer takes more than the one text that writing gives: blanks of any kind on both
sides, a sign of either kind, zeros in front.  Neither a digit nor a sign is a blank, so that
trimming takes exactly the blanks around, and between the sign and the digits there may be none.
What is read is the number of the digits under the sign, whatever its size; only then does the
text have to be that of a 64-bit integer.

* `trimBlanks_padded`, `exists_padding`: trimming, as the inverse of padding;
* `SpellsInteger`, `integerOf?_eq_some_iff`: what is read without blanks;
* `SpellsPadded`, `integerOfText?_eq_some_iff`: what the text of a 64-bit integer is.
-/

namespace FacetedSearch

/-! ## Padding -/

section Padding

variable {front core back : List Char}

/-- The blanks around a text without blanks at its ends are trimmed. -/
theorem trimBlanks_padded (hfront : ∀ c ∈ front, isBlank c = true)
    (hback : ∀ c ∈ back, isBlank c = true) (hhead : ∀ c ∈ core.head?, isBlank c = false)
    (hlast : ∀ c ∈ core.getLast?, isBlank c = false) (hne : core ≠ []) :
    trimBlanks (front ++ core ++ back) = core := by
  have hhead' : ∀ c ∈ (core ++ back).head?, isBlank c = false := by
    obtain ⟨c, rest, rfl⟩ := List.exists_cons_of_ne_nil hne
    exact hhead
  have hlast' : ∀ c ∈ core.reverse.head?, isBlank c = false := by rwa [List.head?_reverse]
  rw [trimBlanks, List.append_assoc, List.dropWhile_append_of_pos hfront,
    dropWhile_isBlank_of_head hhead', List.reverse_append,
    List.dropWhile_append_of_pos fun c hc => hback c (List.mem_reverse.1 hc),
    dropWhile_isBlank_of_head hlast', List.reverse_reverse]

/-- What is trimmed are blanks. -/
theorem exists_padding (cs : List Char) : ∃ front back, cs = front ++ trimBlanks cs ++ back ∧
    (∀ c ∈ front, isBlank c = true) ∧ ∀ c ∈ back, isBlank c = true := by
  refine ⟨cs.takeWhile isBlank, ((cs.dropWhile isBlank).reverse.takeWhile isBlank).reverse, ?_,
    fun c hc => List.mem_takeWhile_imp hc,
    fun c hc => List.mem_takeWhile_imp (List.mem_reverse.1 hc)⟩
  rw [trimBlanks, List.append_assoc, ← List.reverse_append, List.takeWhile_append_dropWhile,
    List.reverse_reverse, List.takeWhile_append_dropWhile]

end Padding

/-! ## Digits under a sign -/

/-- At least one ASCII digit and nothing else. -/
def IsRun (digits : List Char) : Prop := digits ≠ [] ∧ ∀ c ∈ digits, c.isDigit = true

/-- A run of digits, perhaps behind a sign, and the integer that it is. -/
inductive SpellsInteger : List Char → Int → Prop
  | plain {digits : List Char} : IsRun digits →
      SpellsInteger digits (Nat.ofDigitChars 10 digits 0 : Nat)
  | plus {digits : List Char} : IsRun digits →
      SpellsInteger ('+' :: digits) (Nat.ofDigitChars 10 digits 0 : Nat)
  | minus {digits : List Char} : IsRun digits →
      SpellsInteger ('-' :: digits) (-(Nat.ofDigitChars 10 digits 0 : Nat))

theorem naturalOf?_eq_some_iff {cs : List Char} {n : Nat} :
    naturalOf? cs = some n ↔ IsRun cs ∧ n = Nat.ofDigitChars 10 cs 0 := by
  have hrun : IsRun cs ↔ cs ≠ [] ∧ cs.all Char.isDigit = true := by
    rw [IsRun, List.all_eq_true]
  rw [naturalOf?, hrun]
  split
  · next h => rw [Option.some.injEq, eq_comm, and_iff_right h]
  · next h => exact iff_of_false (Option.some_ne_none n).symm fun hboth => h hboth.1

theorem isRun_of_map {cs : List Char} {f : Nat → Int} {n : Int}
    (h : (naturalOf? cs).map f = some n) : IsRun cs ∧ n = f (Nat.ofDigitChars 10 cs 0) := by
  obtain ⟨k, hk, rfl⟩ := Option.map_eq_some_iff.1 h
  obtain ⟨hrun, rfl⟩ := naturalOf?_eq_some_iff.1 hk
  exact ⟨hrun, rfl⟩

/-- **What is read as an integer** is a run of digits, perhaps behind a sign. -/
theorem integerOf?_eq_some_iff {cs : List Char} {n : Int} :
    integerOf? cs = some n ↔ SpellsInteger cs n := by
  constructor
  · intro h
    unfold integerOf? at h
    simp only [bind_pure_comp, Option.map_eq_map, Option.map_map] at h
    split at h
    · obtain ⟨hrun, rfl⟩ := isRun_of_map h
      exact .minus hrun
    · obtain ⟨hrun, rfl⟩ := isRun_of_map h
      exact .plus hrun
    · obtain ⟨hrun, rfl⟩ := isRun_of_map h
      exact .plain hrun
  · rintro (hrun | hrun | hrun)
    · obtain ⟨c, rest, rfl⟩ := List.exists_cons_of_ne_nil hrun.1
      rw [integerOf?_of_digit (hrun.2 c List.mem_cons_self),
        naturalOf?_eq_some_iff.2 ⟨hrun, rfl⟩, Option.map_some]
    · rw [integerOf?, naturalOf?_eq_some_iff.2 ⟨hrun, rfl⟩]
      rfl
    · rw [integerOf?_minus, naturalOf?_eq_some_iff.2 ⟨hrun, rfl⟩, Option.map_some]

/-! ## The text of an integer -/

/-- Such a run between blanks. -/
def SpellsPadded (cs : List Char) (n : Int) : Prop :=
  ∃ front core back, cs = front ++ core ++ back ∧ (∀ c ∈ front, isBlank c = true) ∧
    (∀ c ∈ back, isBlank c = true) ∧ SpellsInteger core n

/-- No blank stands in a run of digits or in front of it. -/
theorem SpellsInteger.not_blank {cs : List Char} {n : Int} (h : SpellsInteger cs n) :
    cs ≠ [] ∧ ∀ c ∈ cs, isBlank c = false := by
  have hdigits : ∀ {digits : List Char}, IsRun digits → ∀ c ∈ digits, isBlank c = false :=
    fun hrun c hc => isBlank_of_isDigit (hrun.2 c hc)
  cases h with
  | plain hrun => exact ⟨hrun.1, hdigits hrun⟩
  | plus hrun =>
    exact ⟨List.cons_ne_nil _ _, List.forall_mem_cons.2 ⟨by decide, hdigits hrun⟩⟩
  | minus hrun =>
    exact ⟨List.cons_ne_nil _ _, List.forall_mem_cons.2 ⟨by decide, hdigits hrun⟩⟩

theorem integerOf?_trimBlanks_eq_some_iff {cs : List Char} {n : Int} :
    integerOf? (trimBlanks cs) = some n ↔ SpellsPadded cs n := by
  rw [integerOf?_eq_some_iff]
  constructor
  · intro h
    obtain ⟨front, back, hcs, hfront, hback⟩ := exists_padding cs
    exact ⟨front, trimBlanks cs, back, hcs, hfront, hback, h⟩
  · rintro ⟨front, core, back, rfl, hfront, hback, h⟩
    obtain ⟨hne, hcore⟩ := h.not_blank
    rwa [trimBlanks_padded hfront hback (fun c hc => hcore c (List.mem_of_mem_head? hc))
      (fun c hc => hcore c (List.mem_of_mem_getLast? hc)) hne]

theorem int64Of?_eq_some_iff {n : Int} {m : Int64} : int64Of? n = some m ↔ m.toInt = n := by
  constructor
  · intro h
    unfold int64Of? at h
    split at h
    · next heq =>
      rw [← Option.some.inj h]
      exact heq
    · cases h
  · rintro rfl
    exact int64Of?_toInt m

/-- **The texts of a 64-bit integer** are the runs of digits that are it, between blanks. -/
theorem integerOfText?_eq_some_iff {text : String} {m : Int64} :
    integerOfText? text = some m ↔ SpellsPadded text.toList m.toInt := by
  rw [integerOfText?, Option.bind_eq_some_iff, ← integerOf?_trimBlanks_eq_some_iff]
  constructor
  · rintro ⟨n, hn, hm⟩
    rwa [int64Of?_eq_some_iff.1 hm]
  · intro h
    exact ⟨m.toInt, h, int64Of?_toInt m⟩

/-- A text denotes one integer at most. -/
theorem SpellsPadded.unique {cs : List Char} {n n' : Int} (h : SpellsPadded cs n)
    (h' : SpellsPadded cs n') : n = n' := by
  rw [← integerOf?_trimBlanks_eq_some_iff] at h h'
  exact Option.some.inj (h.symm.trans h')

end FacetedSearch
