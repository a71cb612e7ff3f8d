import FacetedSearch.Filter.Kind
import FacetedSearch.Proofs.Facet.RangeId
import Mathlib.Computability.Language

/-!
# The grammar of range ids

Reading an id looks for the first dash and then at the characters on its two sides, one by one.
What it accepts is a regular language: a bound, a dash and a bound, where a bound is a run of
decimal digits with at most one point, and where each of these may be missing.  A bound cannot
hold a dash, so an id is split in one way only, and two dashes are one too many.

The digits of an id are those of any script, but numbers are only read in ASCII digits.  So there
are two grammars, and the second one decides which bounds are there.  A part without a digit, be
it empty or a lone point, has no reading, and one foreign digit takes the reading of its part
away.  Everything else is read: what is left after the digits and the point is nothing, since the
mark of an exponent is neither.

* `Bounds.idPattern`, `Bounds.exists_ofIdChars?_iff`: the language of ids;
* `Bounds.isBoundText_iff_shape`: digits alone, or digits around a point;
* `Decimal.ofChars?_of_hasReading`, `Decimal.ofChars?_of_not_hasReading`: which texts of bounds
  denote a number, and which number;
* `Bounds.SplitsInto`, `Bounds.ofId?_eq_some_iff`: what an id is read as;
* `FilterKind.range_id_grammar`: reading ids.
-/

namespace FacetedSearch

open Computability

namespace Bounds

variable {cs : List Char}

/-! ## The shape of a bound -/

theorem point_notMem_of_digits (h : ∀ c ∈ cs, isDecimalDigit c = true) : '.' ∉ cs :=
  fun hmem => absurd (h '.' hmem) (by decide)

/-- The text of a bound is a run of digits, or two runs around a point. -/
theorem isBoundText_iff_shape :
    isBoundText cs = true ↔
      (∀ c ∈ cs, isDecimalDigit c = true) ∨
      ∃ whole fraction, cs = whole ++ '.' :: fraction ∧
        (∀ c ∈ whole, isDecimalDigit c = true) ∧ ∀ c ∈ fraction, isDecimalDigit c = true := by
  rw [isBoundText_iff]
  constructor
  · rintro ⟨hchars, hcount⟩
    by_cases hpoint : '.' ∈ cs
    · obtain ⟨whole, fraction, rfl⟩ := List.append_of_mem hpoint
      rw [List.count_append, List.count_cons_self] at hcount
      have hwhole : '.' ∉ whole := List.count_eq_zero.1 (by omega)
      have hfraction : '.' ∉ fraction := List.count_eq_zero.1 (by omega)
      refine Or.inr ⟨whole, fraction, rfl, fun c hc => ?_, fun c hc => ?_⟩
      · refine (hchars c (by simp [hc])).resolve_left ?_
        rintro rfl
        exact hwhole hc
      · refine (hchars c (by simp [hc])).resolve_left ?_
        rintro rfl
        exact hfraction hc
    · refine Or.inl fun c hc => (hchars c hc).resolve_left ?_
      rintro rfl
      exact hpoint hc
  · rintro (hdigits | ⟨whole, fraction, rfl, hwhole, hfraction⟩)
    · refine ⟨fun c hc => Or.inr (hdigits c hc), ?_⟩
      rw [List.count_eq_zero.2 (point_notMem_of_digits hdigits)]
      exact Nat.zero_le 1
    · constructor
      · intro c hc
        rcases List.mem_append.1 hc with hc | hc
        · exact Or.inr (hwhole c hc)
        · exact (List.mem_cons.1 hc).imp_right (hfraction c)
      · rw [List.count_append, List.count_cons_self,
          List.count_eq_zero.2 (point_notMem_of_digits hwhole),
          List.count_eq_zero.2 (point_notMem_of_digits hfraction)]

/-! ## The language of ids -/

/-- One decimal digit. -/
def digitPattern : Language Char := {cs | ∃ c, isDecimalDigit c = true ∧ cs = [c]}

/-- Digits, perhaps a point, and digits. -/
def boundPattern : Language Char := digitPattern∗ * (1 + {['.']}) * digitPattern∗

/-- A bound, a dash and a bound. -/
def idPattern : Language Char := boundPattern * {['-']} * boundPattern

theorem mem_kstar_digitPattern : cs ∈ digitPattern∗ ↔ ∀ c ∈ cs, isDecimalDigit c = true := by
  rw [Language.mem_kstar]
  constructor
  · rintro ⟨runs, rfl, hruns⟩ c hc
    obtain ⟨run, hrun, hmem⟩ := List.mem_flatten.1 hc
    obtain ⟨d, hd, rfl⟩ := hruns run hrun
    rw [List.mem_singleton.1 hmem]
    exact hd
  · intro h
    refine ⟨cs.map fun c => [c], ?_, fun run hrun => ?_⟩
    · rw [← List.flatMap_def, List.flatMap_singleton']
    · obtain ⟨c, hc, rfl⟩ := List.mem_map.1 hrun
      exact ⟨c, h c hc, rfl⟩

theorem mem_boundPattern : cs ∈ boundPattern ↔ isBoundText cs = true := by
  rw [isBoundText_iff_shape, boundPattern, mul_add, mul_one, add_mul, Language.mem_add]
  refine or_congr ?_ ?_
  · -- two runs of digits without a point between them are one run
    rw [kstar_mul_kstar, mem_kstar_digitPattern]
  · constructor
    · intro h
      obtain ⟨front, hfront, fraction, hfraction, rfl⟩ := Language.mem_mul.1 h
      obtain ⟨whole, hwhole, point, rfl, rfl⟩ := Language.mem_mul.1 hfront
      exact ⟨whole, fraction, List.append_assoc _ _ _, mem_kstar_digitPattern.1 hwhole,
        mem_kstar_digitPattern.1 hfraction⟩
    · rintro ⟨whole, fraction, rfl, hwhole, hfraction⟩
      refine Language.mem_mul.2 ⟨whole ++ ['.'], Language.mem_mul.2
        ⟨whole, mem_kstar_digitPattern.2 hwhole, ['.'], rfl, rfl⟩, fraction,
        mem_kstar_digitPattern.2 hfraction, ?_⟩
      rw [List.append_assoc]
      rfl

/-- **The language of ids** is that of the pattern. -/
theorem exists_ofIdChars?_iff : (∃ bounds, ofIdChars? cs = some bounds) ↔ cs ∈ idPattern := by
  constructor
  · rintro ⟨bounds, h⟩
    obtain ⟨before, after, rfl, hbefore, hafter, -⟩ := exists_texts_of_ofIdChars? h
    refine Language.mem_mul.2 ⟨before ++ ['-'], Language.mem_mul.2
      ⟨before, mem_boundPattern.2 hbefore, ['-'], rfl, rfl⟩, after,
      mem_boundPattern.2 hafter, ?_⟩
    rw [List.append_assoc]
    rfl
  · intro h
    obtain ⟨front, hfront, after, hafter, rfl⟩ := Language.mem_mul.1 h
    obtain ⟨before, hbefore, dash, rfl, rfl⟩ := Language.mem_mul.1 hfront
    rw [List.append_assoc]
    exact ⟨_, ofIdChars?_of_texts (mem_boundPattern.1 hbefore) (mem_boundPattern.1 hafter)⟩

end Bounds

/-! ## Texts of bounds that denote a number -/

namespace Decimal

variable {cs : List Char}

/-- Behind the digits of a bound there is no exponent, so nothing may be left there. -/
theorem eq_nil_of_exponentPart? {e : Int} (hchars : ∀ c ∈ cs, c = '.' ∨ isDecimalDigit c = true)
    (h : exponentPart? cs = some e) : cs = [] := by
  cases cs with
  | nil => rfl
  | cons c rest =>
    have hmark : ¬(c = 'e' ∨ c = 'E') := by
      rintro (rfl | rfl)
      · exact absurd (hchars 'e' List.mem_cons_self) (by decide)
      · exact absurd (hchars 'E' List.mem_cons_self) (by decide)
    rw [exponentPart?, if_neg hmark] at h
    cases h

/-- The text of a bound is only read if its digits are ASCII digits. -/
theorem isDigit_of_ofChars? {d : Decimal} (hchars : ∀ c ∈ cs, c = '.' ∨ isDecimalDigit c = true)
    (h : ofChars? cs = some d) : ∀ c ∈ cs, c = '.' ∨ c.isDigit = true := by
  have hsplit : cs.takeWhile Char.isDigit ++ cs.dropWhile Char.isDigit = cs :=
    List.takeWhile_append_dropWhile
  have hrest : ∀ c ∈ cs.dropWhile Char.isDigit, c = '.' ∨ isDecimalDigit c = true :=
    fun c hc => hchars c ((List.dropWhile_suffix _).subset hc)
  have hafter : ∀ c ∈ cs.dropWhile Char.isDigit, c = '.' ∨ c.isDigit = true := by
    unfold ofChars? at h
    dsimp only at h
    generalize cs.dropWhile Char.isDigit = afterWhole at h hrest
    split at h
    · next more =>
      -- behind the point there are ASCII digits, and then nothing
      dsimp only at h
      split at h
      · cases h
      obtain ⟨e, he, -⟩ := Option.map_eq_some_iff.1 h
      have hnil : more.dropWhile Char.isDigit = [] := eq_nil_of_exponentPart?
        (fun c hc => hrest c (List.mem_cons_of_mem _ ((List.dropWhile_suffix _).subset hc))) he
      intro c hc
      exact (List.mem_cons.1 hc).imp_right (List.dropWhile_eq_nil_iff.1 hnil c)
    · dsimp only at h
      split at h
      · cases h
      obtain ⟨e, he, -⟩ := Option.map_eq_some_iff.1 h
      rw [eq_nil_of_exponentPart? hrest he]
      exact fun c hc => absurd hc List.not_mem_nil
  intro c hc
  rw [← hsplit] at hc
  rcases List.mem_append.1 hc with hc | hc
  · exact Or.inr (List.mem_takeWhile_imp hc)
  · exact hafter c hc

/-- A text has a digit, and all of its digits are ASCII digits. -/
def HasReading (cs : List Char) : Prop :=
  (∃ c ∈ cs, isDecimalDigit c = true) ∧ ∀ c ∈ cs, isDecimalDigit c = true → c.isDigit = true

/-- All digits as one number, scaled down by the digits behind the point. -/
def spelled (cs : List Char) : Decimal :=
  ⟨ofDigits (cs.filter Char.isDigit), -((cs.dropWhile (· ≠ '.')).tail.length : Int)⟩

theorem ne_point_of_isDigit {c : Char} (h : c.isDigit = true) : c ≠ '.' := by
  rintro rfl
  exact absurd h (by decide)

theorem spelled_of_digits (h : ∀ c ∈ cs, c.isDigit = true) : spelled cs = ⟨ofDigits cs, 0⟩ := by
  have hdrop : cs.dropWhile (· ≠ '.') = [] :=
    List.dropWhile_eq_nil_iff.2 fun c hc => decide_eq_true (ne_point_of_isDigit (h c hc))
  rw [spelled, List.filter_eq_self.2 h, hdrop]
  rfl

theorem spelled_of_point {whole fraction : List Char} (hw : ∀ c ∈ whole, c.isDigit = true)
    (hf : ∀ c ∈ fraction, c.isDigit = true) :
    spelled (whole ++ '.' :: fraction) =
      ⟨ofDigits (whole ++ fraction), -(fraction.length : Int)⟩ := by
  have hdrop : (whole ++ '.' :: fraction).dropWhile (· ≠ '.') = '.' :: fraction := by
    rw [List.dropWhile_append_of_pos fun c hc => decide_eq_true (ne_point_of_isDigit (hw c hc)),
      List.dropWhile_cons_of_neg (by decide)]
  rw [spelled, hdrop, List.filter_append, List.filter_cons_of_neg (by decide),
    List.filter_eq_self.2 hw, List.filter_eq_self.2 hf, List.tail_cons]

/-- **A text with a digit and no foreign one denotes the number that it spells.** -/
theorem ofChars?_of_hasReading (h : Bounds.isBoundText cs = true) (hread : HasReading cs) :
    ofChars? cs = some (spelled cs) := by
  obtain ⟨⟨d, hd, hdigit⟩, hascii⟩ := hread
  rcases Bounds.isBoundText_iff_shape.1 h with
    hdigits | ⟨whole, fraction, rfl, hwhole, hfraction⟩
  · have hall : ∀ c ∈ cs, c.isDigit = true := fun c hc => hascii c hc (hdigits c hc)
    rw [spelled_of_digits hall]
    exact ofChars?_of_digits hall (List.ne_nil_of_mem hd)
  · have hw : ∀ c ∈ whole, c.isDigit = true := fun c hc =>
      hascii c (List.mem_append_left _ hc) (hwhole c hc)
    have hf : ∀ c ∈ fraction, c.isDigit = true := fun c hc =>
      hascii c (List.mem_append_right _ (List.mem_cons_of_mem _ hc)) (hfraction c hc)
    have hmem : d ∈ whole ++ fraction := by
      have hpoint := ne_point_of_isDigit (hascii d hd hdigit)
      simpa [hpoint] using hd
    rw [spelled_of_point hw hf]
    exact ofChars?_of_point hw hf (List.ne_nil_of_mem hmem)

/-- **Without a digit, or with a foreign one, a text denotes nothing.** -/
theorem ofChars?_of_not_hasReading (h : Bounds.isBoundText cs = true) (hread : ¬HasReading cs) :
    ofChars? cs = none := by
  cases hd : ofChars? cs with
  | none => rfl
  | some d =>
    have hascii := isDigit_of_ofChars? (Bounds.isBoundText_iff.1 h).1 hd
    refine absurd ⟨?_, fun c hc hdigit => (hascii c hc).resolve_left ?_⟩ hread
    · -- a text of points alone is empty or a lone point, and neither is read
      by_contra hnone
      rcases Bounds.isBoundText_iff_shape.1 h with
        hdigits | ⟨whole, fraction, rfl, hwhole, hfraction⟩
      · cases cs with
        | nil => exact absurd ((show none = ofChars? [] from rfl).trans hd) nofun
        | cons c rest => exact hnone ⟨c, List.mem_cons_self, hdigits c List.mem_cons_self⟩
      · obtain rfl : whole = [] := List.eq_nil_iff_forall_not_mem.2 fun c hc =>
          hnone ⟨c, List.mem_append_left _ hc, hwhole c hc⟩
        obtain rfl : fraction = [] := List.eq_nil_iff_forall_not_mem.2 fun c hc =>
          hnone ⟨c, List.mem_cons_of_mem _ hc, hfraction c hc⟩
        exact absurd ((show none = ofChars? ['.'] from rfl).trans hd) nofun
    · rintro rfl
      exact absurd hdigit (by decide)

end Decimal

/-! ## Reading an id -/

namespace Bounds

variable {id before after part : String} {bounds : Bounds}

/-- Decimal digits with at most one point among or beside them. -/
def IsBoundShape (cs : List Char) : Prop :=
  (∀ c ∈ cs, c = '.' ∨ isDecimalDigit c = true) ∧ cs.count '.' ≤ 1

/-- An id is two bounds around a dash. -/
structure SplitsInto (id before after : String) : Prop where
  joined : id = before ++ "-" ++ after
  before : IsBoundShape before.toList
  after : IsBoundShape after.toList

theorem toList_joined (before after : String) :
    (before ++ "-" ++ after).toList = before.toList ++ '-' :: after.toList := by
  rw [String.toList_append, String.toList_append, List.append_assoc]
  rfl

/-- **An id is read as what its two parts denote**, and nothing else is read. -/
theorem ofId?_eq_some_iff :
    ofId? id = some bounds ↔ ∃ before after, SplitsInto id before after ∧
      bounds = ⟨Binary64.ofText? before, Binary64.ofText? after⟩ := by
  constructor
  · intro h
    obtain ⟨before, after, htexts, hbefore, hafter, rfl⟩ := exists_texts_of_ofIdChars? h
    refine ⟨.ofList before, .ofList after, ⟨String.toList_injective ?_, ?_, ?_⟩, ?_⟩
    · rw [toList_joined, htexts, String.toList_ofList, String.toList_ofList]
    · rw [IsBoundShape, String.toList_ofList]
      exact isBoundText_iff.1 hbefore
    · rw [IsBoundShape, String.toList_ofList]
      exact isBoundText_iff.1 hafter
    · rw [Binary64.ofText?, Binary64.ofText?, String.toList_ofList, String.toList_ofList]
  · rintro ⟨before, after, ⟨rfl, hbefore, hafter⟩, rfl⟩
    rw [ofId?, toList_joined]
    exact ofIdChars?_of_texts (isBoundText_iff.2 hbefore) (isBoundText_iff.2 hafter)

/-- An id is split at its only dash. -/
theorem SplitsInto.unique {before' after' : String} (h : SplitsInto id before after)
    (h' : SplitsInto id before' after') : before = before' ∧ after = after' := by
  have hlists : before.toList ++ '-' :: after.toList = before'.toList ++ '-' :: after'.toList := by
    rw [← toList_joined, ← toList_joined, ← h.joined, ← h'.joined]
  have hdash : ∀ {text : String}, IsBoundShape text.toList →
      text.toList.takeWhile (· ≠ '-') = text.toList := by
    intro text hshape
    rw [List.takeWhile_eq_self_iff]
    intro c hc
    rw [decide_eq_true_eq]
    rintro rfl
    exact dash_notMem_of_isBoundText (isBoundText_iff.2 hshape) hc
  have hfront : before.toList = before'.toList := by
    have htake := congrArg (List.takeWhile (· ≠ '-')) hlists
    rwa [List.takeWhile_append, List.takeWhile_append, hdash h.before, hdash h'.before,
      if_pos rfl, if_pos rfl, List.takeWhile_cons_of_neg (by decide),
      List.takeWhile_cons_of_neg (by decide), List.append_nil, List.append_nil] at htake
  rw [hfront, List.append_cancel_left_eq, List.cons.injEq] at hlists
  exact ⟨String.toList_injective hfront, String.toList_injective hlists.2⟩

theorem ofText?_of_shape (h : IsBoundShape part.toList) :
    (Decimal.HasReading part.toList →
      Binary64.ofText? part = some ((Decimal.spelled part.toList).toBinary64 false)) ∧
    (¬Decimal.HasReading part.toList → Binary64.ofText? part = none) := by
  have hshape := isBoundText_iff.2 h
  rw [Binary64.ofText?, ofChars?_of_isBoundText hshape]
  constructor
  · intro hread
    rw [Decimal.ofChars?_of_hasReading hshape hread, Option.map_some]
  · intro hread
    rw [Decimal.ofChars?_of_not_hasReading hshape hread, Option.map_none]

end Bounds

namespace FilterKind

open Bounds

/-- **The grammar of range ids.**  An id is read exactly if it is two bounds around a dash, as
what the two denote; it is that in one way at most; and a bound denotes the number that it
spells, if it has a digit and no foreign one, and otherwise nothing. -/
theorem range_id_grammar (options : RangeOptions) (id : String) :
    let kind := FilterKind.range options
    (∀ value, kind.ofId id = .ok value ↔ ∃ before after, SplitsInto id before after ∧
      value = .range ⟨Binary64.ofText? before, Binary64.ofText? after⟩) ∧
    ((¬∃ before after, SplitsInto id before after) → kind.ofId id = .error (.invalidRangeId id)) ∧
    ((∃ before after, SplitsInto id before after) ↔ id.toList ∈ idPattern) ∧
    (∀ before after before' after', SplitsInto id before after → SplitsInto id before' after' →
      before = before' ∧ after = after') ∧
    ∀ part : String, IsBoundShape part.toList →
      (Decimal.HasReading part.toList →
        Binary64.ofText? part = some ((Decimal.spelled part.toList).toBinary64 false)) ∧
      (¬Decimal.HasReading part.toList → Binary64.ofText? part = none) := by
  have hread : (∃ before after, SplitsInto id before after) ↔ ∃ bounds, ofId? id = some bounds := by
    constructor
    · rintro ⟨before, after, hsplit⟩
      exact ⟨_, ofId?_eq_some_iff.2 ⟨before, after, hsplit, rfl⟩⟩
    · rintro ⟨bounds, h⟩
      obtain ⟨before, after, hsplit, -⟩ := ofId?_eq_some_iff.1 h
      exact ⟨before, after, hsplit⟩
  refine ⟨fun value => ?_, fun hnone => ?_, hread.trans exists_ofIdChars?_iff,
    fun _ _ _ _ => SplitsInto.unique, fun _ => ofText?_of_shape⟩
  · rw [FilterKind.ofId_range]
    constructor
    · intro h
      split at h
      · next bounds hid =>
        obtain ⟨before, after, hsplit, rfl⟩ := ofId?_eq_some_iff.1 hid
        exact ⟨before, after, hsplit, (Except.ok.inj h).symm⟩
      · cases h
    · rintro ⟨before, after, hsplit, rfl⟩
      rw [ofId?_eq_some_iff.2 ⟨before, after, hsplit, rfl⟩]
  · have hid : ofId? id = none := by
      rw [hread] at hnone
      exact Option.eq_none_iff_forall_not_mem.2 fun bounds h => hnone ⟨bounds, h⟩
    rw [FilterKind.ofId_range, hid]

/-- A foreign digit keeps its id readable and takes its own bound away; a second dash, and a
line end behind the id, do not pass. -/
theorem range_id_grammar_of_foreign_digit :
    let kind := FilterKind.range (.ofRanges [])
    kind.ofId "1.5-٣" = .ok (.range ⟨some (Decimal.toBinary64 false ⟨15, -1⟩), none⟩) ∧
    kind.ofId "1-2-3" = .error (.invalidRangeId "1-2-3") ∧
    kind.ofId "1-2\n" = .error (.invalidRangeId "1-2\n") := by
  intro kind
  have hfrom : IsBoundShape "1.5".toList := isBoundText_iff.1 (by decide)
  have hto : IsBoundShape "٣".toList := isBoundText_iff.1 (by decide)
  have hascii : ∀ c ∈ ['1', '.', '5'], isDecimalDigit c = true → c.isDigit = true :=
    List.forall_mem_cons.2 ⟨fun _ => by decide, List.forall_mem_cons.2
      ⟨fun h => absurd h (by decide), List.forall_mem_singleton.2 fun _ => by decide⟩⟩
  have hrefused : ∀ id : String, ofIdChars? id.toList = none →
      kind.ofId id = .error (.invalidRangeId id) := by
    intro id hnone
    obtain ⟨-, hinvalid, hpattern, -, -⟩ := range_id_grammar (.ofRanges []) id
    refine hinvalid fun hsplit => ?_
    obtain ⟨bounds, hbounds⟩ := exists_ofIdChars?_iff.2 (hpattern.1 hsplit)
    rw [hnone] at hbounds
    cases hbounds
  obtain ⟨hok, -, -, -, hread⟩ := range_id_grammar (.ofRanges []) "1.5-٣"
  have hpresent := (hread "1.5" hfrom).1 ⟨⟨'1', by decide, by decide⟩, hascii⟩
  have habsent := (hread "٣" hto).2 fun h => absurd (h.2 '٣' (by decide) (by decide)) (by decide)
  refine ⟨(hok _).2 ⟨"1.5", "٣", ⟨rfl, hfrom, hto⟩, ?_⟩, hrefused _ rfl, hrefused _ rfl⟩
  rw [hpresent, habsent]
  rfl

end FilterKind
end FacetedSearch
