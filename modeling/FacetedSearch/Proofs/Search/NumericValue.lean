import FacetedSearch.Proofs.Number.Exact
import FacetedSearch.Proofs.Search.ByIds
import FacetedSearch.Proofs.Text.Spelling

/-!
# Selecting a value in a numeric filter

A numeric filter holds 64-bit integers, and a value can be given to it in three forms: such an
integer, a double, a text.  The integer that is selected should be the number that was given,
and nothing should be selected if there is none.  For texts it is so, since a text that is out of
range is not read at all.  For doubles it is not: they are only tested for a fractional part, and
one that is out of range passes this test and is then moved into the range.

* `FacetValue.IsInteger`: the integer that a value is, of whatever size;
* `FilterKind.integerOf?_of_isInteger`, `FilterKind.integerOf?_of_double`,
  `FilterKind.integerOf?_eq_none`: the three outcomes;
* `Search.numeric_selection_exact_or_clamped`: what is selected.
-/

namespace FacetedSearch

/-- The integer that a value is: itself, the exact value of a double, or what a text spells. -/
inductive FacetValue.IsInteger : FacetValue → Int → Prop
  | int (m : Int64) : IsInteger (.term (.int m)) m.toInt
  | float {x : Binary64} {n : Int} : x.exactValue? = some (n : ℚ) → IsInteger (.term (.float x)) n
  | text {s : String} {n : Int} : SpellsPadded s.toList n → IsInteger (.term (.text s)) n

/-- A value is one integer at most. -/
theorem FacetValue.IsInteger.unique {value : FacetValue} {n n' : Int} (h : value.IsInteger n)
    (h' : value.IsInteger n') : n = n' := by
  cases h with
  | int m => cases h'; rfl
  | float hx => cases h' with | float hx' => exact Binary64.exactValue?_intCast_unique hx hx'
  | text hs => cases h' with | text hs' => exact hs.unique hs'

namespace FilterKind

variable {value : FacetValue}

/-- An integral double is read as its value, clamped. -/
theorem integerOf?_float {x : Binary64} {n : Int} (h : x.exactValue? = some (n : ℚ)) :
    integerOf? (.term (.float x)) = some (Binary64.clampInt64 n) := by
  rw [integerOf?, if_pos (Binary64.exactValue?_eq_intCast_iff.1 h).1,
    Binary64.toInt64_of_exactValue? h]

/-- A value that is a 64-bit integer is read as it. -/
theorem integerOf?_of_isInteger {m : Int64} (h : value.IsInteger m.toInt) :
    integerOf? value = some m := by
  generalize hn : m.toInt = n at h
  cases h with
  | int k => rw [integerOf?, Int64.toInt_inj.1 hn]
  | float hx => rw [integerOf?_float hx, ← hn, Binary64.clampInt64_toInt]
  | text hs =>
    rw [integerOf?]
    exact integerOfText?_eq_some_iff.2 (hn ▸ hs)

/-- A double that is another integer is read as the end of the range on its side. -/
theorem integerOf?_of_double {x : Binary64} {n : Int} (h : x.exactValue? = some (n : ℚ))
    (houtside : ∀ m : Int64, m.toInt ≠ n) :
    integerOf? (.term (.float x)) =
      some (if n < 0 then Int64.minValue else Int64.maxValue) := by
  rw [integerOf?_float h, Binary64.clampInt64_of_outside houtside]

/-- All else is not read. -/
theorem integerOf?_eq_none (houtside : ∀ m : Int64, ¬value.IsInteger m.toInt)
    (hdouble : ∀ x, value = .term (.float x) → ∀ n : Int, x.exactValue? ≠ some (n : ℚ)) :
    integerOf? value = none := by
  cases value with
  | range bounds => rfl
  | term t =>
    cases t with
    | int m => exact absurd (.int m) (houtside m)
    | float x =>
      rw [integerOf?, if_neg]
      exact fun hintegral => hdouble x rfl x.truncate
        (Binary64.exactValue?_eq_intCast_iff.2 ⟨hintegral, rfl⟩)
    | text s =>
      rw [integerOf?, Option.eq_none_iff_forall_ne_some]
      exact fun m hm => houtside m (.text (integerOfText?_eq_some_iff.1 hm))

end FilterKind

namespace Filter

variable {filter : Filter} {options : TermsOptions} {value : FacetValue}

theorem select_of_integerOf? (hkind : filter.kind = .numeric options) {m : Int64}
    (h : FilterKind.integerOf? value = some m) :
    filter.select [value] = .ok { filter with
      selected := [.term (.int m)]
      placeholders := placeholdersOf filter.kind [.term (.int m)] } := by
  have hkeeps : filter.kind.KeepsConversions := hkind ▸ trivial
  have haccepted : filter.kind.accept filter.name value = .ok (.term (.int m)) := by
    rw [FilterKind.accept_eq_ok_iff hkeeps, hkind, FilterKind.accepted?, h, Option.map_some]
  rw [select_eq_ok_iff_of_keeps hkeeps]
  refine ⟨[.term (.int m)], ?_, rfl⟩
  rw [List.mapM_cons, haccepted]
  rfl

theorem select_of_integerOf?_eq_none (hkind : filter.kind = .numeric options)
    (h : FilterKind.integerOf? value = none) :
    filter.select [value] = .error (.incompatibleValue filter.name value.shown) := by
  have hrefused : filter.kind.accept filter.name value =
      .error (.incompatibleValue filter.name value.shown) := by
    rw [FilterKind.accept_eq (hkind ▸ trivial), hkind, FilterKind.accepted?, h, Option.map_none]
    rfl
  rw [select, List.mapM_cons, hrefused]
  rfl

end Filter

namespace Search

/-- **A value that is selected in a numeric filter is selected exactly, or it is a double that is
no 64-bit integer, and is moved into the range.**  A value that is a 64-bit integer in any form
is selected as that integer.  A double without a fractional part that is out of range is selected
as the end of the range on its side, which it is not.  Everything else is refused, and nothing
changes. -/
theorem numeric_selection_exact_or_clamped {search : Search} {name : String} {held : Filter}
    {options : TermsOptions} (hheld : search.filter name = .ok held)
    (hkind : held.kind = .numeric options) (value : FacetValue) (silent : Bool) :
    (∀ m : Int64, value.IsInteger m.toInt →
      held.select [value] = .ok { held with
        selected := [.term (.int m)],
        placeholders := Filter.placeholdersOf held.kind [.term (.int m)] }) ∧
    (∀ (x : Binary64) (n : Int), value = .term (.float x) → x.exactValue? = some (n : ℚ) →
      (∀ m : Int64, m.toInt ≠ n) →
      ∃ next, held.select [value] = .ok next ∧
        next.selected = [.term (.int (if n < 0 then Int64.minValue else Int64.maxValue))] ∧
        ∀ m : Int64, next.selected = [.term (.int m)] → ¬value.IsInteger m.toInt) ∧
    ((∀ m : Int64, ¬value.IsInteger m.toInt) →
      (∀ x, value = .term (.float x) → ∀ n : Int, x.exactValue? ≠ some (n : ℚ)) →
      held.select [value] = .error (.incompatibleValue name value.shown) ∧
      search.select name [value] silent =
        .refuse search (.incompatibleValue name value.shown)) := by
  refine ⟨fun m hm => ?_, ?_, fun houtside hdouble => ?_⟩
  · exact Filter.select_of_integerOf? hkind (FilterKind.integerOf?_of_isInteger hm)
  · rintro x n rfl hx houtside
    refine ⟨_, Filter.select_of_integerOf? hkind (FilterKind.integerOf?_of_double hx houtside),
      rfl, fun m _ hm => ?_⟩
    exact houtside m (hm.unique (.float hx))
  · have hname : held.name = name := (filter_eq_ok hheld).2
    have hrefused := Filter.select_of_integerOf?_eq_none hkind
      (FilterKind.integerOf?_eq_none houtside hdouble)
    rw [hname] at hrefused
    refine ⟨hrefused, ?_⟩
    rw [select_eq hheld, hrefused]

/-- Two to the power of 63 is no 64-bit integer: its text is refused, and the double is selected
as the integer before it.  A year between blanks is selected as it is. -/
theorem numeric_selection_exact_or_clamped_of_two_pow_63 :
    let year := Filter.ofKind "year" (.numeric .bare)
    let search : Search := { Search.new with filters := ⟨[year]⟩ }
    let double : FacetValue :=
      .term (.float (.finite false ⟨1086 * blockRanks, by decide⟩))
    let text : FacetValue := .term (.text "9223372036854775808")
    double.IsInteger 9223372036854775808 ∧
    (∃ next, year.select [double] = .ok next ∧
      next.selected = [.term (.int 9223372036854775807)]) ∧
    search.select "year" [text] false =
      .refuse search (.incompatibleValue "year" "9223372036854775808") ∧
    (∃ next, year.select [.term (.text " 2020 ")] = .ok next ∧
      next.selected = [.term (.int 2020)]) := by
  intro year search double text
  have houtside : ∀ m : Int64, m.toInt ≠ 9223372036854775808 := fun m hm =>
    absurd (hm ▸ m.toInt_lt) (by decide)
  have hexact : Binary64.exactValue? (.finite false ⟨1086 * blockRanks, by decide⟩) =
      some ((9223372036854775808 : Int) : ℚ) :=
    Binary64.exactValue?_eq_intCast_iff.2 ⟨by decide +kernel, by decide +kernel⟩
  have hblank : ∀ c ∈ [' '], isBlank c = true := List.forall_mem_singleton.2 (by decide)
  have hnone : ∀ c ∈ ([] : List Char), isBlank c = true := fun _ hc => absurd hc List.not_mem_nil
  have hyear : SpellsPadded " 2020 ".toList 2020 :=
    ⟨[' '], "2020".toList, [' '], rfl, hblank, hblank,
      .plain ⟨by decide, List.all_eq_true.1 (by decide)⟩⟩
  have hspelled : SpellsPadded "9223372036854775808".toList 9223372036854775808 :=
    ⟨[], "9223372036854775808".toList, [], rfl, hnone, hnone,
      .plain ⟨by decide, List.all_eq_true.1 (by decide)⟩⟩
  have hheld : search.filter "year" = .ok year := rfl
  obtain ⟨-, hclamped, -⟩ := numeric_selection_exact_or_clamped hheld rfl double false
  obtain ⟨-, -, hrefused⟩ := numeric_selection_exact_or_clamped hheld rfl text false
  obtain ⟨hselected, -, -⟩ :=
    numeric_selection_exact_or_clamped hheld rfl (.term (.text " 2020 ")) false
  refine ⟨.float hexact, ?_, ?_, ⟨_, hselected 2020 (.text hyear), rfl⟩⟩
  · obtain ⟨next, hnext, hvalue, -⟩ := hclamped _ _ rfl hexact houtside
    exact ⟨next, hnext, hvalue⟩
  · refine (hrefused (fun m hm => ?_) fun x hx => ?_).2
    · exact houtside m (hm.unique (.text hspelled))
    · change FacetValue.term (.text _) = .term (.float x) at hx
      cases hx

end Search

end FacetedSearch
