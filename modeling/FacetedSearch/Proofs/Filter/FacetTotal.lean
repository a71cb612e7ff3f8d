import FacetedSearch.Proofs.Filter.Reachable
import FacetedSearch.Proofs.Response
import Mathlib.Algebra.Ring.Nat

/-!
# How many facets there are in all

A section of terms lists some of them and says how many others there are, and the filter keeps
the sum.  Later it tells whether there are more terms than it offers by comparing the sum with
what is listed.  The number of others is whatever 64-bit number the server writes, and the sum
has to fit into 64 bits too.  The addition is checked: where the sum does not fit, reading the
section is broken off, and the filter does not come to offer the terms that are listed.

* `TermsSection.facetCount?_eq_some_iff`, `TermsSection.facetCount?_eq_none_iff`: the checked sum;
* `TermsSection.length_lt_iff`: when the sum is more than what is listed;
* `Filter.refresh_of_section`, `Filter.refresh_of_overflow`: what becomes of a section;
* `Filter.facet_total_exact_or_overflow`: the totals after a refresh.
-/

namespace FacetedSearch

namespace TermsSection

/-- Listed and other terms together. -/
def termCount (entries : TermsSection) : Nat := entries.terms.length + entries.other.toNat

variable {entries : TermsSection} {count : UInt64}

/-- The checked sum is the number of terms, if there is one. -/
theorem facetCount?_eq_some_iff :
    entries.facetCount? = some count ↔ count.toNat = entries.termCount := by
  show (if entries.termCount < UInt64.size then some (UInt64.ofNat entries.termCount) else none) =
    some count ↔ _
  constructor
  · intro h
    split at h
    · next hfits =>
      rw [← Option.some.inj h]
      exact UInt64.toNat_ofNat_of_lt' hfits
    · cases h
  · intro h
    have hfits : entries.termCount < UInt64.size := h ▸ count.toNat_lt
    rw [if_pos hfits, ← h, UInt64.ofNat_toNat]

/-- There is no sum exactly if the number of terms does not fit. -/
theorem facetCount?_eq_none_iff : entries.facetCount? = none ↔ 2 ^ 64 ≤ entries.termCount := by
  show (if entries.termCount < UInt64.size then some (UInt64.ofNat entries.termCount) else none) =
    none ↔ _
  rw [ite_eq_right_iff]
  constructor
  · intro h
    exact Nat.not_lt.1 fun hfits => Option.some_ne_none _ (h hfits)
  · intro h hfits
    exact absurd hfits (Nat.not_lt.2 h)

/-- The number of terms is more than what is listed exactly if there are others. -/
theorem length_lt_iff (h : count.toNat = entries.termCount) :
    UInt64.ofNat entries.terms.length < count ↔ 0 < entries.other.toNat := by
  have hcount : count.toNat < 2 ^ 64 := count.toNat_lt
  rw [termCount] at h
  have hlisted : entries.terms.length < 2 ^ 64 := by omega
  rw [UInt64.lt_iff_toNat_lt, UInt64.toNat_ofNat', Nat.mod_eq_of_lt hlisted]
  omega

end TermsSection

namespace FilterKind

/-- Filters of the kinds that list terms. -/
def listsTerms : FilterKind → Bool
  | .term _ | .numeric _ => true
  | .range _ | .custom _ => false

variable {kind : FilterKind} {raw : Json} {entries : TermsSection}

theorem readSection_of_listsTerms (h : kind.listsTerms = true) (name : String) (raw : Json) :
    kind.readSection name raw = TermsOptions.readSection name raw := by
  cases kind with
  | term options => rfl
  | numeric options => rfl
  | range options => cases h
  | custom kind => cases h

theorem readSection_eq_ok {count : UInt64} (h : kind.listsTerms = true)
    (hraw : TermsSection.ofJson? raw = some entries) (hcount : count.toNat = entries.termCount)
    (name : String) : kind.readSection name raw = .ok (entries.facets, count) := by
  rw [readSection_of_listsTerms h, TermsOptions.readSection, hraw]
  dsimp only
  rw [TermsSection.facetCount?_eq_some_iff.2 hcount]

theorem readSection_eq_overflow (h : kind.listsTerms = true)
    (hraw : TermsSection.ofJson? raw = some entries) (hcount : 2 ^ 64 ≤ entries.termCount)
    (name : String) : kind.readSection name raw = .error .overflow := by
  rw [readSection_of_listsTerms h, TermsOptions.readSection, hraw]
  dsimp only
  rw [TermsSection.facetCount?_eq_none_iff.2 hcount]

end FilterKind

namespace Filter

variable {flags : Flags} {filter : Filter} {response : Response} {raw : Json}
  {entries : TermsSection}

/-- A filter keeps the listed terms, the sum and the number of results. -/
theorem refresh_of_section {count : UInt64} (hon : filter.enabled.isOn flags = true)
    (hkind : filter.kind.listsTerms = true) (hsection : response.section? filter.name = some raw)
    (hraw : TermsSection.ofJson? raw = some entries) (hcount : count.toNat = entries.termCount) :
    filter.refresh flags response =
      .ok (filter.withTally ⟨entries.facets, count, response.hits.total⟩) := by
  rw [refresh, tally, hon, if_pos rfl, hsection]
  dsimp only
  rw [FilterKind.readSection_eq_ok hkind hraw hcount]
  rfl

/-- A filter is not refreshed if the sum does not fit. -/
theorem refresh_of_overflow (hon : filter.enabled.isOn flags = true)
    (hkind : filter.kind.listsTerms = true) (hsection : response.section? filter.name = some raw)
    (hraw : TermsSection.ofJson? raw = some entries) (hcount : 2 ^ 64 ≤ entries.termCount) :
    filter.refresh flags response = .error .overflow := by
  rw [refresh, tally, hon, if_pos rfl, hsection]
  dsimp only
  rw [FilterKind.readSection_eq_overflow hkind hraw hcount]
  rfl

theorem hasMore_withTally (tally : Tally) : (filter.withTally tally).hasMore =
    decide (UInt64.ofNat tally.facets.length < tally.totalFacets) := rfl

/-- **The total of a filter is the number of terms, and it has more exactly if there are others,
unless the number of terms does not fit into 64 bits.**  Take a filter that is on and lists terms,
and a response in which its section can be read.  If listed and other terms together fit, the
filter offers the listed terms in their order and with their counts, its total is their number
and that of the others, and it has more exactly if there are others.  If they do not fit, the
refresh is broken off. -/
theorem facet_total_exact_or_overflow (hon : filter.enabled.isOn flags = true)
    (hkind : filter.kind.listsTerms = true) (hsection : response.section? filter.name = some raw)
    (hraw : TermsSection.ofJson? raw = some entries) :
    let listed := entries.terms.length
    let others := entries.other.toNat
    (listed + others < 2 ^ 64 → ∃ next, filter.refresh flags response = .ok next ∧
      next.available = entries.terms.map (fun entry => ⟨.term entry.term, entry.count⟩) ∧
      next.totalFacets.toNat = listed + others ∧
      (next.hasMore = true ↔ 0 < others)) ∧
    (2 ^ 64 ≤ listed + others → filter.refresh flags response = .error .overflow) := by
  intro listed others
  refine ⟨fun hfits => ?_, refresh_of_overflow hon hkind hsection hraw⟩
  have hfacets : entries.facets.length = listed := List.length_map _
  have hcount : (UInt64.ofNat (listed + others)).toNat = entries.termCount :=
    UInt64.toNat_ofNat_of_lt' hfits
  refine ⟨_, refresh_of_section hon hkind hsection hraw hcount, rfl, hcount, ?_⟩
  rw [hasMore_withTally, decide_eq_true_eq, hfacets]
  exact TermsSection.length_lt_iff hcount

/-- With one term listed, two to the power of 64 less two others still fit, and one more does
not. -/
theorem facet_total_exact_or_overflow_of_many_others :
    let filter := Filter.ofKind "tags" (.term .bare)
    let response (others : UInt64) : Response :=
      ⟨⟨1, []⟩, [("tags", TermsSection.toJson ⟨[⟨.text "a", 1⟩], others, 0, 0⟩)], false, none⟩
    (∃ next, filter.refresh (fun _ => false) (response 18446744073709551614) = .ok next ∧
      next.available = [⟨.term (.text "a"), 1⟩] ∧
      next.totalFacets.toNat = 18446744073709551615 ∧ next.hasMore = true) ∧
    filter.refresh (fun _ => false) (response 18446744073709551615) = .error .overflow := by
  intro filter response
  have hraw : ∀ others : UInt64,
      TermsSection.ofJson? (TermsSection.toJson ⟨[⟨.text "a", 1⟩], others, 0, 0⟩) =
        some ⟨[⟨.text "a", 1⟩], others, 0, 0⟩ :=
    fun others => TermsSection.ofJson?_toJson (List.forall_mem_singleton.2 trivial)
  obtain ⟨hfits, -⟩ := @facet_total_exact_or_overflow (fun _ => false) filter
    (response 18446744073709551614) _ _ rfl rfl rfl (hraw _)
  obtain ⟨-, hover⟩ := @facet_total_exact_or_overflow (fun _ => false) filter
    (response 18446744073709551615) _ _ rfl rfl rfl (hraw _)
  obtain ⟨next, hnext, havailable, htotal, hmore⟩ := hfits (by decide)
  exact ⟨⟨next, hnext, havailable, htotal, hmore.2 (by decide)⟩, hover (by decide)⟩

end Filter

end FacetedSearch
