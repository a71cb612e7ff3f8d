import FacetedSearch.Proofs.Search.Paging
import FacetedSearch.Proofs.Search.Rest

/-!
# Whether there are more pages

A search goes by pages when it says whether there is more to fetch: it compares the pages
that are held with the pages that there are, and counts a partial page as one.  So there
are more pages exactly if there are more results than the held pages have room for.

## Partial pages

As long as whole pages are held, that is the same as holding fewer results than there are.
It is not the same once a partial page is held, which happens when a response brings less
than was asked for, or when pages are made longer after some were fetched.  Then the room
on the last page counts as held, and the results that would fill it are not fetched, although
the next window starts with them.  No more than the rest of one page is ever passed over.

* `Search.Reachable.hasMorePages_iff`: more results than the held pages have room for;
* `Search.Reachable.hasMorePages_iff_lt_of_dvd`: the same while whole pages are held;
* `Search.PassedOver`, `Search.Reachable.lt_of_not_hasMorePages`: what is passed over, and how
  much it can be;
* `Search.Reachable.requests_fetchNext_eq_nil_iff`: when the next page is not asked for;
* `Search.Reachable.pages_iff_results`: going by pages against going by results.
-/

namespace FacetedSearch
namespace Search

variable {search : Search}

/-! ## Room on pages -/

/-- The pages that so many results fill have room for them. -/
theorem le_pagesFor_mul (hlength : search.pageLength ≠ 0) (count : Nat) :
    count ≤ search.pagesFor count * search.pageLength.toNat :=
  (pagesFor_le_iff hlength).1 (Nat.le_refl _)

/-- The last of the pages that so many results fill is not empty. -/
theorem pagesFor_mul_lt (hlength : search.pageLength ≠ 0) (count : Nat) :
    search.pagesFor count * search.pageLength.toNat < count + search.pageLength.toNat := by
  have hroom : 0 < search.pageLength.toNat := toNat_pos_of_ne_zero hlength
  have hle : search.pagesFor count * search.pageLength.toNat ≤
      count + search.pageLength.toNat - 1 := Nat.div_mul_le_self _ _
  omega

/-- Whole pages have no room left. -/
theorem pagesFor_mul_of_dvd (hlength : search.pageLength ≠ 0) {count : Nat}
    (h : search.pageLength.toNat ∣ count) :
    search.pagesFor count * search.pageLength.toNat = count := by
  obtain ⟨pages, rfl⟩ := h
  refine Nat.le_antisymm ?_ (le_pagesFor_mul hlength _)
  rw [Nat.mul_comm search.pageLength.toNat pages]
  exact Nat.mul_le_mul_right _ ((pagesFor_le_iff hlength).2 (Nat.le_refl _))

/-- Results are left, but no more than the last held page has room for. -/
def PassedOver (search : Search) : Prop :=
  search.results.length < search.totalResults.toNat ∧
    search.totalResults.toNat ≤ search.pagesHeld * search.pageLength.toNat

namespace Reachable

/-! ## More pages -/

/-- **There are more pages exactly if there are more results than the held pages have room
for.** -/
theorem hasMorePages_iff (h : search.Reachable) :
    search.hasMorePages = true ↔
      search.pagesHeld * search.pageLength.toNat < search.totalResults.toNat := by
  rw [hasMorePages, decide_eq_true_eq, ← Nat.not_le, pagesFor_le_iff h.atRest.room, Nat.not_le]

/-- When there are no more pages, fewer results than a page has room for were passed over. -/
theorem lt_of_not_hasMorePages (h : search.Reachable) (hmore : search.hasMorePages = false) :
    search.totalResults.toNat < search.results.length + search.pageLength.toNat := by
  have hall : search.totalResults.toNat ≤ search.pagesHeld * search.pageLength.toNat := by
    rw [← Nat.not_lt, ← h.hasMorePages_iff, hmore]
    exact Bool.false_ne_true
  exact Nat.lt_of_le_of_lt hall (pagesFor_mul_lt h.atRest.room _)

/-- While whole pages are held, there are more pages exactly if there are more results. -/
theorem hasMorePages_iff_lt_of_dvd (h : search.Reachable)
    (hwhole : search.pageLength.toNat ∣ search.results.length) :
    search.hasMorePages = true ↔ search.results.length < search.totalResults.toNat := by
  rw [h.hasMorePages_iff, pagesHeld, pagesFor_mul_of_dvd h.atRest.room hwhole]

/-- The next page is not asked for exactly if the held pages have room for all results. -/
theorem requests_fetchNext_eq_nil_iff (h : search.Reachable) (flags later : Flags)
    (transport : Transport) :
    (search.fetchNext flags later transport).requests = [] ↔
      search.totalResults.toNat ≤ search.pagesHeld * search.pageLength.toNat := by
  rw [← Nat.not_lt, ← h.hasMorePages_iff]
  unfold fetchNext
  split
  · next hmore =>
    obtain ⟨request, hrequest, -⟩ := request_spec flags search search.nextWindow
    unfold Search.fetch
    rw [hrequest]
    exact iff_of_false (List.cons_ne_nil _ _) (fun hnot => hnot hmore)
  · next hmore => exact iff_of_true rfl hmore

/-- **Going by pages is going by results, unless results are passed over.**  Only then is
saying that there are more pages not the same as holding fewer results than there are; and
the next page is not asked for if all results are held, or if the others are passed over. -/
theorem pages_iff_results (h : search.Reachable) (flags later : Flags) (transport : Transport) :
    ((search.hasMorePages = true ↔ search.results.length < search.totalResults.toNat) ↔
        ¬ search.PassedOver) ∧
      ((search.fetchNext flags later transport).requests = [] ↔
        search.totalResults.toNat ≤ search.results.length ∨ search.PassedOver) := by
  have hroom : search.results.length ≤ search.pagesHeld * search.pageLength.toNat :=
    le_pagesFor_mul h.atRest.room _
  rw [h.hasMorePages_iff, h.requests_fetchNext_eq_nil_iff, PassedOver]
  omega

/-- One result of three is held when pages of one are made into pages of three: there are
no more pages, and nothing is asked for. -/
theorem pages_iff_results_of_longer_pages :
    let response := Json.obj [("hits", .obj [("total", .int 3),
      ("hits", .arr [.obj [("_id", .str "a")]])])]
    let short := ((Call.resizePages 1).reply Search.new).search
    let fetched := ((Call.absorb (fun _ => true) response .replace).reply short).search
    let long := ((Call.resizePages 3).reply fetched).search
    long.Reachable ∧ long.results.length < long.totalResults.toNat ∧
      ¬ (long.hasMorePages = true ↔ long.results.length < long.totalResults.toNat) ∧
      (long.fetchNext (fun _ => true) (fun _ => true) fun _ => .ok response).requests = [] := by
  intro response short fetched long
  have hshort : short.Reachable := Reachable.new.call_of_filters_eq_nil _ rfl
  have hfetched : fetched.Reachable := hshort.call_of_filters_eq_nil _ rfl
  have hreach : long.Reachable := hfetched.call_of_filters_eq_nil _ rfl
  have hpassed : long.PassedOver := ⟨by decide, by decide⟩
  obtain ⟨hpages, hnext⟩ :=
    pages_iff_results hreach (fun _ => true) (fun _ => true) fun _ => .ok response
  exact ⟨hreach, hpassed.1, fun hsame => hpages.1 hsame hpassed, hnext.2 (.inr hpassed)⟩

end Reachable
end Search
end FacetedSearch
