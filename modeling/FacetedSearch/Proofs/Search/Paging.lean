import FacetedSearch.Proofs.Response
import FacetedSearch.Proofs.Search.Fetch
import Mathlib.Algebra.Order.Floor.Div

/-!
# Fetching page after page

A backend that holds a list of documents answers a request for a window with the documents
in that window and with how many there are.  Against such a backend the pages of a search
come out one after the other: nothing is lost, repeated or out of order, and once
everything is held nothing more is sent.

## The invariant

After so many pages the results are the first so many documents (`Search.Holds`).  The
window of the next page starts behind the results that are held.  As long as there are more
documents this is a whole number of pages, so the next page continues where the last one
ended.  Whether there are more pages is decided by comparing page counts, and as the last
page counts as one although it may be partial, that is the same as comparing with the
number of documents.

* `Transport.Serves`: a backend that holds a list of documents;
* `Search.page`: the first page, and pages after it;
* `Search.hasMorePages_iff`: whether there are more pages;
* `Search.fetched_page`: one page more, by induction;
* `Search.paging_complete`: results, totals and requests of a whole run.
-/

namespace FacetedSearch

/-- Whatever the request, the response holds the documents of its window, the number of all
documents, and no facet sections. -/
def Transport.Serves (transport : Transport) (documents : List Hit) : Prop :=
  ∀ (request : Request) (start size : Nat), request.span? = some (start, size) →
    ∃ document response, transport request = .ok document ∧
      Response.ofJson? document = some response ∧
      response.hits.total.toNat = documents.length ∧
      response.hits.hits = (documents.drop start).take size ∧ response.facets = []

namespace Search

/-! ## Counting pages -/

variable {search : Search} {documents : List Hit} {transport : Transport}

theorem toNat_pos_of_ne_zero {length : UInt64} (h : length ≠ 0) : 0 < length.toNat :=
  Nat.pos_of_ne_zero fun hzero => h (UInt64.toNat_inj.1 hzero)

/-- So many pages are enough for a number of results if they have room for them. -/
theorem pagesFor_le_iff (hlength : search.pageLength ≠ 0) {count pages : Nat} :
    search.pagesFor count ≤ pages ↔ count ≤ pages * search.pageLength.toNat := by
  have hceil : search.pagesFor count = count ⌈/⌉ search.pageLength.toNat :=
    (Nat.ceilDiv_eq_add_pred_div _ _).symm
  rw [hceil, ceilDiv_le_iff_le_mul (toNat_pos_of_ne_zero hlength), Nat.mul_comm]

/-- So many documents are held, of all that there are. -/
structure Holds (documents : List Hit) (held : Nat) (search : Search) : Prop where
  results : search.results = (documents.take held).map Hit.result
  total : search.totalResults.toNat = documents.length

theorem Holds.length_results {held : Nat} (h : search.Holds documents held) :
    search.results.length = min held documents.length := by
  rw [h.results, List.length_map, List.length_take]

/-- **There are more pages exactly if there are more documents.** -/
theorem hasMorePages_iff {pages : Nat} (hlength : search.pageLength ≠ 0)
    (h : search.Holds documents (pages * search.pageLength.toNat)) :
    search.hasMorePages = true ↔ pages * search.pageLength.toNat < documents.length := by
  have hcount := h.length_results
  rw [hasMorePages, decide_eq_true_eq, pagesHeld, h.total]
  constructor
  · intro hless
    by_contra hall
    rw [hcount, Nat.min_eq_right (Nat.le_of_not_lt hall)] at hless
    exact Nat.lt_irrefl _ hless
  · intro hless
    have hheld : search.pagesFor search.results.length ≤ pages := by
      rw [pagesFor_le_iff hlength, hcount]
      exact Nat.min_le_left _ _
    have hmore : ¬ search.pagesFor documents.length ≤ pages := by
      rw [pagesFor_le_iff hlength]
      exact Nat.not_le_of_lt hless
    omega

/-! ## One page -/

theorem results_of_serves {response : Response} {hits : List Hit}
    (htotal : response.hits.total.toNat = documents.length)
    (hhits : response.hits.hits = hits) (hsub : hits.length ≤ documents.length) :
    response.results = hits.map Hit.result := by
  unfold Response.results
  split
  · next hzero =>
    rw [hzero] at htotal
    rw [← htotal] at hsub
    rw [List.eq_nil_of_length_eq_zero (Nat.le_zero.1 hsub)]
    rfl
  · rw [hhits]

/-- A fetch against a backend asks for its window, and gets the documents in it. -/
theorem fetch_of_serves (hserves : transport.Serves documents) (flags later : Flags)
    (search : Search) (window : Window) (mode : ResultMode) :
    ∃ request, request.span? = some (window.start.toNat, window.size.toNat) ∧
      (search.fetch flags later transport (some window) mode).requests = [request] ∧
      (search.fetch flags later transport (some window) mode).outcome = .ok () ∧
      (search.fetch flags later transport (some window) mode).search.results =
        resultsAfter mode search.results
          (((documents.drop window.start.toNat).take window.size.toNat).map Hit.result) ∧
      (search.fetch flags later transport (some window) mode).search.totalResults.toNat =
        documents.length ∧
      (search.fetch flags later transport (some window) mode).search.pageLength =
        search.pageLength := by
  have htransport : ∀ request : Request,
      request.span? = some (window.start.toNat, window.size.toNat) →
      ∃ document response, transport request = .ok document ∧
        Response.ofJson? document = some response ∧ response.facets = [] ∧
        (response.hits.total.toNat = documents.length ∧ response.hits.hits =
          (documents.drop window.start.toNat).take window.size.toNat) := by
    intro request hspan
    obtain ⟨document, response, hsent, hread, htotal, hhits, hfacets⟩ :=
      hserves request _ _ hspan
    exact ⟨document, response, hsent, hread, hfacets, htotal, hhits⟩
  obtain ⟨request, response, ⟨htotal, hhits⟩, hspan, hrequests, houtcome, hresults, htotal',
    hlength⟩ := fetch_spec flags later search window mode htransport
  have hsub : ((documents.drop window.start.toNat).take window.size.toNat).length ≤
      documents.length := by
    rw [List.length_take, List.length_drop]
    omega
  refine ⟨request, hspan, hrequests, houtcome, ?_, ?_, hlength⟩
  · rw [hresults, results_of_serves htotal hhits hsub]
  · rw [htotal', htotal]

/-- A reply that leaves so many pages held, having asked for windows. -/
structure Fetched (documents : List Hit) (length : UInt64) (pages : Nat)
    (spans : List (Option (Nat × Nat))) (reply : FetchReply) : Prop where
  outcome : reply.outcome = .ok ()
  spans : reply.requests.map Request.span? = spans
  pageLength : reply.search.pageLength = length
  holds : reply.search.Holds documents (pages * length.toNat)

theorem fetched_fetchFirst (hserves : transport.Serves documents) (flags later : Flags)
    (search : Search) :
    Fetched documents search.pageLength 1 [some (0, search.pageLength.toNat)]
      (search.fetchFirst flags later transport) := by
  obtain ⟨request, hspan, hrequests, houtcome, hresults, htotal, hlength⟩ :=
    fetch_of_serves hserves flags later search search.firstWindow .replace
  refine ⟨houtcome, ?_, hlength, ⟨?_, htotal⟩⟩
  · rw [fetchFirst, hrequests, List.map_singleton, hspan]
    rfl
  · rw [Nat.one_mul]
    exact hresults

/-- As long as there are more documents, the next page continues where the last one ended. -/
theorem fetched_fetchNext_of_lt (hserves : transport.Serves documents) (flags later : Flags)
    {pages : Nat} (hlength : search.pageLength ≠ 0)
    (h : search.Holds documents (pages * search.pageLength.toNat))
    (hless : pages * search.pageLength.toNat < documents.length) :
    Fetched documents search.pageLength (pages + 1)
      [some (pages * search.pageLength.toNat, search.pageLength.toNat)]
      (search.fetchNext flags later transport) := by
  have hstart : search.nextWindow.start.toNat = pages * search.pageLength.toNat := by
    have hbound : documents.length < UInt64.size := by
      rw [← h.total]
      exact search.totalResults.toNat_lt
    have hcount : search.results.length = pages * search.pageLength.toNat := by
      rw [h.length_results, Nat.min_eq_left (Nat.le_of_lt hless)]
    rw [nextWindow, hcount]
    exact UInt64.toNat_ofNat_of_lt (Nat.lt_trans hless hbound)
  obtain ⟨request, hspan, hrequests, houtcome, hresults, htotal, hkept⟩ :=
    fetch_of_serves hserves flags later search search.nextWindow .append
  unfold fetchNext
  rw [if_pos ((hasMorePages_iff hlength h).2 hless)]
  refine ⟨houtcome, ?_, hkept, ⟨?_, htotal⟩⟩
  · rw [hrequests, List.map_singleton, hspan, hstart]
    rfl
  · rw [hresults, resultsAfter, h.results, hstart, Nat.succ_mul, List.take_add, List.map_append]
    rfl

/-- Once everything is held, nothing is sent and nothing changes. -/
theorem fetched_fetchNext_of_le (flags later : Flags) {pages : Nat}
    (hlength : search.pageLength ≠ 0)
    (h : search.Holds documents (pages * search.pageLength.toNat))
    (hall : documents.length ≤ pages * search.pageLength.toNat) :
    Fetched documents search.pageLength (pages + 1) []
      (search.fetchNext flags later transport) := by
  have hnone : ¬ search.hasMorePages = true := by
    rw [hasMorePages_iff hlength h]
    exact Nat.not_lt_of_le hall
  unfold fetchNext
  rw [if_neg hnone]
  refine ⟨rfl, rfl, rfl, ⟨?_, h.total⟩⟩
  have hmore : pages * search.pageLength.toNat ≤ (pages + 1) * search.pageLength.toNat :=
    Nat.mul_le_mul_right _ (Nat.le_succ pages)
  rw [h.results, List.take_of_length_le hall, List.take_of_length_le (Nat.le_trans hall hmore)]

/-! ## Every page -/

/-- The first page, and so many pages after it.  Each finds flags when its request is compiled,
and later ones when the response is there. -/
def page (flags later : Nat → Flags) (transport : Transport) (search : Search) :
    Nat → FetchReply
  | 0 => search.fetchFirst (flags 0) (later 0) transport
  | n + 1 => (page flags later transport search n).search.fetchNext (flags (n + 1))
      (later (n + 1)) transport

/-- The windows that a page asks for. -/
def pageSpans (length documents : Nat) : Nat → List (Option (Nat × Nat))
  | 0 => [some (0, length)]
  | n + 1 => if (n + 1) * length < documents then [some ((n + 1) * length, length)] else []

/-- **After every page, the results are the first documents in order.** -/
theorem fetched_page (hserves : transport.Serves documents) (flags later : Nat → Flags)
    (hlength : search.pageLength ≠ 0) (n : Nat) :
    Fetched documents search.pageLength (n + 1)
      (pageSpans search.pageLength.toNat documents.length n)
      (search.page flags later transport n) := by
  induction n with
  | zero => exact fetched_fetchFirst hserves (flags 0) (later 0) search
  | succ n ih =>
    obtain ⟨-, -, hkept, hholds⟩ := ih
    generalize hheld : (search.page flags later transport n).search = held at hkept hholds
    rw [page, hheld, pageSpans]
    rw [← hkept] at hlength hholds ⊢
    by_cases hless : (n + 1) * held.pageLength.toNat < documents.length
    · rw [if_pos hless]
      exact fetched_fetchNext_of_lt hserves (flags (n + 1)) (later (n + 1)) hlength hholds hless
    · rw [if_neg hless]
      exact fetched_fetchNext_of_le (flags (n + 1)) (later (n + 1)) hlength hholds
        (Nat.le_of_not_lt hless)

/-- The windows of a run are consecutive pages, and end with the documents. -/
theorem flatMap_pageSpans {length : Nat} (hlength : 0 < length) (documents k : Nat) :
    (List.range (k + 1)).flatMap (pageSpans length documents) =
      (List.range (min k (max (documents ⌈/⌉ length) 1 - 1) + 1)).map fun j =>
        some (j * length, length) := by
  induction k with
  | zero =>
    rw [Nat.zero_min, List.range_one, List.flatMap_singleton, List.map_singleton, Nat.zero_mul]
    rfl
  | succ k ih =>
    have hceil : documents ⌈/⌉ length ≤ k + 1 ↔ documents ≤ (k + 1) * length := by
      rw [ceilDiv_le_iff_le_mul hlength, Nat.mul_comm]
    rw [List.range_succ, List.flatMap_append, ih, List.flatMap_singleton, pageSpans]
    by_cases hless : (k + 1) * length < documents
    · rw [if_pos hless]
      have hbefore : min k (max (documents ⌈/⌉ length) 1 - 1) = k := by omega
      have hafter : min (k + 1) (max (documents ⌈/⌉ length) 1 - 1) = k + 1 := by
        omega
      rw [hbefore, hafter, List.range_succ (n := k + 1), List.map_append, List.map_singleton]
    · rw [if_neg hless, List.append_nil]
      have hsame : min (k + 1) (max (documents ⌈/⌉ length) 1 - 1) =
          min k (max (documents ⌈/⌉ length) 1 - 1) := by omega
      rw [hsame]

/-- **Paging loses, repeats and reorders nothing.**  After the first page and `k` pages more,
the results hold the ids and the data of the first documents in order, as many as `k + 1` pages
have room for; the total is right; there are more pages exactly if there are more documents; and
the requests asked for the pages one after the other, and for none after everything was held. -/
theorem paging_complete (hlength : search.pageLength ≠ 0) (hserves : transport.Serves documents)
    (flags later : Nat → Flags) (k : Nat) :
    (search.page flags later transport k).outcome = .ok () ∧
      List.Forall₂ Hit.Becomes
        (documents.take (min ((k + 1) * search.pageLength.toNat) documents.length))
        (search.page flags later transport k).search.results ∧
      (search.page flags later transport k).search.totalResults.toNat = documents.length ∧
      ((search.page flags later transport k).search.hasMorePages = true ↔
        (k + 1) * search.pageLength.toNat < documents.length) ∧
      ((List.range (k + 1)).flatMap fun n => (search.page flags later transport n).requests).map
          Request.span? =
        (List.range (min k (max (documents.length ⌈/⌉ search.pageLength.toNat) 1 - 1) + 1)).map
          fun j => some (j * search.pageLength.toNat, search.pageLength.toNat) := by
  have hfetched := fetched_page hserves flags later hlength
  obtain ⟨houtcome, -, hkept, hholds⟩ := hfetched k
  refine ⟨houtcome, ?_, hholds.total, ?_, ?_⟩
  · rw [hholds.results, ← List.take_eq_take_min]
    exact Hit.becomes_results _
  · rw [← hkept] at hholds hlength ⊢
    exact hasMorePages_iff hlength hholds
  · rw [← flatMap_pageSpans (toNat_pos_of_ne_zero hlength), List.map_flatMap]
    exact congrArg (List.flatMap · (List.range (k + 1))) (funext fun n => (hfetched n).spans)

/-- Three documents on pages of two: the second page is the last, and a third is not sent. -/
theorem paging_complete_of_three :
    let documents : List Hit :=
      [⟨"a", some [("year", .int 1999)], some [("tag", .str "x")], none⟩,
        ⟨"b", some [("year", .int 2000)], none, none⟩, ⟨"c", none, none, none⟩]
    let transport : Transport := fun request => match request.span? with
      | some (start, size) =>
        .ok (Response.toJson ⟨⟨3, (documents.drop start).take size⟩, [], false, none⟩)
      | none => .error ["no window"]
    let search : Search := { Search.new with pageLength := 2 }
    search.pageLength ≠ 0 ∧ transport.Serves documents ∧
      (search.page (fun _ _ => true) (fun _ _ => true) transport 2).search.results =
        [⟨"a", [("tag", .str "x")]⟩, ⟨"b", [("year", .int 2000)]⟩, ⟨"c", []⟩] ∧
      ((List.range 3).flatMap fun n =>
        (search.page (fun _ _ => true) (fun _ _ => true) transport n).requests).map
          Request.span? = [some (0, 2), some (2, 2)] := by
  intro documents transport search
  have hlength : search.pageLength ≠ 0 := by decide
  have hserves : transport.Serves documents := by
    intro request start size hspan
    let response : Response := ⟨⟨3, (documents.drop start).take size⟩, [], false, none⟩
    have hsent : transport request = .ok response.toJson := by
      simp only [transport, hspan, response]
    have hwritable : ∀ hit ∈ response.hits.hits, hit.IsWritable := by
      intro hit hhit x hx
      have hmem : hit ∈ documents := List.mem_of_mem_drop (List.mem_of_mem_take hhit)
      have hscore : ∀ hit ∈ documents, hit.score = none := by simp [documents]
      rw [hscore hit hmem] at hx
      cases hx
    exact ⟨response.toJson, response, hsent, Response.ofJson?_toJson hwritable, rfl, rfl, rfl⟩
  obtain ⟨-, hresults, -, -, hspans⟩ := paging_complete hlength hserves (fun _ _ => true)
    (fun _ _ => true) 2
  have hbecome : List.Forall₂ Hit.Becomes documents
      [⟨"a", [("tag", .str "x")]⟩, ⟨"b", [("year", .int 2000)]⟩, ⟨"c", []⟩] :=
    .cons ⟨rfl, rfl⟩ (.cons ⟨rfl, rfl⟩ (.cons ⟨rfl, rfl⟩ .nil))
  exact ⟨hlength, hserves, List.right_unique_forall₂' Hit.rightUnique_becomes hresults hbecome,
    hspans.trans (by decide)⟩

end Search
end FacetedSearch
