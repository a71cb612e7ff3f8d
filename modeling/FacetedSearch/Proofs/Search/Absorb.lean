import FacetedSearch.Proofs.Search.Fetch

/-!
# Taking a response over, filter by filter

A response is taken over by all filters together: every section is read first, and what was
read goes back to the filters in a second pass.  A single filter can also be refreshed by
itself, which reads its section and takes it over at once.  The two agree.  A response is
taken over exactly if it can be read and every filter by itself can read its section, and
each filter ends as it would if it alone were refreshed.

Not every filter looks at its section.  One that is switched off offers nothing and counts
nothing whatever the section holds, and one without a section only learns how many results
there are.

* `Filter.Refreshed`: what becomes of one filter;
* `Search.answer_absorb_eq_ok_iff`: when a response is taken over;
* `Search.arrival`: what listeners hear of the results;
* `Search.absorb_refreshes`: the search that is left behind, and what is announced.
-/

namespace FacetedSearch

namespace Filter

variable {flags : Flags} {response : Response} {filter next : Filter}

/-! ## One filter -/

theorem tally_of_off (hoff : filter.enabled.isOn flags = false) :
    filter.tally flags response = .ok .none := by
  rw [tally, hoff]
  rfl

theorem tally_of_missing (hon : filter.enabled.isOn flags = true)
    (hmissing : response.section? filter.name = none) :
    filter.tally flags response = .ok ⟨[], 0, response.hits.total⟩ := by
  rw [tally, hon, if_pos rfl, hmissing]

/-- What becomes of a filter when a response is taken over. -/
structure Refreshed (flags : Flags) (response : Response) (filter next : Filter) : Prop where
  /-- It is the filter that was refreshed by itself. -/
  refresh : filter.refresh flags response = .ok next
  /-- Only what is offered and the totals are new. -/
  kept : next = { filter with
    available := next.available
    totalFacets := next.totalFacets
    totalResults := next.totalResults }
  off : filter.enabled.isOn flags = false →
    next.available = [] ∧ next.totalFacets = 0 ∧ next.totalResults = 0
  missing : filter.enabled.isOn flags = true → response.section? filter.name = none →
    next.available = [] ∧ next.totalFacets = 0 ∧ next.totalResults = response.hits.total

theorem refreshed_of_refresh (h : filter.refresh flags response = .ok next) :
    filter.Refreshed flags response next := by
  obtain ⟨read, hread, rfl⟩ := refresh_eq_ok_iff.1 h
  refine ⟨h, rfl, fun hoff => ?_, fun hon hmissing => ?_⟩
  · obtain rfl := Except.ok.inj ((tally_of_off hoff).symm.trans hread)
    exact ⟨rfl, rfl, rfl⟩
  · obtain rfl := Except.ok.inj ((tally_of_missing hon hmissing).symm.trans hread)
    exact ⟨rfl, rfl, rfl⟩

end Filter

namespace Search

/-! ## All filters together -/

/-- A response is taken over exactly if every filter can read its section. -/
theorem answer_absorb_eq_ok_iff (flags : Flags) (search : Search) (document : Json)
    (mode : ResultMode) :
    (search.absorb flags document mode).answer = .ok () ↔
      ∃ response, Response.ofJson? document = some response ∧
        ∀ filter ∈ search.filters.items, ∃ tally, filter.tally flags response = .ok tally := by
  constructor
  · intro hanswer
    obtain ⟨error, hrefused⟩ | ⟨response, filters, hread, hrefreshed, -⟩ :=
      absorb_cases flags search document mode
    · rw [hrefused] at hanswer
      cases hanswer
    · obtain ⟨tallies, htallies, -⟩ := mapM_refresh_eq_ok_iff.1 hrefreshed
      refine ⟨response, hread, fun filter hfilter => ?_⟩
      obtain ⟨tally, -, htally⟩ := Fallible.exists_eq_ok_of_mapM htallies hfilter
      exact ⟨tally, htally⟩
  · rintro ⟨response, hread, hevery⟩
    obtain ⟨tallies, htallies⟩ := Fallible.exists_mapM_eq_ok hevery
    rw [absorb_of_refreshed mode hread (mapM_refresh_eq_ok_iff.2 ⟨tallies, htallies, rfl⟩)]
    cases mode <;> rfl

/-- What listeners hear of the results of a response. -/
def arrival (mode : ResultMode) (held arrived : List SearchResult) : Change :=
  match mode with
  | .replace => .resultsReset arrived.length
  | .append => .resultsAdded held.length arrived.length

theorem absorbDecoded_eq (search : Search) (response : Response) (filters : List Filter)
    (mode : ResultMode) :
    search.absorbDecoded response filters mode =
      ⟨.ok (), { search with
          totalResults := response.hits.total
          filters := ⟨filters⟩
          results := resultsAfter mode search.results response.results },
        (filters.flatMap fun filter =>
          [.specific (.facetsRefreshed filter.name filter.available.length),
            .changed .filters]) ++
            [.specific (arrival mode search.results response.results), .changed .results]⟩ := by
  unfold absorbDecoded
  dsimp only
  rw [List.flatMap_map]
  cases mode <;> rfl

/-- **Taking a response over refreshes each filter as if by itself.**  It succeeds exactly if
the document is a response and every filter can read its section.  Then each filter, in its
place, is the one that it is after being refreshed by itself; the results that arrive hold the
ids and the data of the hits in order, or there are none if the total is zero, and they replace
those that are held or follow them; nothing else changes.  Listeners hear of each filter in
order, and then of the results. -/
theorem absorb_refreshes (flags : Flags) (search : Search) (document : Json) (mode : ResultMode) :
    ((search.absorb flags document mode).answer = .ok () ↔
        ∃ response, Response.ofJson? document = some response ∧
          ∀ filter ∈ search.filters.items, ∃ tally, filter.tally flags response = .ok tally) ∧
      ∀ response, Response.ofJson? document = some response →
        (search.absorb flags document mode).answer = .ok () →
        ∃ filters arrived, List.Forall₂ (Filter.Refreshed flags response) search.filters.items
            filters ∧
          List.Forall₂ Hit.Becomes
            (if response.hits.total = 0 then [] else response.hits.hits) arrived ∧
          search.absorb flags document mode =
            ⟨.ok (), { search with
                totalResults := response.hits.total
                filters := ⟨filters⟩
                results := resultsAfter mode search.results arrived },
              (filters.flatMap fun filter =>
                [.specific (.facetsRefreshed filter.name filter.available.length),
                  .changed .filters]) ++
                [.specific (arrival mode search.results arrived), .changed .results]⟩ := by
  refine ⟨answer_absorb_eq_ok_iff flags search document mode, fun response hread hanswer => ?_⟩
  obtain ⟨error, hrefused⟩ | ⟨other, filters, hother, hrefreshed, habsorbed⟩ :=
    absorb_cases flags search document mode
  · rw [hrefused] at hanswer
    cases hanswer
  · obtain rfl : response = other := Option.some.inj (hread.symm.trans hother)
    refine ⟨filters, response.results, ?_, ?_, ?_⟩
    · exact (Fallible.mapM_eq_ok_iff.1 hrefreshed).imp fun _ _ => Filter.refreshed_of_refresh
    · unfold Response.results
      split
      · exact .nil
      · exact Hit.becomes_results _
    · rw [habsorbed, absorbDecoded_eq]

/-- The first filter is off and its section is none, the second has no section, and the third
has one.  The response brings a hit with fields, one with a source and one with neither, and
they follow a result that is held. -/
theorem absorb_refreshes_of_three :
    let author : Filter := { Filter.ofKind "author" (.term .default) with enabled := .fixed false }
    let filters : List Filter :=
      [author, .ofKind "year" (.numeric .default), .ofKind "tag" (.term .default)]
    let search : Search := { Search.new with filters := ⟨filters⟩, results := [⟨"w", []⟩] }
    let listed := Json.obj [("terms", .arr [.obj [("term", .str "a"), ("count", .int 2)]])]
    let document := Json.obj [
      ("hits", .obj [("total", .int 3), ("hits", .arr [
        .obj [("_id", .str "x"), ("_source", .obj [("tag", .str "a")]),
          ("fields", .obj [("year", .int 1999)])],
        .obj [("_id", .str "y"), ("_source", .obj [("tag", .str "b")])],
        .obj [("_id", .str "z")]])]),
      ("facets", .obj [("tag", listed), ("author", .null)])]
    let response : Response :=
      ⟨⟨3, [⟨"x", some [("tag", .str "a")], some [("year", .int 1999)], none⟩,
        ⟨"y", some [("tag", .str "b")], none, none⟩, ⟨"z", none, none, none⟩]⟩,
        [("tag", listed), ("author", .null)], false, none⟩
    let absorbed := search.absorb (fun _ => true) document .append
    Response.ofJson? document = some response ∧ absorbed.answer = .ok () ∧
      absorbed.search.results =
        [⟨"w", []⟩, ⟨"x", [("year", .int 1999)]⟩, ⟨"y", [("tag", .str "b")]⟩, ⟨"z", []⟩] ∧
      List.Forall₂ Hit.Becomes response.hits.hits (absorbed.search.results.drop 1) ∧
      List.Forall₂ (Filter.Refreshed (fun _ => true) response) filters
        absorbed.search.filters.items := by
  intro author filters search listed document response absorbed
  have hread : Response.ofJson? document = some response := rfl
  have hanswer : absorbed.answer = .ok () := rfl
  obtain ⟨refreshed, arrived, hevery, hbecome, habsorbed⟩ :=
    (absorb_refreshes (fun _ => true) search document .append).2 response hread hanswer
  refine ⟨hread, hanswer, rfl, ?_, ?_⟩
  · rw [show absorbed = _ from habsorbed]
    exact hbecome
  · rw [show absorbed = _ from habsorbed]
    exact hevery

end Search
end FacetedSearch
