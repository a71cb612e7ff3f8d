import FacetedSearch.Proofs.Filter.Offered
import FacetedSearch.Proofs.Search.Absorb
import FacetedSearch.Proofs.Search.ByIds

/-!
# Taking an offered choice

What a response lists is shown as choices, and a choice is taken by its id.  Most choices can be
taken, and are marked then together with all others of the same id.  But an id that cannot be
read is refused, and changes nothing.  And an id that is not its own spelling selects what it
stands for under another id, so that the choice that was taken is not marked.

The three cases are told apart by the id and the kind of the filter alone
(`FilterKind.canonicalId?`).  Only in the good case does it matter what else is offered: the id
is looked up among the available facets first, and there it may find what only looks the same.

* `Search.offersRead_of_absorb`, `Search.offersRead_of_recount`: what responses leave behind;
* `Search.Marks`: how the choices of an id are marked;
* `Search.selectIds_of_unreadable`, `Search.selectIds_singleton`: taking one choice;
* `Search.select_offered`: the three cases.
-/

namespace FacetedSearch
namespace Search

variable {search : Search} {name : String} {filter : Filter}

/-! ## What is offered -/

/-- After a response was taken over, every filter offers what it read. -/
theorem offersRead_of_absorb {flags : Flags} {document : Json} {mode : ResultMode}
    (h : (search.absorb flags document mode).answer = .ok ()) :
    ∀ filter ∈ (search.absorb flags document mode).search.filters.items, filter.OffersRead := by
  obtain ⟨error, hrefused⟩ | ⟨response, filters, -, hrefreshed, habsorbed⟩ :=
    absorb_cases flags search document mode
  · rw [hrefused] at h
    cases h
  · intro next hnext
    rw [habsorbed, absorbDecoded_eq] at hnext
    obtain ⟨filter, -, hrefresh⟩ := Fallible.exists_of_mem_of_mapM hrefreshed hnext
    exact Filter.offersRead_of_refresh hrefresh

/-- Counting the facets of a filter again refreshes that filter in its place. -/
theorem exists_refresh_of_recount {flags later : Flags} {transport : Transport}
    (h : (search.recount flags later transport name).outcome = .ok ()) :
    ∃ held next response, search.filter name = .ok held ∧
      held.refresh later response = .ok next ∧
      (search.recount flags later transport name).search =
        { search with filters := search.filters.update name fun _ => next } := by
  unfold recount at h ⊢
  cases hrequest : search.facetRequest flags name with
  | error cause =>
    rw [hrequest] at h
    cases h
  | ok request =>
    cases hreceive : search.receiveFacets later name (transport request) with
    | error error =>
      simp only [hrequest, hreceive] at h
      cases h
    | ok next =>
      obtain ⟨held, response, hheld, hrefresh⟩ := receiveFacets_eq_ok hreceive
      refine ⟨held, next, response, hheld, hrefresh, ?_⟩
      simp only [hreceive]

/-- After its facets were counted again, a filter offers what it read. -/
theorem offersRead_of_recount {flags later : Flags} {transport : Transport}
    (h : (search.recount flags later transport name).outcome = .ok ())
    (hfilter : (search.recount flags later transport name).search.filter name = .ok filter) :
    filter.OffersRead := by
  obtain ⟨held, next, response, hheld, hrefresh, hrecounted⟩ := exists_refresh_of_recount h
  have hname : next.name = name := by
    obtain ⟨tally, -, rfl⟩ := Filter.refresh_eq_ok_iff.1 hrefresh
    exact (filter_eq_ok hheld).2
  rw [hrecounted, filter_update hheld hname] at hfilter
  rw [← Except.ok.inj hfilter]
  exact Filter.offersRead_of_refresh hrefresh

/-! ## One choice -/

/-- A filter has choices of the given id, and all of them are marked, or none. -/
def Marks (search : Search) (name id : String) (marked : Bool) : Prop :=
  ∃ filter, search.filter name = .ok filter ∧ (∃ choice ∈ filter.choices, choice.id = id) ∧
    ∀ choice ∈ filter.choices, choice.id = id → choice.selected = marked

/-- An id that cannot be read is refused. -/
theorem selectIds_of_unreadable (hfilter : search.filter name = .ok filter)
    (hkeeps : filter.kind.KeepsConversions) {id : String}
    (h : filter.kind.canonicalId? id = none) (silent : Bool) :
    ∃ error, search.selectIds name [id] silent = .refuse search error := by
  rw [selectIds_eq hfilter]
  cases hvalues : filter.valuesOfIds [id] with
  | error error => exact ⟨error, rfl⟩
  | ok values =>
    have hevery := (Filter.exists_valuesOfIds_iff hkeeps).1 ⟨values, hvalues⟩ id
      (List.mem_singleton_self id)
    rw [h] at hevery
    cases hevery

/-- What the id of a choice leads to is selected, if it can be, and then the choices of that id
are marked as the filter says. -/
theorem selectIds_singleton (hfilter : search.filter name = .ok filter)
    (hkeeps : filter.kind.KeepsConversions) {choice : Choice} (hchoice : choice ∈ filter.choices)
    {facet : Facet} {accepted : FacetValue} (hfacet : filter.facetOfId choice.id = .ok facet)
    (haccepted : filter.kind.accepted? facet.key = some accepted) (silent : Bool) {marked : Bool}
    (hmarked : ∀ next : Filter, next.Settled → next.kind = filter.kind →
      next.selected = [accepted] → next.isSelected choice.id = marked) :
    (search.selectIds name [choice.id] silent).answer = .ok () ∧
      (search.selectIds name [choice.id] silent).search.Marks name choice.id marked := by
  obtain ⟨next, hnext⟩ : ∃ next : Filter, next = { filter with
      selected := [accepted]
      placeholders := Filter.placeholdersOf filter.kind [accepted] } := ⟨_, rfl⟩
  have hsteps := Filter.select_valuesOfIds_singleton hkeeps hfacet haccepted
  rw [← hnext] at hsteps
  obtain ⟨values, -, hselect⟩ := Fallible.bind_eq_ok_iff.1 hsteps
  have hname : next.name = name := (name_of_select hselect).trans (filter_eq_ok hfilter).2
  have hid : next.isSelected choice.id = marked := by
    refine hmarked next (Filter.settled_select hkeeps hselect) ?_ ?_
    · rw [hnext]
    · rw [hnext]
  have hnextKeeps : next.kind.KeepsConversions := by
    rw [hnext]
    exact hkeeps
  rw [selectIds_eq hfilter, hsteps]
  refine ⟨answer_withSelection _ _ _ _, next, filter_withSelection hfilter hname _ _, ?_, ?_⟩
  · obtain ⟨listed, hlisted, hsame, -⟩ := Filter.exists_of_mem_choices hkeeps hchoice
    refine ⟨next.choice listed, List.mem_map_of_mem ?_, ?_⟩
    · rw [hnext]
      exact hlisted
    · rw [hsame, Filter.choice_id hnextKeeps]
  · intro other hother hsame
    obtain ⟨listed, -, -, hselected⟩ := Filter.exists_of_mem_choices hnextKeeps hother
    rw [hselected, hsame, hid]

/-! ## The three cases -/

/-- **Every offered choice can be taken, if its id is its own spelling.**  What a filter over
terms, integers or intervals offers was read from a response.  If the id of a choice cannot be
read, which is so for what is no integer and for intervals with a sign, taking it is refused and
changes nothing.  If the id is read but stands for another spelling, taking it succeeds and marks
no choice of that id.  Otherwise taking it succeeds and marks every choice of that id, provided
that what the id leads to is exactly what the id says. -/
theorem select_offered (h : search.Reachable) (hfilter : search.filter name = .ok filter)
    (hkind : filter.kind.isBuiltIn = true) (hread : filter.OffersRead) {choice : Choice}
    (hchoice : choice ∈ filter.choices) (silent : Bool) :
    (filter.kind.canonicalId? choice.id = none →
        ∃ error, search.selectIds name [choice.id] silent = .refuse search error) ∧
      (∀ spelled, filter.kind.canonicalId? choice.id = some spelled → spelled ≠ choice.id →
        (search.selectIds name [choice.id] silent).answer = .ok () ∧
          (search.selectIds name [choice.id] silent).search.Marks name choice.id false) ∧
      (filter.kind.canonicalId? choice.id = some choice.id → filter.LeadsExactly choice.id →
        (search.selectIds name [choice.id] silent).answer = .ok () ∧
          (search.selectIds name [choice.id] silent).search.Marks name choice.id true) := by
  have hkeeps : filter.kind.KeepsConversions := FilterKind.keepsConversions_of_isBuiltIn hkind
  have settled : filter.Settled :=
    (h.coherent.reachable filter (filter_eq_ok hfilter).1).settled hkeeps
  have hleads : ∀ spelled, filter.kind.canonicalId? choice.id = some spelled →
      ∃ facet, filter.facetOfId choice.id = .ok facet := by
    intro spelled hspelled
    have hsome : (filter.kind.canonicalId? choice.id).isSome = true := by
      rw [hspelled]
      rfl
    obtain ⟨value, hvalue⟩ := (Filter.exists_valueOfId_iff hkeeps).2 hsome
    obtain ⟨facet, hfacet, -⟩ := Fallible.map_eq_ok_iff.1 hvalue
    exact ⟨facet, hfacet⟩
  refine ⟨fun hnone => selectIds_of_unreadable hfilter hkeeps hnone silent, ?_, ?_⟩
  · intro spelled hspelled hother
    obtain ⟨listed, hlisted, hsame, -⟩ := Filter.exists_of_mem_choices hkeeps hchoice
    obtain ⟨options, hnumeric⟩ : ∃ options, filter.kind = .numeric options := by
      rw [hsame] at hspelled hother
      exact (hread.canonicalId?_eq hkind hlisted hspelled).resolve_left hother
    obtain ⟨facet, hfacet⟩ := hleads spelled hspelled
    obtain ⟨accepted, haccepted⟩ :=
      Filter.exists_accepted_of_numeric settled hread hnumeric hfacet
    refine selectIds_singleton hfilter hkeeps hchoice hfacet haccepted silent
      fun next hnext hsort _ => ?_
    refine Filter.isSelected_eq_false hnext ?_
    rw [hsort, hspelled]
    exact fun hself => hother (Option.some.inj hself)
  · intro hcanonical hexact
    obtain ⟨facet, hfacet⟩ := hleads choice.id hcanonical
    obtain ⟨accepted, haccepted, hspelled⟩ :=
      Filter.answers_of_canonical settled hread hkind hcanonical hexact hfacet
    have hid : accepted.id = choice.id := Option.some.inj (hspelled.symm.trans hcanonical)
    refine selectIds_singleton hfilter hkeeps hchoice hfacet haccepted silent
      fun next hnext _ hselected => ?_
    rw [← hid]
    refine Filter.isSelected_id hnext ?_
    rw [hselected]
    exact List.mem_singleton_self accepted

/-- Among years, a number is taken and marked, a text with a plus sign is taken as another id,
and a word is refused. -/
theorem select_offered_of_years :
    let flags : Flags := fun _ => true
    let started : Search := { Search.new with
      filters := ⟨[Filter.ofKind "year" (.numeric .default)]⟩ }
    let document := Json.obj [("hits", .obj [("total", .int 4)]),
      ("facets", .obj [("year", .obj [("terms", .arr [
        .obj [("term", .int 7), ("count", .int 2)],
        .obj [("term", .str "+8"), ("count", .int 1)],
        .obj [("term", .str "soon"), ("count", .int 1)]])])])]
    let search := (started.absorb flags document .replace).search
    (started.absorb flags document .replace).answer = .ok () ∧ search.Reachable ∧
      (search.selectIds "year" ["7"] false).answer = .ok () ∧
      (search.selectIds "year" ["7"] false).search.Marks "year" "7" true ∧
      (search.selectIds "year" ["+8"] false).answer = .ok () ∧
      (search.selectIds "year" ["+8"] false).search.Marks "year" "+8" false ∧
      ∃ error, search.selectIds "year" ["soon"] false = .refuse search error := by
  intro flags started document search
  have hanswer : (started.absorb flags document .replace).answer = .ok () := rfl
  have hstarted : started.Reachable :=
    .call (.replaceFilters started.filters.items) (List.forall_mem_singleton.2 (.ofKind _ _)) .new
  have hreach : search.Reachable :=
    hstarted.call_of_filters_eq_nil (.absorb flags document .replace) rfl
  obtain ⟨filter, hfilter, havailable, hnumeric⟩ : ∃ filter, search.filter "year" = .ok filter ∧
      filter.available =
        [⟨.term (.int 7), 2⟩, ⟨.term (.text "+8"), 1⟩, ⟨.term (.text "soon"), 1⟩] ∧
      filter.kind = .numeric .default := ⟨_, rfl, rfl, rfl⟩
  have hkind : filter.kind.isBuiltIn = true := by rw [hnumeric]; rfl
  have hread : filter.OffersRead := offersRead_of_absorb hanswer filter (filter_eq_ok hfilter).1
  have hids : filter.choices.map Choice.id = ["7", "+8", "soon"] := by
    have hchoice : Choice.id ∘ filter.choice = Facet.id :=
      funext (Filter.choice_id (FilterKind.keepsConversions_of_isBuiltIn hkind))
    rw [Filter.choices, List.map_map, hchoice, havailable]
    rfl
  have hoffered : ∀ id ∈ ["7", "+8", "soon"], ∃ choice ∈ filter.choices, choice.id = id := by
    intro id hid
    rw [← hids] at hid
    exact List.mem_map.1 hid
  obtain ⟨seven, hseven, hid⟩ := hoffered "7" (by decide)
  obtain ⟨eight, height, hid'⟩ := hoffered "+8" (by decide)
  obtain ⟨soon, hsoon, hid''⟩ := hoffered "soon" (by decide)
  have hleads : filter.facetOfId "7" = .ok ⟨.term (.int 7), 2⟩ := by
    unfold Filter.facetOfId
    rw [hnumeric, havailable]
    rfl
  have hexact : filter.LeadsExactly "7" := by
    constructor
    · intro options hrange
      rw [hnumeric] at hrange
      cases hrange
    · intro options _ facet hfacet x hdouble
      rw [← Except.ok.inj (hleads.symm.trans hfacet)] at hdouble
      cases hdouble
  obtain ⟨-, -, htaken⟩ := select_offered hreach hfilter hkind hread hseven false
  obtain ⟨-, hrespelled, -⟩ := select_offered hreach hfilter hkind hread height false
  obtain ⟨hrefused, -, -⟩ := select_offered hreach hfilter hkind hread hsoon false
  rw [hnumeric, hid] at htaken
  rw [hnumeric, hid'] at hrespelled
  rw [hnumeric, hid''] at hrefused
  obtain ⟨hok, hmarked⟩ := htaken (by decide) hexact
  obtain ⟨hok', hunmarked⟩ := hrespelled "8" (by decide) (by decide)
  exact ⟨hanswer, hreach, hok, hmarked, hok', hunmarked, hrefused (by decide)⟩

/-- Not every offered choice can be taken: an interval below zero is offered as it was listed, but
its id cannot be read, since ids have no place for a sign. -/
theorem offered_below_zero_is_refused :
    let flags : Flags := fun _ => true
    let below : Bounds := ⟨some (.ofInt (-10)), some (.ofInt 0)⟩
    let started : Search := { Search.new with
      filters := ⟨[Filter.ofKind "price" (.range (.ofRanges [⟨below, none, none⟩]))]⟩ }
    let document := Json.obj [("hits", .obj [("total", .int 1)]),
      ("facets", .obj [("price", .obj [("ranges", .arr [
        .obj [("from", .int (-10)), ("to", .int 0), ("count", .int 1)]])])])]
    let search := (started.absorb flags document .replace).search
    (started.absorb flags document .replace).answer = .ok () ∧ search.Reachable ∧
      ∃ filter, search.filter "price" = .ok filter ∧ filter.kind.isBuiltIn = true ∧
        ∃ choice ∈ filter.choices, choice.id = below.id ∧
          (search.selectIds "price" [choice.id] false).answer ≠ .ok () := by
  intro flags below started document search
  have hanswer : (started.absorb flags document .replace).answer = .ok () := rfl
  have hstarted : started.Reachable :=
    .call (.replaceFilters started.filters.items) (List.forall_mem_singleton.2 (.ofKind _ _)) .new
  have hreach : search.Reachable :=
    hstarted.call_of_filters_eq_nil (.absorb flags document .replace) rfl
  obtain ⟨filter, hfilter, havailable, hrange⟩ : ∃ filter, search.filter "price" = .ok filter ∧
      filter.available = [⟨.range below, 1⟩] ∧
      filter.kind = .range (.ofRanges [⟨below, none, none⟩]) := ⟨_, rfl, rfl, rfl⟩
  have hkind : filter.kind.isBuiltIn = true := by rw [hrange]; rfl
  have hchoice : filter.choice ⟨.range below, 1⟩ ∈ filter.choices := by
    refine List.mem_map_of_mem ?_
    rw [havailable]
    exact List.mem_singleton_self _
  have hsigned : below.isEncodable = false := by decide +kernel
  have hunreadable : filter.kind.canonicalId? below.id = none := by
    rw [hrange, FilterKind.canonicalId?_range_id, hsigned, if_neg Bool.false_ne_true]
  have hkeeps : filter.kind.KeepsConversions := FilterKind.keepsConversions_of_isBuiltIn hkind
  obtain ⟨error, hrefused⟩ := selectIds_of_unreadable hfilter hkeeps hunreadable false
  have hid : (filter.choice ⟨.range below, 1⟩).id = below.id := Filter.choice_id hkeeps _
  refine ⟨hanswer, hreach, filter, hfilter, hkind, _, hchoice, hid, fun hok => ?_⟩
  rw [hid, hrefused] at hok
  cases hok

end Search
end FacetedSearch
