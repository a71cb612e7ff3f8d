import FacetedSearch.Proofs.Search.ByIds
import Mathlib.Data.List.Induction

/-!
# Selecting again what is selected

The ids of what is selected can always be read, but they need not lead back to what is
selected.  Ids do not tell texts from numbers, so an available facet can have the id of a
selected value and another value, and then it is taken.  The same goes for two selected values
of one id, since only the last of them has the placeholder, and for an interval that equals an
available one in all but the sign of a zero.  Selecting the ids again then changes the
selection, or is refused.

`Filter.valueFor` is what the id of a selected value leads to.  The selection stays as it is
exactly if selecting that gives back each selected value, and it stays without a word exactly
if each value also equals itself, which a double that is no number does not.

* `FilterKind.reading`, `Filter.valueFor`: what an id is read as, and what it leads to;
* `Filter.get?_placeholdersOf`: which value the placeholder of an id stands for;
* `Filter.valueOfId_id`: ids of selected values are read back;
* `Search.withSelection_eq_quiet_iff`: when a selection is put in its place without a word;
* `Search.reselect_iff`: selecting again what is selected.
-/

namespace FacetedSearch

namespace FilterKind

/-- What the id of a selected value is read as. -/
def reading (kind : FilterKind) (value : FacetValue) : FacetValue :=
  match kind with
  | .numeric _ | .range _ => value
  | .term _ | .custom _ => .term (.text value.id)

theorem ofId_eq_reading {kind : FilterKind} (hkeeps : kind.KeepsConversions) {value : FacetValue}
    (h : kind.accepted? value = some value) : kind.ofId value.id = .ok (kind.reading value) := by
  cases kind with
  | term options | custom other => exact ofId_eq hkeeps _
  | numeric options =>
    obtain ⟨n, -, rfl⟩ := Option.map_eq_some_iff.1 h
    simp only [ofId_numeric, reading, FacetValue.id_term, Term.shown_int, integerOfText?_integerText]
  | range options =>
    cases value with
    | term t => cases h
    | range bounds =>
      have hencodable : bounds.isEncodable = true := by
        by_contra hnot
        rw [accepted?, if_neg hnot] at h
        cases h
      simp only [ofId_range, reading, FacetValue.id_range, Bounds.ofId?_id hencodable]

end FilterKind

namespace Filter

variable {filter : Filter} {value : FacetValue}

/-- The placeholder of an id is that of the last value of the id. -/
theorem get?_placeholdersOf {kind : FilterKind} (hkeeps : kind.KeepsConversions)
    (values : List FacetValue) (id : String) :
    Assoc.get? id (placeholdersOf kind values) =
      (values.reverse.find? fun value => value.id == id).map Facet.placeholder := by
  induction values using List.reverseRecOn with
  | nil => rfl
  | append_singleton values last ih =>
    have hlast : placeholdersOf kind (values ++ [last]) =
        Assoc.insert last.id (.placeholder last) (placeholdersOf kind values) := by
      rw [placeholdersOf, List.foldl_concat, FilterKind.idOf_eq hkeeps]
      rfl
    rw [hlast, List.reverse_append, List.reverse_singleton, List.singleton_append, List.find?_cons]
    by_cases hid : last.id = id
    · subst hid
      rw [Assoc.get?_insert_self, beq_self_eq_true]
      rfl
    · rw [Assoc.get?_insert_of_ne _ _ (Ne.symm hid), ih, beq_eq_false_iff_ne.2 hid]

/-- What the id of a selected value leads to: the first available value that equals what the id
is read as or that has the id, and else the last selected value of the id. -/
def valueFor (filter : Filter) (value : FacetValue) : FacetValue :=
  match filter.available.find? fun facet =>
      facet.key.sameValue (filter.kind.reading value) || facet.id == value.id with
  | some facet => facet.key
  | none => (filter.selected.reverse.find? fun other => other.id == value.id).getD value

/-- **The id of a selected value is always read back**, as the value of what it leads to. -/
theorem valueOfId_id (settled : filter.Settled) (h : value ∈ filter.selected) :
    filter.valueOfId value.id = .ok (filter.valueFor value) := by
  have hread := FilterKind.ofId_eq_reading settled.keeps (settled.accepted value h)
  have hheld := get?_placeholdersOf settled.keeps filter.selected value.id
  rw [← settled.placeholders] at hheld
  obtain ⟨last, hlast⟩ : ∃ last,
      (filter.selected.reverse.find? fun other => other.id == value.id) = some last := by
    rw [← Option.isSome_iff_exists, List.find?_isSome]
    exact ⟨value, List.mem_reverse.2 h, beq_self_eq_true _⟩
  rw [hlast] at hheld
  rw [valueOfId_eq settled.keeps, facetOfId_eq settled.keeps, hread]
  simp only [valueFor, hheld, hlast, Except.map]
  split
  · next facet hfacet =>
    rw [hfacet]
    rfl
  · next hnone =>
    rw [hnone]
    rfl

theorem valuesOfIds_selected (settled : filter.Settled) :
    filter.valuesOfIds (filter.selected.map FacetValue.id) =
      .ok (filter.selected.map filter.valueFor) := by
  rw [valuesOfIds, List.mapM_map]
  exact Fallible.mapM_eq_ok_map fun value hvalue => valueOfId_id settled hvalue

/-- Selecting what the selected ids lead to gives the selection back exactly if each value is
brought into its form from what its id leads to. -/
theorem select_valueFor_iff (settled : filter.Settled) :
    filter.select (filter.selected.map filter.valueFor) = .ok filter ↔
      ∀ value ∈ filter.selected, filter.kind.accepted? (filter.valueFor value) = some value := by
  have hforms : (filter.selected.map filter.valueFor).mapM (filter.kind.accept filter.name) =
      .ok filter.selected ↔
      ∀ value ∈ filter.selected, filter.kind.accepted? (filter.valueFor value) = some value := by
    rw [Fallible.mapM_eq_ok_iff, List.forall₂_map_left_iff, List.forall₂_same]
    exact forall₂_congr fun value _ => FilterKind.accept_eq_ok_iff settled.keeps
  rw [← hforms, select_eq_ok_iff_of_keeps settled.keeps]
  constructor
  · rintro ⟨accepted, hmap, hfilter⟩
    rw [hmap, congrArg Filter.selected hfilter]
  · intro hmap
    refine ⟨filter.selected, hmap, ?_⟩
    rw [← settled.placeholders]

end Filter

namespace Search

variable {search : Search} {name : String} {filter next : Filter}

/-- A selection is put in its place without a word exactly if it is the one that is there and
equals itself by value. -/
theorem withSelection_eq_quiet_iff (hnames : search.filters.names.Nodup)
    (hfilter : search.filter name = .ok filter) (hname : next.name = name) :
    search.withSelection next filter.selected false = .quiet search () ↔
      next = filter ∧ ∀ value ∈ filter.selected, value.sameValue value = true := by
  constructor
  · intro hquiet
    have hfound := filter_withSelection hfilter hname filter.selected false
    rw [hquiet] at hfound
    obtain rfl : filter = next := Except.ok.inj (hfilter.symm.trans hfound)
    refine ⟨rfl, FacetValue.sameValues_self_iff.1 ?_⟩
    unfold withSelection at hquiet
    dsimp only at hquiet
    split at hquiet
    · next hsame => exact hsame
    · cases congrArg Reply.events hquiet
  · rintro ⟨rfl, hsame⟩
    have hself : (search.filters.update next.name fun _ => next) = search.filters :=
      Catalog.update_self hnames (filter_eq_ok hfilter).1
    unfold withSelection
    rw [FacetValue.sameValues_self_iff.2 hsame, hself]
    rfl

/-- **Selecting again what is selected.**  The selected ids are there for every selection.  A
selected value is read back from its id exactly if that is what its id leads to.  And selecting
the selected ids again leaves the search as it is and is not announced exactly if each selected
value equals itself and is what a filter selects for what its id leads to.  Only a kind that is
supplied with other conversions is set aside. -/
theorem reselect_iff (h : search.Reachable) (hfilter : search.filter name = .ok filter)
    (hkeeps : filter.kind.KeepsConversions) :
    search.selectedIds name = .ok (filter.selected.map FacetValue.id) ∧
      (∀ value ∈ filter.selected,
        (filter.idOfValue value).bind filter.valueOfId = .ok value ↔
          filter.valueFor value = value) ∧
      (search.selectIds name (filter.selected.map FacetValue.id) false = .quiet search () ↔
        ∀ value ∈ filter.selected, value.sameValue value = true ∧
          filter.kind.accepted? (filter.valueFor value) = some value) := by
  have settled : filter.Settled :=
    (h.coherent.reachable filter (filter_eq_ok hfilter).1).settled hkeeps
  refine ⟨?_, fun value hvalue => ?_, ?_⟩
  · rw [selectedIds, hfilter]
    exact Filter.selectedIds_eq settled
  · have hback : (filter.idOfValue value).bind filter.valueOfId = .ok (filter.valueFor value) := by
      rw [Filter.idOfValue_of_accepted hkeeps (settled.accepted value hvalue)]
      exact Filter.valueOfId_id settled hvalue
    rw [hback, Except.ok.injEq]
  · rw [selectIds_eq hfilter, Filter.valuesOfIds_selected settled]
    have hforms := Filter.select_valueFor_iff settled
    rw [forall₂_and, ← hforms]
    simp only [Except.bind]
    cases hselect : filter.select (filter.selected.map filter.valueFor) with
    | error error =>
      constructor
      · intro hquiet
        cases congrArg Reply.answer hquiet
      · rintro ⟨-, hok⟩
        cases hok
    | ok next =>
      have hname : next.name = name := (name_of_select hselect).trans (filter_eq_ok hfilter).2
      rw [Except.ok.injEq, and_comm]
      exact withSelection_eq_quiet_iff h.coherent.names hfilter hname

/-- The text of a number is selected, and then that number is listed. -/
theorem reselect_iff_of_listed_number :
    let document := Json.obj [("hits", .obj [("total", .int 1)]), ("facets", .obj [("tags",
      .obj [("terms", .arr [.obj [("term", .int 7), ("count", .int 1)]])])])]
    let defined := (new.replaceFilters [.ofKind "tags" (.term .bare)]).search
    let chosen := (defined.select "tags" [.term (.text "7")] false).search
    let search := (chosen.absorb (fun _ => false) document .replace).search
    search.Reachable ∧ ∃ filter, search.filter "tags" = .ok filter ∧
      filter.selected = [.term (.text "7")] ∧ search.selectedIds "tags" = .ok ["7"] ∧
      (filter.idOfValue (.term (.text "7"))).bind filter.valueOfId ≠ .ok (.term (.text "7")) ∧
      search.selectIds "tags" ["7"] false ≠ .quiet search () := by
  intro document defined chosen search
  have hdefined : defined.Reachable := .call (.replaceFilters [.ofKind "tags" (.term .bare)])
    (List.forall_mem_singleton.2 (.ofKind _ _)) .new
  have hchosen : chosen.Reachable :=
    hdefined.call_of_filters_eq_nil (.select "tags" [.term (.text "7")] false) rfl
  have hreach : search.Reachable :=
    hchosen.call_of_filters_eq_nil (.absorb (fun _ => false) document .replace) rfl
  obtain ⟨filter, hfilter⟩ : ∃ filter, search.filter "tags" = .ok filter := ⟨_, rfl⟩
  have hselected : filter.selected = [.term (.text "7")] := by cases hfilter; rfl
  have hleads : filter.valueFor (.term (.text "7")) = .term (.int 7) := by cases hfilter; rfl
  have hkind : filter.kind = .term .bare := by cases hfilter; rfl
  obtain ⟨hids, hback, hquiet⟩ := reselect_iff hreach hfilter (hkind ▸ trivial)
  rw [hselected] at hids hback hquiet
  refine ⟨hreach, filter, hfilter, hselected, hids, fun hread => ?_, fun hsame => ?_⟩
  · have hvalue := (hback _ (List.mem_singleton_self _)).1 hread
    rw [hleads] at hvalue
    cases hvalue
  · have hform := (hquiet.1 hsame _ (List.mem_singleton_self _)).2
    rw [hleads, hkind] at hform
    cases hform

end Search
end FacetedSearch
