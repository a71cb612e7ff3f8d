import FacetedSearch.Proofs.Filter.RangeGuard
import FacetedSearch.Proofs.Search.ByIds

/-!
# Selecting the intervals that ids are read as

Not every interval that an id is read as can be selected.  The shape of an id bounds neither the
number of digits nor their value, and a number past the largest finite one is read as infinity,
which the guard of a filter over intervals refuses and whose own id is a word.  All other ids
lead to intervals that are accepted, and nothing else stands in the way: with nothing offered,
an id leads to what it is read as, also where a placeholder has that id.

* `Filter.valueOfId_of_nothing_offered`: what an id leads to;
* `Search.selectIds_of_read`: selecting by it;
* `Search.read_accepted_iff_finite`: when this succeeds.
-/

namespace FacetedSearch

namespace Filter

variable {filter : Filter} {options : RangeOptions} {id : String} {bounds : Bounds}

/-- A placeholder in a filter over intervals stands for what its id is read as. -/
theorem exists_ofId?_of_placeholder (settled : filter.Settled)
    (hkind : filter.kind = .range options) {facet : Facet}
    (hheld : filter.placeholders.get? id = some facet) :
    ∃ held, Bounds.ofId? id = some held ∧ facet.key = .range held := by
  obtain ⟨value, hvalue, rfl, rfl⟩ := exists_selected_of_placeholder settled hheld
  have haccepted := settled.accepted value hvalue
  rw [hkind] at haccepted
  obtain ⟨held, rfl, hencodable, -⟩ := FilterKind.accepted?_range haccepted
  exact ⟨held, Bounds.ofId?_id hencodable, rfl⟩

/-- With nothing offered, an id leads to what it is read as. -/
theorem valueOfId_of_nothing_offered (settled : filter.Settled)
    (hkind : filter.kind = .range options) (hnone : filter.available = [])
    (hread : Bounds.ofId? id = some bounds) : filter.valueOfId id = .ok (.range bounds) := by
  have hkey : filter.kind.ofId id = .ok (.range bounds) := by
    rw [hkind, FilterKind.ofId_range, hread]
  rw [valueOfId_eq settled.keeps, facetOfId_eq settled.keeps, hkey, hnone]
  show Except.ok (((filter.placeholders.get? id).or
    (filter.placeholders.get? bounds.id)).getD (.placeholder (.range bounds))).key = _
  cases hheld : filter.placeholders.get? id with
  | some facet =>
    obtain ⟨held, hheld', hkey'⟩ := exists_ofId?_of_placeholder settled hkind hheld
    rw [Option.some.inj (hread.symm.trans hheld')]
    exact congrArg Except.ok hkey'
  | none =>
    cases hspelled : filter.placeholders.get? bounds.id with
    | none => rfl
    | some facet =>
      obtain ⟨held, hheld', hkey'⟩ := exists_ofId?_of_placeholder settled hkind hspelled
      rw [← Bounds.eq_of_ofId?_id hheld']
      exact congrArg Except.ok hkey'

end Filter

namespace Search

variable {search : Search} {name : String} {filter : Filter} {options : RangeOptions}
  {id : String} {bounds : Bounds}

/-- With nothing offered, selecting by an id is selecting what it is read as. -/
theorem selectIds_of_read (h : search.Reachable) (hfilter : search.filter name = .ok filter)
    (hkind : filter.kind = .range options) (hnone : filter.available = [])
    (hread : Bounds.ofId? id = some bounds) (silent : Bool) :
    search.selectIds name [id] silent = search.select name [.range bounds] silent := by
  have settled : filter.Settled :=
    (h.coherent.reachable filter (filter_eq_ok hfilter).1).settled (hkind ▸ trivial)
  have hvalues : filter.valuesOfIds [id] = .ok [.range bounds] := by
    rw [Filter.valuesOfIds, List.mapM_cons,
      Filter.valueOfId_of_nothing_offered settled hkind hnone hread]
    rfl
  rw [selectIds_eq hfilter, select_eq hfilter, hvalues]
  rfl

/-- Selecting one interval in a filter over intervals goes by the guard. -/
theorem select_range (hfilter : search.filter name = .ok filter)
    (hkind : filter.kind = .range options) (bounds : Bounds) (silent : Bool) :
    search.select name [.range bounds] silent =
      if bounds.isEncodable then
        search.withSelection { filter with
          selected := [.range bounds]
          placeholders := Filter.placeholdersOf filter.kind [.range bounds] }
          filter.selected silent
      else .refuse search (.incompatibleValue name (FacetValue.range bounds).shown) := by
  have hname : filter.name = name := (filter_eq_ok hfilter).2
  rw [select_eq hfilter, Filter.select, List.mapM_cons, hkind, hname, FilterKind.accept_range]
  by_cases hencodable : bounds.isEncodable = true
  · simp only [if_pos hencodable]
    rfl
  · simp only [if_neg hencodable]
    rfl

/-- **An id leads to an interval that can be selected exactly if it is read without an infinite
bound**, that is, unless one of the texts around its dash denotes a number past the largest
finite one.  If it does not, the interval is accepted and read back from its own id, and
selecting by the id in a filter over intervals that offers nothing succeeds and selects it.  If
it does, the interval is refused, its own id cannot be read, and selecting by the id is refused
and changes nothing. -/
theorem read_accepted_iff_finite (options : RangeOptions) {id : String} {bounds : Bounds}
    (hread : Bounds.ofId? id = some bounds) :
    let kind := FilterKind.range options
    let refusal := fun name => SearchError.incompatibleValue name (FacetValue.range bounds).shown
    (∃ before after, id.toList = before ++ '-' :: after ∧
      bounds.hasInfinity = (Bounds.isTooLarge before || Bounds.isTooLarge after)) ∧
    (bounds.hasInfinity = false →
      (∀ name, kind.accept name (.range bounds) = .ok (.range bounds)) ∧
      kind.ofId bounds.id = .ok (.range bounds) ∧
      ∀ (search : Search) (name : String) (filter : Filter) (silent : Bool), search.Reachable →
        search.filter name = .ok filter → filter.kind = kind → filter.available = [] →
        (search.selectIds name [id] silent).answer = .ok () ∧
          (search.selectIds name [id] silent).search.selection name = .ok [.range bounds]) ∧
    (bounds.hasInfinity = true →
      (∀ name, kind.accept name (.range bounds) = .error (refusal name)) ∧
      kind.ofId bounds.id = .error (.invalidRangeId bounds.id) ∧
      ∀ (search : Search) (name : String) (filter : Filter) (silent : Bool), search.Reachable →
        search.filter name = .ok filter → filter.kind = kind → filter.available = [] →
        search.selectIds name [id] silent = .refuse search (refusal name)) := by
  intro kind refusal
  refine ⟨Bounds.exists_texts_hasInfinity_eq hread, fun hfinite => ?_, fun hinfinite => ?_⟩
  · have hencodable : bounds.isEncodable = true := Bounds.isEncodable_of_ofId? hread hfinite
    refine ⟨fun name => ?_, ?_, ?_⟩
    · exact (FilterKind.accept_range options name bounds).trans (if_pos hencodable)
    · exact (FilterKind.ofId_range_id options bounds).trans (if_pos hencodable)
    · intro search name filter silent hreach hfilter hkind hnone
      let next : Filter := { filter with
        selected := [.range bounds]
        placeholders := Filter.placeholdersOf filter.kind [.range bounds] }
      have hname : next.name = name := (filter_eq_ok hfilter).2
      rw [selectIds_of_read hreach hfilter hkind hnone hread, select_range hfilter hkind,
        if_pos hencodable]
      refine ⟨answer_withSelection _ _ _ _, ?_⟩
      show ((search.withSelection next filter.selected silent).search.filter name).map
        Filter.selected = _
      rw [filter_withSelection hfilter hname]
      rfl
  · have hrefused : ¬bounds.isEncodable = true := by
      intro hencodable
      rw [Bounds.hasInfinity_of_isEncodable hencodable] at hinfinite
      cases hinfinite
    refine ⟨fun name => ?_, ?_, ?_⟩
    · exact (FilterKind.accept_range options name bounds).trans (if_neg hrefused)
    · exact (FilterKind.ofId_range_id options bounds).trans (if_neg hrefused)
    · intro search name filter silent hreach hfilter hkind hnone
      rw [selectIds_of_read hreach hfilter hkind hnone hread, select_range hfilter hkind,
        if_neg hrefused]

/-- One and so many zeros that a double cannot hold the number, and the same bound without
them. -/
theorem read_accepted_iff_finite_of_many_zeros :
    let long := String.ofList ('1' :: List.replicate 309 '0' ++ ['-'])
    let search : Search :=
      { Search.new with filters := ⟨[.ofKind "price" (.range (.ofRanges []))]⟩ }
    let past : Bounds := ⟨some (.infinity false), none⟩
    let one : Bounds := ⟨some (.finite false ⟨1023 * blockRanks, by decide⟩), none⟩
    Bounds.ofId? long = some past ∧ Bounds.ofId? "1-" = some one ∧
      search.selectIds "price" [long] false =
        .refuse search (.incompatibleValue "price" (FacetValue.range past).shown) ∧
      (search.selectIds "price" ["1-"] false).answer = .ok () := by
  intro long search past one
  have hpast : (⟨1, 309⟩ : Decimal).toBinary64 false = .infinity false := by
    have hover : ¬(⟨1, 309⟩ : Decimal).nearestRank < finiteMagnitudes := by
      rw [Decimal.nearestRank_lt_iff]
      decide +kernel
    rw [Decimal.toBinary64, Binary64.ofRank, dif_neg hover]
  have hlong : Bounds.ofId? long = some past := by
    have htexts : long.toList = (⟨1, 309⟩ : Decimal).positional ++ ['-'] := String.toList_ofList
    rw [Bounds.ofId?, htexts, Bounds.ofIdChars?_positional, hpast]
  have hshort : Bounds.ofId? "1-" = some one := by decide +kernel
  have hreach : search.Reachable := .call (.replaceFilters [.ofKind "price" (.range (.ofRanges []))])
    (List.forall_mem_singleton.2 (.ofKind _ _)) .new
  obtain ⟨-, -, hrefused⟩ := read_accepted_iff_finite (.ofRanges []) hlong
  obtain ⟨-, haccepted, -⟩ := read_accepted_iff_finite (.ofRanges []) hshort
  exact ⟨hlong, hshort, (hrefused rfl).2.2 search "price" _ false hreach rfl rfl rfl,
    ((haccepted rfl).2.2 search "price" _ false hreach rfl rfl rfl).1⟩

end Search
end FacetedSearch
