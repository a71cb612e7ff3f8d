import FacetedSearch.Proofs.Request.Build
import FacetedSearch.Proofs.Request.Condition
import FacetedSearch.Proofs.Search.Reachable

/-!
# What the conditions of a request mean

The conditions of a request hold exactly if every filter that is on admits, and the
condition that confines a facet holds exactly if every *other* filter that is on admits.
So a facet is counted among the results that its own filter would not narrow down.

## Why nothing is lost

The two conditions are put together in different ways.  The one for a facet is the
conjunction of a list.  The one for the results is merged into a section, where repeated
conditions are left out.  That makes no difference as long as no condition repeats another,
and none does: conditions that are the same name the same field, and no two filters of a
search share a name.  Nor is a selected value ever without a fragment, because the values
that a filter holds are in the form in which its kind selects them.

* `conditionsSection?_eq_allOf?`: the section is the conjunction;
* `sectionHolds_conditions`: what the conjunction means;
* `Filter.facetRequest?_spec`: the condition that confines a facet;
* `Search.compile_meaning`: the conditions of a request and of its facets.
-/

namespace FacetedSearch

variable {flags : Flags} {filters : List Filter} {leaf : Json → Prop}

/-! ## The conjunction of all conditions -/

/-- Where no condition repeats another, merging conditions into a section is the same as
taking their conjunction. -/
theorem conditionsSection?_eq_allOf? {conditions : List Json}
    (hsingle : ∀ condition ∈ conditions, ∃ key value, condition = Json.single key value)
    (hpairwise : conditions.Pairwise fun first second => first.sameValue second = false) :
    conditionsSection? conditions = allOf? conditions := by
  cases conditions with
  | nil => rfl
  | cons first rest =>
    cases rest with
    | nil =>
      obtain ⟨key, value, rfl⟩ := hsingle first (List.mem_singleton_self first)
      rfl
    | cons second rest =>
      have hadded : Request.addMissing [] (first :: second :: rest) =
          [] ++ first :: second :: rest := Request.addMissing_of_pairwise hpairwise
      rw [conditionsSection?_cons_cons, allOf?_cons_cons, hadded, List.nil_append]

/-- Filters of different names have conditions of which no two are the same. -/
theorem pairwise_conditions (hnames : (filters.map Filter.name).Nodup)
    (hconcerns : ∀ filter ∈ filters, ∀ condition, filter.condition? flags = some condition →
      condition.Concerns filter.name) :
    (conditions flags filters).Pairwise fun first second => first.sameValue second = false := by
  have hdifferent : filters.Pairwise fun filter other => filter.name ≠ other.name :=
    List.pairwise_map.1 hnames
  rw [conditions, List.pairwise_filterMap]
  refine hdifferent.imp_of_mem ?_
  intro filter other hfilter hother hne first hfirst second hsecond
  rw [Bool.eq_false_iff]
  intro hsame
  exact hne ((hconcerns filter hfilter first hfirst).eq_of_sameValue
    (hconcerns other hother second hsecond) hsame)

/-- **The conjunction of the conditions says that every filter that is on admits.** -/
theorem sectionHolds_conditions (hsettled : ∀ filter ∈ filters, filter.Settled)
    (hkind : ∀ filter ∈ filters, filter.kind.isBuiltIn = true) :
    Json.SectionHolds leaf (allOf? (conditions flags filters)) ↔
      ∀ filter ∈ filters, filter.enabled.isOn flags = true → filter.Admits leaf := by
  have hmeaning : ∀ filter ∈ filters, filter.enabled.isOn flags = true →
      (Json.SectionHolds leaf (filter.condition? flags) ↔ filter.Admits leaf) :=
    fun filter hfilter => Filter.sectionHolds_condition? (hsettled filter hfilter)
      (hkind filter hfilter)
  rw [Json.sectionHolds_allOf?]
  constructor
  · intro h filter hfilter hon
    rw [← hmeaning filter hfilter hon]
    cases hcondition : filter.condition? flags with
    | none => trivial
    | some condition => exact h condition (List.mem_filterMap.2 ⟨filter, hfilter, hcondition⟩)
  · intro h condition hmem
    obtain ⟨filter, hfilter, hcondition⟩ := List.mem_filterMap.1 hmem
    by_cases hon : filter.enabled.isOn flags = true
    · have hholds := (hmeaning filter hfilter hon).2 (h filter hfilter hon)
      rw [hcondition] at hholds
      exact hholds
    · rw [Filter.condition?, if_neg hon] at hcondition
      cases hcondition

/-! ## Facets -/

/-- The facet request of a built-in kind has one member, which confines nothing. -/
theorem FilterKind.exists_aggregation {kind : FilterKind} (hkind : kind.isBuiltIn = true)
    (name : String) :
    ∃ key value, kind.aggregation name = .single key value ∧ key ≠ "facet_filter" := by
  cases kind with
  | term options | numeric options => exact ⟨_, _, rfl, by decide⟩
  | range options => exact ⟨_, _, rfl, by decide⟩
  | custom other => exact absurd hkind Bool.false_ne_true

/-- A filter that is on asks for its facet, confined by the given condition. -/
theorem Filter.facetRequest?_spec {filter : Filter} (hkind : filter.kind.isBuiltIn = true)
    (hon : filter.enabled.isOn flags = true) (confinement : Option Json) :
    ∃ members, filter.facetRequest? flags confinement = some (.obj members) ∧
      Assoc.get? "facet_filter" members = confinement := by
  obtain ⟨key, value, haggregation, hkey⟩ := FilterKind.exists_aggregation hkind filter.name
  unfold facetRequest?
  rw [if_pos hon, haggregation]
  cases confinement with
  | none => exact ⟨_, rfl, if_neg hkey⟩
  | some condition => exact ⟨_, rfl, Assoc.get?_insert_self _ _ _⟩

/-- Facet requests come under the names of filters, in their order. -/
theorem keys_facetEntries_sublist (asking : List Filter) :
    (Assoc.keys (facetEntries flags filters asking)).Sublist (asking.map Filter.name) := by
  induction asking with
  | nil => exact List.Sublist.refl _
  | cons filter rest ih =>
    unfold facetEntries at ih ⊢
    rw [List.filterMap_cons, List.map_cons]
    cases filter.facetRequest? flags (conditionOfOthers? flags filters filter.name) with
    | none => exact ih.cons _
    | some facet => exact ih.cons_cons _

/-- The facet request of a filter is found under its name. -/
theorem get?_facetEntries (hnames : (filters.map Filter.name).Nodup) {filter : Filter}
    (hfilter : filter ∈ filters) {facet : Json}
    (h : filter.facetRequest? flags (conditionOfOthers? flags filters filter.name) = some facet) :
    Assoc.get? filter.name (Assoc.extend [] (facetEntries flags filters filters)) = some facet := by
  have hnodup : (Assoc.keys (facetEntries flags filters filters)).Nodup :=
    hnames.sublist (keys_facetEntries_sublist filters)
  have hmem : (filter.name, facet) ∈ facetEntries flags filters filters :=
    List.mem_filterMap.2 ⟨filter, hfilter, by rw [h]; rfl⟩
  rw [Assoc.get?_extend hnodup, Assoc.get?_of_mem hnodup hmem]
  rfl

/-! ## The request of a search -/

/-- **The conditions of a request, and of each of its facets.**  The filter section holds
exactly if every filter that is on admits; the condition that confines the facet of a filter
holds exactly if every other one does; so the first is the second together with what the
filter itself asks for. -/
theorem Search.compile_meaning {search : Search} (h : search.Reachable)
    (hkind : ∀ filter ∈ search.filters.items, filter.kind.isBuiltIn = true) (flags : Flags) :
    ∃ request, search.compile flags .all [] = .ok request ∧ ∀ leaf : Json → Prop,
      (Json.SectionHolds leaf (Assoc.get? "filter" request) ↔
        ∀ filter ∈ search.filters.items, filter.enabled.isOn flags = true → filter.Admits leaf) ∧
      ∀ filter ∈ search.filters.items, filter.enabled.isOn flags = true →
        ∃ facets facet, Assoc.get? "facets" request = some (.obj facets) ∧
          Assoc.get? filter.name facets = some (.obj facet) ∧
          (Json.SectionHolds leaf (Assoc.get? "facet_filter" facet) ↔
            ∀ other ∈ search.filters.items, other.name ≠ filter.name →
              other.enabled.isOn flags = true → other.Admits leaf) ∧
          (Json.SectionHolds leaf (Assoc.get? "filter" request) ↔
            Json.SectionHolds leaf (Assoc.get? "facet_filter" facet) ∧ filter.Admits leaf) := by
  obtain ⟨hnames, hreachable⟩ := h.coherent
  have hsettled : ∀ filter ∈ search.filters.items, filter.Settled :=
    fun filter hfilter => (hreachable filter hfilter).settled
      (FilterKind.keepsConversions_of_isBuiltIn (hkind filter hfilter))
  have hconcerns : ∀ filter ∈ search.filters.items, ∀ condition,
      filter.condition? flags = some condition → condition.Concerns filter.name :=
    fun filter hfilter _ hcondition =>
      Filter.concerns_of_condition? (hsettled filter hfilter) (hkind filter hfilter) hcondition
  have habsent : ∀ key ∈ sectionKeys, Assoc.get? key ([] : Request) = none := fun _ _ => rfl
  obtain ⟨request, hrequest, hcompiled⟩ := compile_spec flags .all search habsent
  -- the section is the conjunction, since no condition repeats another
  have hfilter : Assoc.get? "filter" request =
      allOf? (FacetedSearch.conditions flags search.filters.items) := by
    rw [hcompiled.conditions rfl]
    refine conditionsSection?_eq_allOf? ?_ (pairwise_conditions hnames hconcerns)
    intro condition hcondition
    obtain ⟨filter, hmem, hsome⟩ := List.mem_filterMap.1 hcondition
    exact (hconcerns filter hmem condition hsome).exists_eq_single
  refine ⟨request, hrequest, fun leaf => ?_⟩
  have hall : Json.SectionHolds leaf (Assoc.get? "filter" request) ↔
      ∀ filter ∈ search.filters.items, filter.enabled.isOn flags = true → filter.Admits leaf := by
    rw [hfilter]
    exact sectionHolds_conditions hsettled hkind
  refine ⟨hall, fun filter hmem hon => ?_⟩
  obtain ⟨facet, hfacet, hconfined⟩ := Filter.facetRequest?_spec (hkind filter hmem) hon
    (conditionOfOthers? flags search.filters.items filter.name)
  have hfound : Assoc.get? filter.name (request.membersOf "facets") = some (.obj facet) := by
    rw [hcompiled.facets rfl]
    exact get?_facetEntries hnames hmem hfacet
  obtain ⟨facets, hfacets, hname⟩ := Request.get?_of_get?_membersOf hfound
  have hothers : Json.SectionHolds leaf (Assoc.get? "facet_filter" facet) ↔
      ∀ other ∈ search.filters.items, other.name ≠ filter.name →
        other.enabled.isOn flags = true → other.Admits leaf := by
    rw [hconfined, conditionOfOthers?, sectionHolds_conditions
      (fun other hother => hsettled other (List.mem_of_mem_filter hother))
      (fun other hother => hkind other (List.mem_of_mem_filter hother))]
    simp only [List.mem_filter, decide_eq_true_eq, ne_eq, and_imp]
  refine ⟨facets, facet, hfacets, hname, hothers, ?_⟩
  rw [hall, hothers]
  constructor
  · exact fun hasked => ⟨fun other hother _ => hasked other hother, hasked filter hmem hon⟩
  · rintro ⟨hasked, hown⟩ other hother hotherOn
    by_cases hsame : other.name = filter.name
    · -- names are distinct, so this is the filter itself
      obtain rfl : other = filter := List.inj_on_of_nodup_map hnames hother hmem hsame
      exact hown
    · exact hasked other hother hsame hotherOn

/-- An author is selected, and one of two years. -/
theorem Search.compile_meaning_of_two_filters :
    let eco : FacetValue := .term (.text "Eco")
    let years : List FacetValue := [.term (.int 1980), .term (.int 1988)]
    let author : Filter := { Filter.ofKind "author" (.term .default) with
      selected := [eco], placeholders := Filter.placeholdersOf (.term .default) [eco] }
    let year : Filter := { Filter.ofKind "year" (.numeric .default) with
      selected := years, placeholders := Filter.placeholdersOf (.numeric .default) years }
    let search : Search := { Search.new with filters := ⟨[author, year]⟩ }
    search.Reachable ∧ (∀ filter ∈ search.filters.items, filter.kind.isBuiltIn = true) ∧
      ∃ request, search.compile (fun _ => false) .all [] = .ok request ∧
        ∀ leaf : Json → Prop, Json.SectionHolds leaf (Assoc.get? "filter" request) →
          author.Admits leaf ∧ year.Admits leaf := by
  intro eco years author year search
  have hone : (Filter.ofKind "author" (.term .default)).select [eco] = .ok author := rfl
  have htwo : (Filter.ofKind "year" (.numeric .default)).select years = .ok year := rfl
  have hreach : search.Reachable := .call (.replaceFilters [author, year])
    (List.forall_mem_cons.2 ⟨.select (.ofKind _ _) hone,
      List.forall_mem_singleton.2 (.select (.ofKind _ _) htwo)⟩) .new
  have hkind : ∀ filter ∈ search.filters.items, filter.kind.isBuiltIn = true :=
    List.forall_mem_cons.2 ⟨rfl, List.forall_mem_singleton.2 rfl⟩
  obtain ⟨request, hrequest, hmeaning⟩ := Search.compile_meaning hreach hkind fun _ => false
  refine ⟨hreach, hkind, request, hrequest, fun leaf hholds => ?_⟩
  have hasked := (hmeaning leaf).1.1 hholds
  exact ⟨hasked author List.mem_cons_self rfl,
    hasked year (List.mem_cons_of_mem _ List.mem_cons_self) rfl⟩

end FacetedSearch
