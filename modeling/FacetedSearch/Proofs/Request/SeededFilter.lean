import FacetedSearch.Proofs.Request.Build
import FacetedSearch.Proofs.Request.Condition
import FacetedSearch.Proofs.Search.Reachable

/-!
# What a seed restricts by itself

A caller can restrict the results by a filter section in the seed.  Where several
conditions are compiled, they join those that must all hold, and everything that the
section said before is still said.  Where none is compiled, the section stays as it is.

## One condition

A single condition is not joined to anything: its members are written into the section.
So it takes the place of what the section said under the same key, and the caller's
restriction is lost.  That depends on the kind of the filter and on how its values
combine: the key is `query` or `range` for one value, and the word of the combination for
several.  In particular the two values of one filter that must both hold are written over
the list of those that must hold, which they would have joined if a second filter had had a
selection too.

* `KeepsRestrictions`: nothing that a section restricts is lost;
* `Request.prefix_addMissing`, `Request.keepsRestrictions_uniteConditions`: several conditions;
* `keepsRestrictions_insert_iff`, `keepsRestrictions_insert_and_iff`: one condition;
* `Search.keepsRestrictions_compileConditions_iff`: what the pass over the conditions loses;
* `Search.restrictions_kept_iff`: when the request of a search loses nothing;
* `Search.restrictions_kept_of_single_iff`, `Search.restrictions_kept_of_apart`: what a single
  condition loses, and a seed that nothing can be lost from.
-/

namespace FacetedSearch

/-- Nothing that one filter section restricts is lost in another: every member is the same,
and whatever must hold among others still must. -/
structure KeepsRestrictions (before after : Assoc Json) : Prop where
  members : ∀ key value, key ≠ "and" → Assoc.get? key before = some value →
    Assoc.get? key after = some value
  items : ∀ items, Assoc.get? "and" before = some (.arr items) →
    ∃ items', Assoc.get? "and" after = some (.arr items') ∧ ∀ item ∈ items, item ∈ items'

namespace KeepsRestrictions

theorem refl (members : Assoc Json) : KeepsRestrictions members members where
  members := fun _ _ _ h => h
  items := fun items h => ⟨items, h, fun _ hitem => hitem⟩

end KeepsRestrictions

variable {members : Assoc Json} {key : String} {value : Json}

/-! ## One condition -/

/-- A member that is written loses what another one said under its key. -/
theorem keepsRestrictions_insert_iff (hkey : key ≠ "and") :
    KeepsRestrictions members (Assoc.insert key value members) ↔
      ∀ old, Assoc.get? key members = some old → old = value := by
  constructor
  · intro h old hold
    have hkept := h.members key old hkey hold
    rw [Assoc.get?_insert_self, Option.some.injEq] at hkept
    exact hkept.symm
  · intro h
    refine ⟨fun other old hother hold => ?_, fun items hitems => ⟨items, ?_, fun _ hitem => hitem⟩⟩
    · by_cases hsame : other = key
      · rw [hsame] at hold ⊢
        rw [Assoc.get?_insert_self, h old hold]
      · rw [Assoc.get?_insert_of_ne _ _ hsame, hold]
    · rw [Assoc.get?_insert_of_ne _ _ hkey.symm, hitems]

/-- A list that is written loses the items of another one that it does not have. -/
theorem keepsRestrictions_insert_and_iff {conditions : List Json} :
    KeepsRestrictions members (Assoc.insert "and" (.arr conditions) members) ↔
      ∀ items, Assoc.get? "and" members = some (.arr items) →
        ∀ item ∈ items, item ∈ conditions := by
  constructor
  · intro h items hitems
    obtain ⟨items', hkept, hsubset⟩ := h.items items hitems
    rw [Assoc.get?_insert_self, Option.some.injEq, Json.arr.injEq] at hkept
    rw [hkept]
    exact hsubset
  · intro h
    refine ⟨fun other old hother hold => ?_, fun items hitems => ?_⟩
    · rw [Assoc.get?_insert_of_ne _ _ hother, hold]
    · exact ⟨conditions, Assoc.get?_insert_self _ _ _, h items hitems⟩

/-- A member that is written under a new key loses nothing. -/
theorem keepsRestrictions_insert_of_absent (h : Assoc.get? key members = none) :
    KeepsRestrictions members (Assoc.insert key value members) := by
  have hne : ∀ {other document}, Assoc.get? other members = some document → other ≠ key := by
    rintro other document hother rfl
    rw [h] at hother
    cases hother
  refine ⟨fun other old _ hold => ?_, fun items hitems => ⟨items, ?_, fun _ hitem => hitem⟩⟩
  · rw [Assoc.get?_insert_of_ne _ _ (hne hold), hold]
  · rw [Assoc.get?_insert_of_ne _ _ (hne hitems), hitems]

/-! ## The keys of conditions -/

/-- The keys under which conditions are written. -/
def conditionKeys : List String := ["query", "range", "or", "and"]

theorem FilterKind.exists_single_of_condition? {kind : FilterKind} {name : String}
    {value : FacetValue} {condition : Json} (hkind : kind.isBuiltIn = true)
    (h : kind.condition? name value = some condition) :
    ∃ key ∈ conditionKeys, ∃ inner, condition = .single key inner := by
  cases kind with
  | custom other => exact absurd hkind Bool.false_ne_true
  | term options | numeric options =>
    cases value with
    | term t => exact ⟨"query", by decide, _, (Option.some.inj h).symm⟩
    | range bounds => cases h
  | range options =>
    cases value with
    | term t => cases h
    | range bounds => exact ⟨"range", by decide, _, (Option.some.inj h).symm⟩

/-- The condition of a filter is an object with one member. -/
theorem Filter.exists_single_of_condition? {flags : Flags} {filter : Filter} {condition : Json}
    (hkind : filter.kind.isBuiltIn = true) (h : filter.condition? flags = some condition) :
    ∃ key ∈ conditionKeys, ∃ inner, condition = .single key inner := by
  unfold Filter.condition? at h
  split at h
  · split at h
    · cases h
    · exact FilterKind.exists_single_of_condition? hkind h
    · split at h
      · cases h
      · refine ⟨filter.combination.word, ?_, _, (Option.some.inj h).symm⟩
        cases filter.combination <;> decide
  · cases h

/-! ## Several conditions -/

namespace Request

/-- Conditions are appended to those that are there. -/
theorem prefix_addMissing (items conditions : List Json) :
    items <+: addMissing items conditions := by
  induction conditions generalizing items with
  | nil => exact List.prefix_refl items
  | cons condition rest ih =>
    unfold addMissing at ih ⊢
    rw [List.foldl_cons]
    split
    · exact ih items
    · exact (List.prefix_append items [condition]).trans (ih _)

/-- Several conditions join those that must all hold, and nothing is lost. -/
theorem keepsRestrictions_uniteConditions {request next : Request} {conditions : List Json}
    (h : request.uniteConditions conditions = .ok next)
    (hfilter : Assoc.get? "filter" request = some (.obj members)) :
    ∃ after, Assoc.get? "filter" next = some (.obj after) ∧ KeepsRestrictions members after := by
  simp only [uniteConditions, hfilter, Option.getD_some] at h
  split at h
  · next items hitems =>
    rw [← Except.ok.inj h, Assoc.get?_insert_self]
    refine ⟨_, rfl, keepsRestrictions_insert_and_iff.2 fun held hheld item hitem => ?_⟩
    obtain rfl : held = items := by
      rw [hheld, Option.getD_some, Json.arr.injEq] at hitems
      exact hitems
    exact (prefix_addMissing held conditions).subset hitem
  · cases h

end Request

namespace Search

variable {flags : Flags} {options : RequestOptions} {search : Search} {seed request next : Request}

/-! ## The request -/

/-- The filter section is as the seed has it until the conditions are compiled. -/
theorem exists_faceted (h : search.compile flags options seed = .ok request) :
    ∃ faceted, Assoc.get? "filter" faceted = Assoc.get? "filter" seed ∧
      search.compileConditions flags options faceted = .ok request := by
  obtain ⟨asked, fielded, faceted, hasked, hfielded, hfaceted, hrequest⟩ := compile_eq_ok_iff.1 h
  refine ⟨faceted, ?_, hrequest⟩
  rw [(membersOf_of_compileFacets hfaceted).2 _ (by decide),
    get?_of_compileFields hfielded (by decide), get?_of_compileQuery hasked (by decide)]

/-- Nothing is lost where conditions are left out, where there is none or there are several,
and where the members of the only one take nothing away. -/
theorem keepsRestrictions_compileConditions_iff
    (h : search.compileConditions flags options request = .ok next)
    (hfilter : Assoc.get? "filter" request = some (.obj members)) :
    (∃ after, Assoc.get? "filter" next = some (.obj after) ∧ KeepsRestrictions members after) ↔
      options.includeFilters = false ∨ (conditions flags search.filters.items).length ≠ 1 ∨
        ∃ added, conditions flags search.filters.items = [.obj added] ∧
          KeepsRestrictions members (Assoc.extend members added) := by
  unfold compileConditions at h
  split at h
  · next hinclude =>
    have hincluded : options.includeFilters ≠ false := by
      rw [hinclude]
      exact Bool.noConfusion
    rw [or_iff_right hincluded]
    split at h
    · next hnone =>
      rw [← Except.ok.inj h, hfilter, hnone]
      exact iff_of_true ⟨members, rfl, .refl members⟩ (.inl Nat.zero_ne_one)
    · next added hone =>
      -- the members of the one condition are written into the section
      have hmerged : Assoc.get? "filter" next = some (.obj (Assoc.extend members added)) := by
        simp only [Request.extendObject, hfilter] at h
        rw [← Except.ok.inj h, Assoc.get?_insert_self]
      rw [hmerged, hone, or_iff_right fun hlength => hlength rfl]
      constructor
      · rintro ⟨after, hafter, hkeeps⟩
        obtain rfl : Assoc.extend members added = after := Json.obj.inj (Option.some.inj hafter)
        exact ⟨added, rfl, hkeeps⟩
      · rintro ⟨added', hsame, hkeeps⟩
        obtain rfl : added = added' := Json.obj.inj (List.singleton_inj.1 hsame)
        exact ⟨_, rfl, hkeeps⟩
    · next condition hshape hone =>
      -- the one condition takes the place of the section, and is no object
      rw [← Except.ok.inj h, Assoc.get?_insert_self, hone, or_iff_right fun hlength => hlength rfl]
      refine iff_of_false ?_ ?_
      · rintro ⟨after, hafter, -⟩
        exact hshape after (Option.some.inj hafter)
      · rintro ⟨added, hadded, -⟩
        exact hshape added (List.singleton_inj.1 hadded)
    · next several _ _ hone =>
      refine iff_of_true (Request.keepsRestrictions_uniteConditions h hfilter) (.inl ?_)
      intro hlength
      obtain ⟨condition, hcondition⟩ := List.length_eq_one_iff.1 hlength
      exact hone condition hcondition
  · next hexclude =>
    rw [← Except.ok.inj h, hfilter]
    exact iff_of_true ⟨members, rfl, .refl members⟩ (.inl (Bool.eq_false_iff.2 hexclude))

/-- What a single condition loses is what the seed says otherwise under its key. -/
theorem restrictions_kept_of_single_iff (h : search.compile flags options seed = .ok request)
    (hseed : Assoc.get? "filter" seed = some (.obj members))
    (hinclude : options.includeFilters = true) (hkey : key ≠ "and")
    (hone : conditions flags search.filters.items = [.single key value]) :
    (∃ after, Assoc.get? "filter" request = some (.obj after) ∧ KeepsRestrictions members after) ↔
      ∀ old, Assoc.get? key members = some old → old = value := by
  obtain ⟨faceted, hkept, hrequest⟩ := exists_faceted h
  rw [keepsRestrictions_compileConditions_iff hrequest (hkept.trans hseed), hone, hinclude,
    or_iff_right Bool.noConfusion, or_iff_right fun hlength => hlength rfl,
    ← keepsRestrictions_insert_iff hkey]
  constructor
  · rintro ⟨added, hsame, hkeeps⟩
    obtain rfl : [(key, value)] = added := Json.obj.inj (List.singleton_inj.1 hsame)
    exact hkeeps
  · exact fun hkeeps => ⟨[(key, value)], rfl, hkeeps⟩

/-- Nothing is lost from a seed that restricts by nothing that built-in filters write. -/
theorem restrictions_kept_of_apart (h : search.compile flags options seed = .ok request)
    (hkind : ∀ filter ∈ search.filters.items, filter.kind.isBuiltIn = true)
    (hseed : Assoc.get? "filter" seed = some (.obj members))
    (hapart : ∀ key ∈ conditionKeys, Assoc.get? key members = none) :
    ∃ after, Assoc.get? "filter" request = some (.obj after) ∧ KeepsRestrictions members after := by
  obtain ⟨faceted, hkept, hrequest⟩ := exists_faceted h
  rw [keepsRestrictions_compileConditions_iff hrequest (hkept.trans hseed)]
  by_cases hlength : (conditions flags search.filters.items).length = 1
  · obtain ⟨condition, hone⟩ := List.length_eq_one_iff.1 hlength
    have hmem : condition ∈ conditions flags search.filters.items := by
      rw [hone]
      exact List.mem_singleton_self condition
    obtain ⟨filter, hfilter, hcondition⟩ := List.mem_filterMap.1 hmem
    obtain ⟨key, hkey, value, rfl⟩ :=
      Filter.exists_single_of_condition? (hkind filter hfilter) hcondition
    exact .inr (.inr ⟨[(key, value)], hone,
      keepsRestrictions_insert_of_absent (hapart key hkey)⟩)
  · exact .inr (.inl hlength)

/-- **When nothing that the seed restricts is lost.**  Every member of its filter section is
in that of the request, and whatever it says must hold still must, exactly if conditions are
left out, if there is none or there are several, or if writing the members of the only one
into the section takes nothing away. -/
theorem restrictions_kept_iff (h : search.compile flags options seed = .ok request)
    (hseed : Assoc.get? "filter" seed = some (.obj members)) :
    (∃ after, Assoc.get? "filter" request = some (.obj after) ∧ KeepsRestrictions members after) ↔
      options.includeFilters = false ∨ (conditions flags search.filters.items).length ≠ 1 ∨
        ∃ added, conditions flags search.filters.items = [.obj added] ∧
          KeepsRestrictions members (Assoc.extend members added) := by
  obtain ⟨faceted, hkept, hrequest⟩ := exists_faceted h
  exact keepsRestrictions_compileConditions_iff hrequest (hkept.trans hseed)

/-- Two tags are selected that must both hold, and the seed wants results in English: the
tags are written over the language. -/
theorem restrictions_kept_iff_of_two_tags :
    let english := Json.single "term" (.single "lang" (.str "en"))
    let members : Assoc Json := [("and", .arr [english])]
    let tags : Filter := { Filter.ofKind "tags" (.term .default) with combination := .all }
    let values : List FacetValue := [.term (.text "a"), .term (.text "b")]
    let search := ((Call.select "tags" values true).reply
      ((Call.replaceFilters [tags]).reply new).search).search
    search.Reachable ∧ ∃ request,
      search.compile (fun _ => false) .all [("filter", .obj members)] = .ok request ∧
        ¬ ∃ after, Assoc.get? "filter" request = some (.obj after) ∧
          KeepsRestrictions members after := by
  intro english members tags values search
  have htags : tags.Reachable :=
    .withLook ⟨"tags", .fixed true, true, .all, "", "", true, true⟩ (.ofKind _ _)
  have hdefined : ((Call.replaceFilters [tags]).reply new).search.Reachable :=
    .call _ (List.forall_mem_singleton.2 htags) .new
  have hreach : search.Reachable := hdefined.call_of_filters_eq_nil _ rfl
  obtain ⟨request, hrequest⟩ :
      ∃ request, search.compile (fun _ => false) .all [("filter", .obj members)] = .ok request :=
    ⟨_, rfl⟩
  have hfilter : Assoc.get? "filter" [("filter", Json.obj members)] = some (.obj members) := rfl
  refine ⟨hreach, request, hrequest, ?_⟩
  rw [restrictions_kept_iff hrequest hfilter]
  let phrases := values.filterMap (TermsOptions.phrase? "tags")
  have hone : conditions (fun _ => false) search.filters.items = [.single "and" (.arr phrases)] :=
    rfl
  rw [hone]
  rintro (hexclude | hlength | ⟨added, hadded, hkeeps⟩)
  · exact Bool.noConfusion hexclude
  · exact hlength rfl
  · obtain rfl : [("and", Json.arr phrases)] = added :=
      Json.obj.inj (List.singleton_inj.1 hadded)
    have hmem : english ∈ phrases :=
      keepsRestrictions_insert_and_iff.1 hkeeps [english] rfl english (List.mem_singleton_self _)
    have hshape : ∀ phrase ∈ phrases, ∃ inner, phrase = .single "query" inner :=
      List.forall_mem_cons.2 ⟨⟨_, rfl⟩, List.forall_mem_singleton.2 ⟨_, rfl⟩⟩
    obtain ⟨inner, hinner⟩ := hshape english hmem
    have hkey : "term" = "query" :=
      (Prod.mk.inj (List.singleton_inj.1 (Json.obj.inj hinner))).1
    exact absurd hkey (by decide)

end Search
end FacetedSearch
