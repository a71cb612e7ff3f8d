import FacetedSearch.Proofs.Request.Footprint
import FacetedSearch.Request.Build

/-!
# What the passes of a request do

Each pass adds to sections of its own: the query to one, the fields to three, the facets
and the conditions to one each.  So the sections of a compiled request can be looked at one
by one, each after its own pass alone, and everything else that the seed holds is still
there in the end.

A seed may hold some of these sections itself.  A pass is rejected if such a section is of
the wrong shape.  A seed that has none of them is never rejected, whatever the search is and
whatever is included.

* `sectionKeys`: the sections that are compiled;
* `facetEntries`, `conditionsSection?`: what the facets and the conditions come to;
* `Search.keepsTo_compileQuery`, …, `Search.keepsTo_compileConditions`: each pass keeps to its
  sections;
* `Search.get?_of_compileFields`, `Search.membersOf_of_compileFacets`,
  `Search.get?_of_compileConditions`: what a pass does that is not rejected;
* `Search.compileFields_spec`, `Search.compileFacets_spec`,
  `Search.compileConditions_spec`: a pass over sections that can take what it adds;
* `Search.compile_eq_ok_iff`: the passes one after the other;
* `Search.Compiled`, `Search.compile_spec`: the request of a search.
-/

namespace FacetedSearch

/-- The sections that fields ask for. -/
def fieldKeys : List String := ["script_fields", "fields", "sort"]

/-- The sections that are compiled. -/
def sectionKeys : List String := "query" :: "facets" :: "filter" :: fieldKeys

/-- The facet requests by the names of the filters that make one. -/
def facetEntries (flags : Flags) (filters asking : List Filter) : Assoc Json :=
  asking.filterMap fun filter =>
    (filter.facetRequest? flags (conditionOfOthers? flags filters filter.name)).map fun facet =>
      (filter.name, facet)

theorem facetEntries_append {flags : Flags} {filters : List Filter} (first second : List Filter) :
    facetEntries flags filters (first ++ second) =
      facetEntries flags filters first ++ facetEntries flags filters second :=
  List.filterMap_append

theorem facetEntries_cons {flags : Flags} {filters : List Filter} (filter : Filter)
    (rest : List Filter) :
    facetEntries flags filters (filter :: rest) =
      ((filter.facetRequest? flags (conditionOfOthers? flags filters filter.name)).map
        fun facet => (filter.name, facet)).toList ++ facetEntries flags filters rest := by
  unfold facetEntries
  rw [List.filterMap_cons]
  cases filter.facetRequest? flags (conditionOfOthers? flags filters filter.name) <;> rfl

/-- What conditions make of a filter section that is absent. -/
def conditionsSection? : List Json → Option Json
  | [] => none
  | [.obj members] => some (.obj (Assoc.extend [] members))
  | [condition] => some condition
  | several => some (.single "and" (.arr (Request.addMissing [] several)))

theorem conditionsSection?_cons_cons (first second : Json) (rest : List Json) :
    conditionsSection? (first :: second :: rest) =
      some (.single "and" (.arr (Request.addMissing [] (first :: second :: rest)))) := by
  cases first <;> rfl

namespace Search

variable {flags : Flags} {options : RequestOptions} {search : Search} {request next : Request}
  {key : String}

/-! ## The query -/

theorem keepsTo_compileQuery (search : Search) :
    Request.KeepsTo ["query"] search.compileQuery := Request.keepsTo_extendObject _ _

/-- The query changes no section but its own. -/
theorem get?_of_compileQuery (h : search.compileQuery request = .ok next) (hkey : key ≠ "query") :
    Assoc.get? key next = Assoc.get? key request :=
  search.keepsTo_compileQuery.get?_of_ok h (mt List.mem_singleton.1 hkey)

theorem compileQuery_spec (search : Search) (htakes : request.Takes Json.obj "query") :
    ∃ next, search.compileQuery request = .ok next ∧
      ∀ other, other ≠ "query" → Assoc.get? other next = Assoc.get? other request := by
  obtain ⟨next, hnext, -⟩ := Request.extendObject_spec search.query.members htakes
  exact ⟨next, hnext, fun _ hother => get?_of_compileQuery hnext hother⟩

/-! ## The fields -/

/-- The sections that fields ask for can take what they ask for. -/
structure TakesFields (request : Request) : Prop where
  scripts : request.Takes Json.obj "script_fields"
  lists : ∀ key ∈ ["fields", "sort"], request.Takes Json.arr key

/-- The fields added to a request may only have changed the sections that they ask for. -/
def FieldsAdded (before after : Request) : Prop :=
  TakesFields after ∧ ∀ other, other ∉ fieldKeys → Assoc.get? other after = Assoc.get? other before

/-- Adds where a field is read. -/
def addSource (flags : Flags) (field : Field) (request : Request) : Except Rejection Request :=
  match field.scriptRequest? flags, field.fieldRequest? flags with
  | some script, _ => request.extendObject "script_fields" [(field.name, script)]
  | none, some name => request.pushItem "fields" name
  | none, none => .ok request

/-- Adds that results are sorted by a field, if they are. -/
def addSort (flags : Flags) (field : Field) (request : Request) : Except Rejection Request :=
  match field.sortRequest? flags with
  | some sort => request.pushItem "sort" sort
  | none => .ok request

theorem compileField_eq (flags : Flags) (field : Field) (request : Request) :
    compileField flags request field =
      (addSource flags field request).bind (addSort flags field) := by
  unfold compileField addSource
  cases field.scriptRequest? flags with
  | some script => rfl
  | none =>
    cases field.fieldRequest? flags with
    | some name => rfl
    | none => rfl

theorem keepsTo_addSource (flags : Flags) (field : Field) :
    Request.KeepsTo fieldKeys (addSource flags field) := by
  unfold addSource
  split
  · exact (Request.keepsTo_extendObject _ _).mono (by decide)
  · exact (Request.keepsTo_pushItem _ _).mono (by decide)
  · exact .ok

theorem keepsTo_addSort (flags : Flags) (field : Field) :
    Request.KeepsTo fieldKeys (addSort flags field) := by
  unfold addSort
  split
  · exact (Request.keepsTo_pushItem _ _).mono (by decide)
  · exact .ok

theorem keepsTo_compileFields (flags : Flags) (options : RequestOptions) (search : Search) :
    Request.KeepsTo fieldKeys (search.compileFields flags options) := by
  unfold compileFields
  split
  · refine .foldlM (fun field => ?_) search.fields.items
    simp only [compileField_eq]
    exact (keepsTo_addSource flags field).bind (keepsTo_addSort flags field)
  · exact .ok

/-- The fields change no section but their own. -/
theorem get?_of_compileFields (h : search.compileFields flags options request = .ok next)
    (hkey : key ∉ fieldKeys) : Assoc.get? key next = Assoc.get? key request :=
  (keepsTo_compileFields flags options search).get?_of_ok h hkey

theorem exists_extendScripts (h : TakesFields request) (members : Assoc Json) :
    ∃ next, request.extendObject "script_fields" members = .ok next ∧ TakesFields next := by
  obtain ⟨next, hnext, htakes, -, hframe⟩ := Request.extendObject_spec members h.scripts
  have hlists : ∀ key ∈ ["fields", "sort"], key ≠ "script_fields" := by decide
  exact ⟨next, hnext, htakes, fun key hkey =>
    Request.takes_congr (hframe key (hlists key hkey)) (h.lists key hkey)⟩

theorem exists_pushList (h : TakesFields request) (hkey : key ∈ ["fields", "sort"])
    (item : Json) : ∃ next, request.pushItem key item = .ok next ∧ TakesFields next := by
  obtain ⟨next, hnext, htakes, hframe⟩ := Request.pushItem_spec item (h.lists key hkey)
  have hscripts : "script_fields" ≠ key := by
    rintro rfl
    exact absurd hkey (by decide)
  refine ⟨next, hnext, Request.takes_congr (hframe _ hscripts) h.scripts, fun other hother => ?_⟩
  by_cases hsame : other = key
  · rw [hsame]
    exact htakes
  · exact Request.takes_congr (hframe other hsame) (h.lists other hother)

theorem exists_addSource (flags : Flags) (field : Field) (h : TakesFields request) :
    ∃ next, addSource flags field request = .ok next ∧ TakesFields next := by
  unfold addSource
  split
  · exact exists_extendScripts h _
  · exact exists_pushList h (by decide) _
  · exact ⟨request, rfl, h⟩

theorem exists_addSort (flags : Flags) (field : Field) (h : TakesFields request) :
    ∃ next, addSort flags field request = .ok next ∧ TakesFields next := by
  unfold addSort
  split
  · exact exists_pushList h (by decide) _
  · exact ⟨request, rfl, h⟩

/-- Sections that can take what one field asks for can take what the next does. -/
theorem exists_compileField (flags : Flags) (field : Field) (h : TakesFields request) :
    ∃ next, compileField flags request field = .ok next ∧ TakesFields next := by
  obtain ⟨middle, hmiddle, htakes⟩ := exists_addSource flags field h
  obtain ⟨next, hnext, htakes'⟩ := exists_addSort flags field htakes
  exact ⟨next, by rw [compileField_eq, hmiddle]; exact hnext, htakes'⟩

/-- Fields are not rejected by sections that can take what they ask for. -/
theorem compileFields_spec (flags : Flags) (options : RequestOptions) (search : Search)
    (h : TakesFields request) :
    ∃ next, search.compileFields flags options request = .ok next ∧ FieldsAdded request next := by
  obtain ⟨next, hnext, htakes⟩ :
      ∃ next, search.compileFields flags options request = .ok next ∧ TakesFields next := by
    unfold compileFields
    split
    · exact Fallible.exists_foldlM_eq_ok (P := TakesFields)
        (fun _ field _ hstate => exists_compileField flags field hstate) h
    · exact ⟨request, rfl, h⟩
  exact ⟨next, hnext, htakes, fun _ hother => get?_of_compileFields hnext hother⟩

/-! ## The facets -/

/-- The facet requests that the filters of a search ask for, if they are included. -/
def facetsAsked (flags : Flags) (options : RequestOptions) (search : Search) : Assoc Json :=
  if options.includeFacets then facetEntries flags search.filters.items search.filters.items
  else []

/-- Facet requests that are added one by one are added together, if there are any. -/
theorem foldlM_compileFacet (flags : Flags) (filters asking : List Filter) (request : Request) :
    asking.foldlM (compileFacet flags filters) request =
      if facetEntries flags filters asking = [] then .ok request
      else request.extendObject "facets" (facetEntries flags filters asking) := by
  induction asking generalizing request with
  | nil => rfl
  | cons filter rest ih =>
    have hrest : rest.foldlM (compileFacet flags filters) = fun request =>
        if facetEntries flags filters rest = [] then .ok request
        else request.extendObject "facets" (facetEntries flags filters rest) := funext ih
    rw [List.foldlM_cons, hrest, facetEntries_cons]
    unfold compileFacet
    cases filter.facetRequest? flags (conditionOfOthers? flags filters filter.name) with
    | none => rfl
    | some facet =>
      rw [Option.map_some, Option.toList_some, List.singleton_append,
        if_neg (List.cons_ne_nil _ _)]
      by_cases hnone : facetEntries flags filters rest = []
      · simp only [hnone, if_true]
        exact bind_pure _
      · simp only [hnone, if_false]
        exact (Request.extendObject_append [(filter.name, facet)] _ request).symm

/-- The facet requests are added in the order of the filters. -/
theorem membersOf_of_compileFacetsOf {filters asking : List Filter}
    (h : asking.foldlM (compileFacet flags filters) request = .ok next) :
    next.membersOf "facets" =
        Assoc.extend (request.membersOf "facets") (facetEntries flags filters asking) ∧
      ∀ other, other ≠ "facets" → Assoc.get? other next = Assoc.get? other request := by
  rw [foldlM_compileFacet] at h
  split at h
  · next hnone =>
    rw [hnone, ← Except.ok.inj h]
    exact ⟨rfl, fun _ _ => rfl⟩
  · exact Request.extendObject_of_ok h

/-- If facets are included, every filter adds its facet request; nothing else changes. -/
theorem membersOf_of_compileFacets (h : search.compileFacets flags options request = .ok next) :
    next.membersOf "facets" =
        Assoc.extend (request.membersOf "facets") (search.facetsAsked flags options) ∧
      ∀ other, other ≠ "facets" → Assoc.get? other next = Assoc.get? other request := by
  unfold compileFacets at h
  unfold facetsAsked
  split at h
  · next hinclude =>
    rw [if_pos hinclude]
    exact membersOf_of_compileFacetsOf h
  · next hexclude =>
    rw [if_neg hexclude, ← Except.ok.inj h]
    exact ⟨rfl, fun _ _ => rfl⟩

theorem keepsTo_compileFacets (flags : Flags) (options : RequestOptions) (search : Search) :
    Request.KeepsTo ["facets"] (search.compileFacets flags options) := by
  unfold compileFacets
  split
  · refine .foldlM (fun filter => ?_) search.filters.items
    unfold compileFacet
    split
    · exact Request.keepsTo_extendObject _ _
    · exact .ok
  · exact .ok

/-- Facets that can take one facet request can take the next. -/
theorem exists_compileFacet (flags : Flags) (filters : List Filter) (filter : Filter)
    (h : request.Takes Json.obj "facets") :
    ∃ next, compileFacet flags filters request filter = .ok next ∧
      next.Takes Json.obj "facets" := by
  unfold compileFacet
  split
  · next facet _ =>
    obtain ⟨next, hnext, htakes, -⟩ := Request.extendObject_spec [(filter.name, facet)] h
    exact ⟨next, hnext, htakes⟩
  · exact ⟨request, rfl, h⟩

/-- Facets are not rejected by a section that can take them. -/
theorem compileFacets_spec (flags : Flags) (options : RequestOptions) (search : Search)
    (h : request.Takes Json.obj "facets") :
    ∃ next, search.compileFacets flags options request = .ok next ∧
      (options.includeFacets = true → next.membersOf "facets" =
        Assoc.extend (request.membersOf "facets")
          (facetEntries flags search.filters.items search.filters.items)) ∧
      ∀ other, other ≠ "facets" → Assoc.get? other next = Assoc.get? other request := by
  obtain ⟨next, hnext⟩ : ∃ next, search.compileFacets flags options request = .ok next := by
    unfold compileFacets
    split
    · obtain ⟨next, hnext, -⟩ := Fallible.exists_foldlM_eq_ok
        (P := Request.Takes Json.obj "facets")
        (fun _ filter _ hstate => exists_compileFacet flags _ filter hstate) h
      exact ⟨next, hnext⟩
    · exact ⟨request, rfl⟩
  obtain ⟨hmembers, hframe⟩ := membersOf_of_compileFacets hnext
  refine ⟨next, hnext, fun hinclude => ?_, hframe⟩
  rw [hmembers, facetsAsked, if_pos hinclude]

/-! ## The conditions -/

theorem keepsTo_compileConditions (flags : Flags) (options : RequestOptions) (search : Search) :
    Request.KeepsTo ["filter"] (search.compileConditions flags options) := by
  unfold compileConditions
  split
  · split
    · exact .ok
    · exact Request.keepsTo_extendObject _ _
    · exact Request.keepsTo_insert _ _
    · exact Request.keepsTo_uniteConditions _
  · exact .ok

/-- The conditions change no section but their own. -/
theorem get?_of_compileConditions (h : search.compileConditions flags options request = .ok next)
    (hkey : key ≠ "filter") : Assoc.get? key next = Assoc.get? key request :=
  (keepsTo_compileConditions flags options search).get?_of_ok h (mt List.mem_singleton.1 hkey)

/-- Onto a seed without conditions, the conditions are never rejected. -/
theorem compileConditions_spec (flags : Flags) (options : RequestOptions) (search : Search)
    (h : Assoc.get? "filter" request = none) :
    ∃ next, search.compileConditions flags options request = .ok next ∧
      (options.includeFilters = true → Assoc.get? "filter" next =
        conditionsSection? (conditions flags search.filters.items)) ∧
      ∀ other, other ≠ "filter" → Assoc.get? other next = Assoc.get? other request := by
  unfold compileConditions
  by_cases hinclude : options.includeFilters = true
  · rw [if_pos hinclude]
    have hwritten : ∀ condition : Json,
        Assoc.get? "filter" (Assoc.insert "filter" condition request) = some condition ∧
          ∀ other, other ≠ "filter" →
            Assoc.get? other (Assoc.insert "filter" condition request) =
              Assoc.get? other request :=
      fun condition => ⟨Assoc.get?_insert_self _ _ _, fun _ => Assoc.get?_insert_of_ne _ _⟩
    cases hconditions : conditions flags search.filters.items with
    | nil => exact ⟨request, rfl, fun _ => h, fun _ _ => rfl⟩
    | cons first rest =>
      cases rest with
      | nil =>
        cases first with
        | obj members =>
          refine ⟨_, ?_, fun _ => (hwritten _).1, (hwritten _).2⟩
          simp only [Request.extendObject, h]
        | null | bool _ | int _ | float _ | str _ | arr _ =>
          exact ⟨_, rfl, fun _ => (hwritten _).1, (hwritten _).2⟩
      | cons second rest =>
        rw [conditionsSection?_cons_cons]
        refine ⟨_, ?_, fun _ => (hwritten _).1, (hwritten _).2⟩
        simp only [Request.uniteConditions, h, Option.getD_none, Assoc.get?_nil, Assoc.insert_nil,
          Json.single]
  · rw [if_neg hinclude]
    exact ⟨request, rfl, fun htrue => absurd htrue hinclude, fun _ _ => rfl⟩

/-! ## The request -/

/-- A request that is not rejected went through every pass. -/
theorem compile_eq_ok_iff {seed : Request} :
    search.compile flags options seed = .ok request ↔
      ∃ asked fielded faceted, search.compileQuery seed = .ok asked ∧
        search.compileFields flags options asked = .ok fielded ∧
        search.compileFacets flags options fielded = .ok faceted ∧
        search.compileConditions flags options faceted = .ok request := by
  have hcompile : search.compile flags options seed =
      (search.compileQuery seed).bind fun asked =>
        (search.compileFields flags options asked).bind fun fielded =>
          (search.compileFacets flags options fielded).bind
            (search.compileConditions flags options) := rfl
  simp only [hcompile, Fallible.bind_eq_ok_iff, exists_and_left]

/-- What a request is that was compiled onto a seed without sections of its own. -/
structure Compiled (flags : Flags) (options : RequestOptions) (search : Search)
    (seed request : Request) : Prop where
  kept : ∀ key, key ∉ sectionKeys → Assoc.get? key request = Assoc.get? key seed
  facets : options.includeFacets = true → request.membersOf "facets" =
    Assoc.extend [] (facetEntries flags search.filters.items search.filters.items)
  conditions : options.includeFilters = true → Assoc.get? "filter" request =
    conditionsSection? (conditions flags search.filters.items)

/-- **A seed without sections of its own is never rejected.** -/
theorem compile_spec (flags : Flags) (options : RequestOptions) (search : Search) {seed : Request}
    (h : ∀ key ∈ sectionKeys, Assoc.get? key seed = none) :
    ∃ request, search.compile flags options seed = .ok request ∧
      search.Compiled flags options seed request := by
  obtain ⟨asked, hasked, hframe₁⟩ :=
    search.compileQuery_spec (Request.takes_of_absent (h "query" (by decide)))
  have habsent : ∀ key, key ≠ "query" → key ∈ sectionKeys → Assoc.get? key asked = none :=
    fun key hne hkey => (hframe₁ key hne).trans (h key hkey)
  have hlists : ∀ key ∈ ["fields", "sort"], key ≠ "query" ∧ key ∈ sectionKeys := by decide
  have htakes : TakesFields asked :=
    ⟨Request.takes_of_absent (habsent _ (by decide) (by decide)), fun key hkey =>
      Request.takes_of_absent (habsent key (hlists key hkey).1 (hlists key hkey).2)⟩
  obtain ⟨fielded, hfielded, -, hframe₂⟩ := compileFields_spec flags options search htakes
  have hfacets : Assoc.get? "facets" fielded = none := by
    rw [hframe₂ _ (by decide)]
    exact habsent _ (by decide) (by decide)
  obtain ⟨faceted, hfaceted, hmembers, hframe₃⟩ :=
    compileFacets_spec flags options search (Request.takes_of_absent hfacets)
  have hfilter : Assoc.get? "filter" faceted = none := by
    rw [hframe₃ _ (by decide), hframe₂ _ (by decide)]
    exact habsent _ (by decide) (by decide)
  obtain ⟨request, hrequest, hconditions, hframe₄⟩ :=
    compileConditions_spec flags options search hfilter
  refine ⟨request, compile_eq_ok_iff.2 ⟨asked, fielded, faceted, hasked, hfielded, hfaceted,
    hrequest⟩, ?_, ?_, hconditions⟩
  · intro key hkey
    have hne : ∀ other ∈ sectionKeys, key ≠ other := fun other hother heq => hkey (heq ▸ hother)
    have hfield : key ∉ fieldKeys := fun hmem => hkey (by
      exact List.mem_cons_of_mem _ (List.mem_cons_of_mem _ (List.mem_cons_of_mem _ hmem)))
    rw [hframe₄ key (hne _ (by decide)), hframe₃ key (hne _ (by decide)), hframe₂ key hfield,
      hframe₁ key (hne _ (by decide))]
  · intro hinclude
    have hkept : request.membersOf "facets" = faceted.membersOf "facets" :=
      Request.membersOf_congr (hframe₄ _ (by decide))
    rw [hkept, hmembers hinclude, Request.membersOf_of_absent hfacets]

end Search
end FacetedSearch
