import FacetedSearch.Proofs.Request.Build

/-!
# A request as a list of additions

Under the passes, the fields and the filters, compiling a request is making additions to its
sections, one after the other: members to an object, an item to a list, or conditions to those
that must all hold.  Which additions these are depends on the search and on what is included,
and not on the seed.

An addition is refused if its section has the wrong shape, and one that is made leaves a section
of the right shape.  So whether a later addition is refused does not depend on the earlier ones,
even where they are made to the same section, and the seed alone decides: a request is rejected
for the first addition that the seed itself would refuse.  The conditions are the one place
where this could fail, since a single condition is merged into the section in which several are
looked for.  They are added last and in one addition, so that none follows.

* `Request.Addition`, `Request.Addition.make`: additions;
* `Request.Addition.fault?_members`, `Request.Addition.fault?_item`,
  `Request.Addition.fault?_conditions`: when they are refused;
* `Request.Addition.IsPlain.undisturbed`: additions to one section;
* `Search.additions`, `Search.compile_eq_inTurn`: the additions of a search;
* `Search.fault?_compile`: what a request is rejected for.
-/

namespace FacetedSearch
namespace Request

/-- What is added to a section of a request. -/
inductive Addition where
  /-- Members of an object. -/
  | members (key : String) (added : Assoc Json)
  /-- An item of a list. -/
  | item (key : String) (added : Json)
  /-- Conditions that must all hold. -/
  | conditions (several : List Json)
  /-- A section, whatever was there. -/
  | whole (key : String) (document : Json)

/-- The conditions that must all hold are in the filter section, and are not a list. -/
def ConditionsMisshapen (request : Request) : Prop :=
  ∃ members document, Assoc.get? "filter" request = some (.obj members) ∧
    Assoc.get? "and" members = some document ∧ ∀ items, document ≠ .arr items

namespace Addition

/-- The section that is added to. -/
def key : Addition → String
  | .members key _ | .item key _ | .whole key _ => key
  | .conditions _ => "filter"

variable {first second : Addition} {request next : Request} {fault : ConfigurationFault}
  {key : String}

/-- Makes an addition. -/
def make : Addition → Request → Except Rejection Request
  | .members key added => extendObject key added
  | .item key added => pushItem key added
  | .conditions several => uniteConditions several
  | .whole key document => fun request => .ok (Assoc.insert key document request)

theorem keepsTo_make (addition : Addition) : KeepsTo [addition.key] addition.make := by
  cases addition with
  | members key added => exact keepsTo_extendObject key added
  | item key added => exact keepsTo_pushItem key added
  | conditions several => exact keepsTo_uniteConditions several
  | whole key document => exact keepsTo_insert key document

/-! ## What is refused -/

theorem fault?_rewriteSection {rewrite : Option Json → Except ConfigurationFault Json} :
    fault? (rewriteSection key rewrite request) = some fault ↔
      rewrite (Assoc.get? key request) = .error fault := by
  unfold rewriteSection
  cases rewrite (Assoc.get? key request) with
  | ok written => exact iff_of_false nofun nofun
  | error other => rw [fault?, Option.some.injEq, Except.error.injEq]

/-- Members are refused by what is there and is not an object. -/
theorem fault?_members {added : Assoc Json} :
    fault? ((members key added).make request) = some fault ↔
      fault = .notAnObject key ∧ ¬request.Takes Json.obj key := by
  rw [make, extendObject_eq_rewriteSection, fault?_rewriteSection]
  unfold Takes
  cases Assoc.get? key request with
  | none => simp [extendedSection]
  | some document => cases document <;> simp [extendedSection, eq_comm]

/-- An item is refused by what is there and is not a list. -/
theorem fault?_item {added : Json} :
    fault? ((item key added).make request) = some fault ↔
      fault = .notAnArray key ∧ ¬request.Takes Json.arr key := by
  rw [make, pushItem_eq_rewriteSection, fault?_rewriteSection]
  unfold Takes
  cases Assoc.get? key request with
  | none => simp [pushedSection]
  | some document => cases document <;> simp [pushedSection, eq_comm]

/-- Conditions are refused by what is no object, or holds conditions that are no list. -/
theorem fault?_conditions {several : List Json} :
    fault? ((conditions several).make request) = some fault ↔
      fault = .notAnObject "filter" ∧ ¬request.Takes Json.obj "filter" ∨
      fault = .conditionsNotAnArray ∧ request.ConditionsMisshapen := by
  rw [make, uniteConditions_eq_rewriteSection, fault?_rewriteSection]
  unfold Takes ConditionsMisshapen
  cases Assoc.get? "filter" request with
  | none => simp [unitedSection]
  | some document =>
    cases document with
    | obj members =>
      cases hand : Assoc.get? "and" members with
      | none => simp [unitedSection, hand]
      | some held => cases held <;> simp [unitedSection, hand, eq_comm]
    | null | bool _ | int _ | float _ | str _ | arr _ => simp [unitedSection, eq_comm]

/-! ## One after the other -/

/-- Additions to different sections do not notice each other. -/
theorem undisturbed_of_ne (hne : first.key ≠ second.key) :
    Undisturbed first.make second.make :=
  first.keepsTo_make.undisturbed second.keepsTo_make
    (List.disjoint_singleton.2 (mt List.mem_singleton.1 hne.symm))

theorem undisturbed_members (key : String) (added more : Assoc Json) :
    Undisturbed (members key added).make (members key more).make := by
  intro request next hmake
  have hbefore : request.Takes Json.obj key := takes_of_extendObject hmake
  obtain ⟨next', hnext, hafter, -⟩ := extendObject_spec added hbefore
  obtain rfl : next' = next := Except.ok.inj (hnext.symm.trans hmake)
  ext fault
  simp only [fault?_members, hbefore, hafter]

theorem undisturbed_item (key : String) (added more : Json) :
    Undisturbed (item key added).make (item key more).make := by
  intro request next hmake
  have hbefore : request.Takes Json.arr key := takes_of_pushItem hmake
  obtain ⟨next', hnext, hafter, -⟩ := pushItem_spec added hbefore
  obtain rfl : next' = next := Except.ok.inj (hnext.symm.trans hmake)
  ext fault
  simp only [fault?_item, hbefore, hafter]

/-! ## The additions of the passes -/

/-- Additions of the passes before the last, each to a section of one shape. -/
def IsPlain : Addition → Prop
  | .members key _ => key ∈ ["query", "script_fields", "facets"]
  | .item key _ => key ∈ ["fields", "sort"]
  | .conditions _ | .whole _ _ => False

theorem IsPlain.key_ne_filter (h : first.IsPlain) : first.key ≠ "filter" := by
  have hobjects : ∀ key ∈ ["query", "script_fields", "facets"], key ≠ "filter" := by decide
  have hlists : ∀ key ∈ ["fields", "sort"], key ≠ "filter" := by decide
  cases first with
  | members key added => exact hobjects key h
  | item key added => exact hlists key h
  | conditions several => cases h
  | whole key document => cases h

/-- Such additions do not disturb each other, also in one section. -/
theorem IsPlain.undisturbed (h : first.IsPlain) (h' : second.IsPlain) :
    Undisturbed first.make second.make := by
  by_cases hsame : first.key = second.key
  · have hshapes : ∀ key ∈ ["query", "script_fields", "facets"], key ∉ ["fields", "sort"] := by
      decide
    cases first with
    | members key added =>
      cases second with
      | members other more =>
        obtain rfl : key = other := hsame
        exact undisturbed_members key added more
      | item other more =>
        obtain rfl : key = other := hsame
        exact absurd h' (hshapes key h)
      | conditions several => cases h'
      | whole other document => cases h'
    | item key added =>
      cases second with
      | members other more =>
        obtain rfl : key = other := hsame
        exact absurd h (hshapes key h')
      | item other more =>
        obtain rfl : key = other := hsame
        exact undisturbed_item key added more
      | conditions several => cases h'
      | whole other document => cases h'
    | conditions several => cases h
    | whole key document => cases h
  · exact undisturbed_of_ne hsame

end Addition
end Request

open Request

/-! ## The additions of a search -/

/-- Where a field is read, and how results are sorted by it. -/
def Field.additions (flags : Flags) (field : Field) : List Addition :=
  (match field.scriptRequest? flags, field.fieldRequest? flags with
    | some script, _ => [.members "script_fields" [(field.name, script)]]
    | none, some name => [.item "fields" name]
    | none, none => []) ++
  match field.sortRequest? flags with
    | some sort => [.item "sort" sort]
    | none => []

/-- A field appends to two lists and writes one member. -/
theorem Field.mem_additions_cases {flags : Flags} {field : Field} {addition : Addition}
    (h : addition ∈ field.additions flags) :
    (∃ key ∈ ["fields", "sort"], ∃ item, addition = .item key item) ∨
      ∃ member, addition = .members "script_fields" [member] := by
  rcases List.mem_append.1 h with hsource | hsort
  · split at hsource
    · exact .inr ⟨_, List.mem_singleton.1 hsource⟩
    · exact .inl ⟨"fields", by decide, _, List.mem_singleton.1 hsource⟩
    · cases hsource
  · split at hsort
    · exact .inl ⟨"sort", by decide, _, List.mem_singleton.1 hsort⟩
    · cases hsort

/-- The facet request of a filter, if it makes one. -/
def Filter.facetAdditions (flags : Flags) (filters : List Filter) (filter : Filter) :
    List Addition :=
  match filter.facetRequest? flags (conditionOfOthers? flags filters filter.name) with
  | some facet => [.members "facets" [(filter.name, facet)]]
  | none => []

/-- What conditions come to: none, one that is merged or stands for itself, or several. -/
def conditionAdditions : List Json → List Addition
  | [] => []
  | [.obj members] => [.members "filter" members]
  | [condition] => [.whole "filter" condition]
  | several => [.conditions several]

theorem conditionAdditions_cons_cons (first second : Json) (rest : List Json) :
    conditionAdditions (first :: second :: rest) = [.conditions (first :: second :: rest)] := by
  cases first <;> rfl

namespace Search

variable {flags : Flags} {options : RequestOptions} {search : Search} {seed : Request}

/-- The additions of the fields. -/
def fieldAdditions (flags : Flags) (options : RequestOptions) (search : Search) : List Addition :=
  if options.includeFields then search.fields.items.flatMap (Field.additions flags) else []

/-- The additions of the facets. -/
def facetAdditions (flags : Flags) (options : RequestOptions) (search : Search) : List Addition :=
  if options.includeFacets then
    search.filters.items.flatMap (Filter.facetAdditions flags search.filters.items)
  else []

/-- The addition of the conditions, if there are any. -/
def filterAdditions (flags : Flags) (options : RequestOptions) (search : Search) : List Addition :=
  if options.includeFilters then conditionAdditions (conditions flags search.filters.items) else []

/-- All that is added to a seed. -/
def additions (flags : Flags) (options : RequestOptions) (search : Search) : List Addition :=
  .members "query" search.query.members ::
    (search.fieldAdditions flags options ++
      (search.facetAdditions flags options ++ search.filterAdditions flags options))

/-- Every addition is that of the query, of a field, of a facet or of the conditions. -/
theorem mem_additions_iff {addition : Addition} :
    addition ∈ search.additions flags options ↔
      addition = .members "query" search.query.members ∨
      (options.includeFields = true ∧
        ∃ field ∈ search.fields.items, addition ∈ field.additions flags) ∨
      (options.includeFacets = true ∧
        ∃ filter ∈ search.filters.items,
          addition ∈ filter.facetAdditions flags search.filters.items) ∨
      options.includeFilters = true ∧
        addition ∈ conditionAdditions (conditions flags search.filters.items) := by
  simp only [additions, fieldAdditions, facetAdditions, filterAdditions, List.mem_cons,
    List.mem_append, List.mem_ite_nil_right, List.mem_flatMap]

theorem compileField_eq_inTurn (flags : Flags) (field : Field) (request : Request) :
    compileField flags request field = inTurn Addition.make (field.additions flags) request := by
  rw [compileField_eq, Field.additions, inTurn_append]
  refine congrArg₂ Except.bind ?_ (funext fun next => ?_)
  · unfold addSource
    cases field.scriptRequest? flags with
    | some script =>
      exact (inTurn_singleton Addition.make (.members "script_fields" _) request).symm
    | none =>
      cases field.fieldRequest? flags with
      | some name => exact (inTurn_singleton Addition.make (.item "fields" name) request).symm
      | none => rfl
  · unfold addSort
    cases field.sortRequest? flags with
    | some sort => exact (inTurn_singleton Addition.make (.item "sort" sort) next).symm
    | none => rfl

theorem compileFields_eq_inTurn :
    search.compileFields flags options =
      inTurn Addition.make (search.fieldAdditions flags options) := by
  funext request
  unfold compileFields fieldAdditions
  split
  · rw [inTurn_flatMap]
    refine congrArg (fun step => List.foldlM step request search.fields.items) ?_
    exact funext₂ fun draft field => compileField_eq_inTurn flags field draft
  · rfl

theorem compileFacet_eq_inTurn (flags : Flags) (filters : List Filter) (filter : Filter)
    (request : Request) : compileFacet flags filters request filter =
      inTurn Addition.make (filter.facetAdditions flags filters) request := by
  unfold compileFacet Filter.facetAdditions
  cases filter.facetRequest? flags (conditionOfOthers? flags filters filter.name) with
  | some facet => exact (inTurn_singleton Addition.make (.members "facets" _) request).symm
  | none => rfl

theorem compileFacets_eq_inTurn :
    search.compileFacets flags options =
      inTurn Addition.make (search.facetAdditions flags options) := by
  funext request
  unfold compileFacets facetAdditions
  split
  · rw [inTurn_flatMap]
    refine congrArg (fun step => List.foldlM step request search.filters.items) ?_
    exact funext₂ fun draft filter => compileFacet_eq_inTurn flags _ filter draft
  · rfl

theorem compileConditions_eq_inTurn :
    search.compileConditions flags options =
      inTurn Addition.make (search.filterAdditions flags options) := by
  funext request
  unfold compileConditions filterAdditions
  split
  · cases conditions flags search.filters.items with
    | nil => rfl
    | cons first rest =>
      cases rest with
      | nil =>
        cases first with
        | obj members =>
          exact (inTurn_singleton Addition.make (.members "filter" members) request).symm
        | null | bool _ | int _ | float _ | str _ | arr _ =>
          exact (inTurn_singleton Addition.make (.whole "filter" _) request).symm
      | cons second rest =>
        rw [conditionAdditions_cons_cons, inTurn_singleton]
        cases first <;> rfl
  · rfl

/-- **Compiling a request is making the additions of the search in turn.** -/
theorem compile_eq_inTurn (flags : Flags) (options : RequestOptions) (search : Search)
    (seed : Request) :
    search.compile flags options seed =
      inTurn Addition.make (search.additions flags options) seed := by
  rw [additions, inTurn_cons]
  show (search.compileQuery seed).bind _ = (search.compileQuery seed).bind _
  refine congrArg _ (funext fun asked => ?_)
  rw [inTurn_append, ← compileFields_eq_inTurn]
  refine congrArg _ (funext fun fielded => ?_)
  rw [inTurn_append, ← compileFacets_eq_inTurn, ← compileConditions_eq_inTurn]
  rfl

/-! ## What a request is rejected for -/

/-- Every addition of the fields is that of a field. -/
theorem mem_fieldAdditions_cases {addition : Addition}
    (h : addition ∈ search.fieldAdditions flags options) :
    (∃ key ∈ ["fields", "sort"], ∃ item, addition = .item key item) ∨
      ∃ member, addition = .members "script_fields" [member] := by
  unfold fieldAdditions at h
  split at h
  · obtain ⟨field, -, hfield⟩ := List.mem_flatMap.1 h
    exact Field.mem_additions_cases hfield
  · cases h

theorem isPlain_of_mem_fieldAdditions {addition : Addition}
    (h : addition ∈ search.fieldAdditions flags options) : addition.IsPlain := by
  rcases mem_fieldAdditions_cases h with ⟨key, hkey, item, rfl⟩ | ⟨member, rfl⟩
  · exact hkey
  · exact (by decide : "script_fields" ∈ ["query", "script_fields", "facets"])

theorem isPlain_of_mem_facetAdditions {addition : Addition}
    (h : addition ∈ search.facetAdditions flags options) : addition.IsPlain := by
  unfold facetAdditions at h
  split at h
  · obtain ⟨filter, -, hfilter⟩ := List.mem_flatMap.1 h
    unfold Filter.facetAdditions at hfilter
    split at hfilter
    · rw [List.mem_singleton.1 hfilter]
      exact (by decide : "facets" ∈ ["query", "script_fields", "facets"])
    · cases hfilter
  · cases h

/-- There is one addition for conditions, or none. -/
theorem filterAdditions_cases (flags : Flags) (options : RequestOptions) (search : Search) :
    search.filterAdditions flags options = [] ∨
      ∃ addition, search.filterAdditions flags options = [addition] ∧
        addition.key = "filter" := by
  unfold filterAdditions conditionAdditions
  split
  · split
    · exact .inl rfl
    all_goals exact .inr ⟨_, rfl, rfl⟩
  · exact .inl rfl

/-- No addition of a search is disturbed by those before it. -/
theorem pairwise_additions (flags : Flags) (options : RequestOptions) (search : Search) :
    (search.additions flags options).Pairwise fun first second =>
      Undisturbed first.make second.make := by
  have hplain : ∀ addition ∈ .members "query" search.query.members ::
      (search.fieldAdditions flags options ++ search.facetAdditions flags options),
      addition.IsPlain := by
    refine List.forall_mem_cons.2 ⟨?_, List.forall_mem_append.2
      ⟨fun _ => isPlain_of_mem_fieldAdditions, fun _ => isPlain_of_mem_facetAdditions⟩⟩
    exact (by decide : "query" ∈ ["query", "script_fields", "facets"])
  rw [additions, ← List.append_assoc, ← List.cons_append, List.pairwise_append]
  refine ⟨List.pairwise_of_forall_mem_list fun first hfirst second hsecond =>
    (hplain first hfirst).undisturbed (hplain second hsecond), ?_, ?_⟩
  · rcases filterAdditions_cases flags options search with hnone | ⟨last, hlast, -⟩
    · rw [hnone]
      exact .nil
    · rw [hlast]
      exact List.pairwise_singleton _ _
  · intro first hfirst last hmem
    rcases filterAdditions_cases flags options search with hnone | ⟨added, hadded, hkey⟩
    · rw [hnone] at hmem
      cases hmem
    · rw [hadded, List.mem_singleton] at hmem
      refine Addition.undisturbed_of_ne ?_
      rw [hmem, hkey]
      exact (hplain first hfirst).key_ne_filter

/-- **A request is rejected for the first addition that the seed refuses**, if there is one. -/
theorem fault?_compile (flags : Flags) (options : RequestOptions) (search : Search)
    (seed : Request) :
    fault? (search.compile flags options seed) =
      (search.additions flags options).findSome? fun addition => fault? (addition.make seed) := by
  rw [compile_eq_inTurn]
  exact fault?_inTurn (pairwise_additions flags options search) seed

end Search
end FacetedSearch
