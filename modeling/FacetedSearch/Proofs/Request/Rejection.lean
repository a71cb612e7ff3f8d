import FacetedSearch.Proofs.Request.Additions
import FacetedSearch.Proofs.Request.Recount
import FacetedSearch.Proofs.Request.SeededFilter
import FacetedSearch.Proofs.Search.Brackets

/-!
# Which seeds are rejected

A request is compiled onto a seed, and six sections of the seed can stand in the way, one of
them in two ways.  None of them is looked at unless something is added to it, so whether a seed
is rejected depends on what is included, on which fields and filters are on, and on how many
selections there are: a single selection is merged into the filter section, whatever conditions
are there, and only several are added to a list of conditions.

The selections are counted, not their conditions.  For the kinds of filters that are built in
the two are as many, since a value in the form in which they select it always has a condition;
a kind of its own may have none for some values, or one that is not an object.

* `Field.exists_refused_iff`, `Filter.exists_refused_iff`,
  `exists_refused_conditionAdditions_iff`: what a seed refuses of a field, of a facet and of the
  conditions;
* `Search.selecting`, `Search.length_conditions`: as many conditions as selections;
* `Search.Misfit`: the sections that stand in the way;
* `Search.Reachable.compile_rejected_iff_misfit`: when a request is rejected, and for what.
-/

namespace FacetedSearch

open Request

variable {flags : Flags} {options : RequestOptions} {seed : Request} {fault : ConfigurationFault}

/-! ## What is refused of one item -/

/-- What a seed refuses of a field. -/
theorem Field.exists_refused_iff (field : Field) :
    (∃ addition ∈ field.additions flags, fault? (addition.make seed) = some fault) ↔
      field.enabled.isOn flags = true ∧
        (field.isScripted = false ∧ fault = .notAnArray "fields" ∧
            ¬seed.Takes Json.arr "fields" ∨
          field.isScripted = true ∧ fault = .notAnObject "script_fields" ∧
            ¬seed.Takes Json.obj "script_fields" ∨
          field.isSorted = true ∧ fault = .notAnArray "sort" ∧ ¬seed.Takes Json.arr "sort") := by
  unfold additions scriptRequest? fieldRequest? sortRequest? isScripted isSorted
  cases field.enabled.isOn flags with
  | false => simp
  | true =>
    cases field.script <;> cases field.sort <;>
      simp [Addition.fault?_members, Addition.fault?_item]

/-- What a seed refuses of a facet. -/
theorem Filter.exists_refused_iff (filters : List Filter) (filter : Filter) :
    (∃ addition ∈ filter.facetAdditions flags filters,
        fault? (addition.make seed) = some fault) ↔
      filter.enabled.isOn flags = true ∧ fault = .notAnObject "facets" ∧
        ¬seed.Takes Json.obj "facets" := by
  rw [← filter.isSome_facetRequest? (conditionOfOthers? flags filters filter.name)]
  unfold facetAdditions
  cases filter.facetRequest? flags (conditionOfOthers? flags filters filter.name) with
  | none => simp
  | some facet => simp [Addition.fault?_members]

/-- What a seed refuses of conditions that are objects. -/
theorem exists_refused_conditionAdditions_iff {conditions : List Json}
    (hobjects : ∀ condition ∈ conditions, ∃ members, condition = .obj members) :
    (∃ addition ∈ conditionAdditions conditions, fault? (addition.make seed) = some fault) ↔
      1 ≤ conditions.length ∧ fault = .notAnObject "filter" ∧ ¬seed.Takes Json.obj "filter" ∨
      2 ≤ conditions.length ∧ fault = .conditionsNotAnArray ∧ seed.ConditionsMisshapen := by
  cases conditions with
  | nil => simp [conditionAdditions]
  | cons first rest =>
    cases rest with
    | nil =>
      obtain ⟨members, rfl⟩ := hobjects first List.mem_cons_self
      simp [conditionAdditions, Addition.fault?_members]
    | cons second rest =>
      simp [conditionAdditions_cons_cons, Addition.fault?_conditions]

/-! ## As many conditions as selections -/

/-- A filter has a condition exactly if it is on and has a selection. -/
theorem Filter.isSome_condition? {filter : Filter} (settled : filter.Settled)
    (hkind : filter.kind.isBuiltIn = true) :
    (filter.condition? flags).isSome = (filter.enabled.isOn flags && filter.hasSelection) := by
  cases hon : filter.enabled.isOn flags with
  | false =>
    rw [condition?, hon]
    rfl
  | true =>
    unfold hasSelection
    rcases condition?_cases settled hkind hon with
      ⟨hnil, hnone⟩ | ⟨first, rest, hselected, -, -, hcombined | ⟨-, hsingle⟩⟩
    · rw [hnil, hnone]
      rfl
    · rw [hcombined, List.isEmpty_eq_false_iff.2 hselected]
      rfl
    · rw [hsingle, List.isEmpty_eq_false_iff.2 hselected]
      rfl

namespace Search

variable {search : Search}

/-- The filters that are on and have a selection. -/
def selecting (flags : Flags) (search : Search) : List Filter :=
  search.filters.items.filter fun filter => filter.enabled.isOn flags && filter.hasSelection

/-- The filters are of the kinds that are built in, and hold what these select. -/
structure HoldsBuiltIn (search : Search) : Prop where
  kinds : ∀ filter ∈ search.filters.items, filter.kind.isBuiltIn = true
  settled : ∀ filter ∈ search.filters.items, filter.Settled

theorem length_conditions (h : search.HoldsBuiltIn) :
    (conditions flags search.filters.items).length = (search.selecting flags).length := by
  rw [conditions, selecting, List.length_filterMap_eq_countP, List.countP_eq_length_filter]
  refine congrArg List.length (List.filter_congr fun filter hfilter => ?_)
  exact Filter.isSome_condition? (h.settled filter hfilter) (h.kinds filter hfilter)

theorem exists_obj_of_mem_conditions (h : search.HoldsBuiltIn) {condition : Json}
    (hmem : condition ∈ conditions flags search.filters.items) :
    ∃ members, condition = .obj members := by
  obtain ⟨filter, hfilter, hcondition⟩ := List.mem_filterMap.1 hmem
  obtain ⟨key, -, inner, rfl⟩ :=
    Filter.exists_single_of_condition? (h.kinds filter hfilter) hcondition
  exact ⟨_, rfl⟩

/-- What a seed refuses of the conditions of a search. -/
theorem exists_refused_conditions_iff (h : search.HoldsBuiltIn) :
    (∃ addition ∈ conditionAdditions (conditions flags search.filters.items),
        fault? (addition.make seed) = some fault) ↔
      1 ≤ (search.selecting flags).length ∧ fault = .notAnObject "filter" ∧
          ¬seed.Takes Json.obj "filter" ∨
        2 ≤ (search.selecting flags).length ∧ fault = .conditionsNotAnArray ∧
          seed.ConditionsMisshapen := by
  rw [← length_conditions h]
  exact exists_refused_conditionAdditions_iff fun _ hmem => exists_obj_of_mem_conditions h hmem

/-! ## What stands in the way -/

/-- The sections of a seed that stand in the way of a request, with what is reported. -/
inductive Misfit (flags : Flags) (options : RequestOptions) (search : Search) (seed : Request) :
    ConfigurationFault → Prop
  | query : ¬seed.Takes Json.obj "query" → Misfit flags options search seed (.notAnObject "query")
  | fields {field : Field} : options.includeFields = true → field ∈ search.fields.items →
      field.enabled.isOn flags = true → field.isScripted = false →
      ¬seed.Takes Json.arr "fields" → Misfit flags options search seed (.notAnArray "fields")
  | scripts {field : Field} : options.includeFields = true → field ∈ search.fields.items →
      field.enabled.isOn flags = true → field.isScripted = true →
      ¬seed.Takes Json.obj "script_fields" →
      Misfit flags options search seed (.notAnObject "script_fields")
  | sort {field : Field} : options.includeFields = true → field ∈ search.fields.items →
      field.enabled.isOn flags = true → field.isSorted = true →
      ¬seed.Takes Json.arr "sort" → Misfit flags options search seed (.notAnArray "sort")
  | facets {filter : Filter} : options.includeFacets = true → filter ∈ search.filters.items →
      filter.enabled.isOn flags = true → ¬seed.Takes Json.obj "facets" →
      Misfit flags options search seed (.notAnObject "facets")
  | filter : options.includeFilters = true → 1 ≤ (search.selecting flags).length →
      ¬seed.Takes Json.obj "filter" → Misfit flags options search seed (.notAnObject "filter")
  | conditions : options.includeFilters = true → 2 ≤ (search.selecting flags).length →
      seed.ConditionsMisshapen → Misfit flags options search seed .conditionsNotAnArray

/-- **A seed refuses an addition exactly if it stands in the way.** -/
theorem exists_refused_iff (h : search.HoldsBuiltIn) :
    (∃ addition ∈ search.additions flags options, fault? (addition.make seed) = some fault) ↔
      search.Misfit flags options seed fault := by
  constructor
  · rintro ⟨addition, hmem, hfault⟩
    rcases mem_additions_iff.1 hmem with rfl | ⟨hinclude, field, hfield, hmem⟩ |
      ⟨hinclude, filter, hfilter, hmem⟩ | ⟨hinclude, hmem⟩
    · obtain ⟨rfl, htakes⟩ := Addition.fault?_members.1 hfault
      exact .query htakes
    · obtain ⟨hon, ⟨hplain, rfl, htakes⟩ | ⟨hscript, rfl, htakes⟩ | ⟨hsort, rfl, htakes⟩⟩ :=
        field.exists_refused_iff.1 ⟨addition, hmem, hfault⟩
      · exact .fields hinclude hfield hon hplain htakes
      · exact .scripts hinclude hfield hon hscript htakes
      · exact .sort hinclude hfield hon hsort htakes
    · obtain ⟨hon, rfl, htakes⟩ :=
        (filter.exists_refused_iff search.filters.items).1 ⟨addition, hmem, hfault⟩
      exact .facets hinclude hfilter hon htakes
    · obtain ⟨hone, rfl, htakes⟩ | ⟨htwo, rfl, hmisshapen⟩ :=
        (exists_refused_conditions_iff h).1 ⟨addition, hmem, hfault⟩
      · exact .filter hinclude hone htakes
      · exact .conditions hinclude htwo hmisshapen
  · have hfields : ∀ field ∈ search.fields.items, options.includeFields = true →
        (∃ addition ∈ field.additions flags, fault? (addition.make seed) = some fault) →
        ∃ addition ∈ search.additions flags options,
          fault? (addition.make seed) = some fault := by
      rintro field hfield hinclude ⟨addition, hmem, hfault⟩
      exact ⟨addition, mem_additions_iff.2 (.inr (.inl ⟨hinclude, field, hfield, hmem⟩)), hfault⟩
    have hconditions : options.includeFilters = true →
        (∃ addition ∈ conditionAdditions (conditions flags search.filters.items),
          fault? (addition.make seed) = some fault) →
        ∃ addition ∈ search.additions flags options,
          fault? (addition.make seed) = some fault := by
      rintro hinclude ⟨addition, hmem, hfault⟩
      exact ⟨addition, mem_additions_iff.2 (.inr (.inr (.inr ⟨hinclude, hmem⟩))), hfault⟩
    intro hmisfit
    cases hmisfit with
    | query htakes =>
      exact ⟨_, mem_additions_iff.2 (.inl rfl), Addition.fault?_members.2 ⟨rfl, htakes⟩⟩
    | @fields field hinclude hfield hon hplain htakes =>
      exact hfields field hfield hinclude
        (field.exists_refused_iff.2 ⟨hon, .inl ⟨hplain, rfl, htakes⟩⟩)
    | @scripts field hinclude hfield hon hscript htakes =>
      exact hfields field hfield hinclude
        (field.exists_refused_iff.2 ⟨hon, .inr (.inl ⟨hscript, rfl, htakes⟩)⟩)
    | @sort field hinclude hfield hon hsort htakes =>
      exact hfields field hfield hinclude
        (field.exists_refused_iff.2 ⟨hon, .inr (.inr ⟨hsort, rfl, htakes⟩)⟩)
    | @facets filter hinclude hfilter hon htakes =>
      obtain ⟨addition, hmem, hfault⟩ :=
        (filter.exists_refused_iff search.filters.items).2 ⟨hon, rfl, htakes⟩
      exact ⟨addition,
        mem_additions_iff.2 (.inr (.inr (.inl ⟨hinclude, filter, hfilter, hmem⟩))), hfault⟩
    | filter hinclude hone htakes =>
      exact hconditions hinclude ((exists_refused_conditions_iff h).2 (.inl ⟨hone, rfl, htakes⟩))
    | conditions hinclude htwo hmisshapen =>
      exact hconditions hinclude
        ((exists_refused_conditions_iff h).2 (.inr ⟨htwo, rfl, hmisshapen⟩))

theorem Reachable.holdsBuiltIn (h : search.Reachable)
    (hkinds : ∀ filter ∈ search.filters.items, filter.kind.isBuiltIn = true) :
    search.HoldsBuiltIn where
  kinds := hkinds
  settled filter hfilter := (h.coherent.reachable filter hfilter).settled
    (FilterKind.keepsConversions_of_isBuiltIn (hkinds filter hfilter))

theorem mapError_eq_configuration_iff {outcome : Except Rejection Request} :
    outcome.mapError Rejection.error = .error (.configuration fault) ↔
      fault? outcome = some fault := by
  cases outcome with
  | ok request => exact iff_of_false nofun nofun
  | error rejection =>
    rw [Except.mapError, Rejection.error, Except.error.injEq, SearchError.configuration.injEq,
      fault?, Option.some.injEq]

/-- **A request is rejected exactly if a section of its seed stands in the way**, and then for
one that does.  This is so in every reachable search over built-in kinds of filters, whatever is
included.  Nothing stands in the way in the seeds that a search makes for its own requests, nor
in an empty one, so these are never rejected. -/
theorem Reachable.compile_rejected_iff_misfit (h : search.Reachable)
    (hkinds : ∀ filter ∈ search.filters.items, filter.kind.isBuiltIn = true)
    (flags : Flags) (options : RequestOptions) (seed : Request) :
    ((∃ fault, (search.compile flags options seed).mapError Rejection.error =
        .error (.configuration fault)) ↔
      ∃ fault, search.Misfit flags options seed fault) ∧
    (∀ fault, (search.compile flags options seed).mapError Rejection.error =
        .error (.configuration fault) →
      search.Misfit flags options seed fault) ∧
    (∃ request, (search.compile flags options []).mapError Rejection.error = .ok request) ∧
    ∀ window, ∃ request, search.request flags window = .ok request := by
  have hbuiltIn := h.holdsBuiltIn hkinds
  have hreported : ∀ fault, (search.compile flags options seed).mapError Rejection.error =
      .error (.configuration fault) → search.Misfit flags options seed fault := by
    intro fault hfault
    rw [mapError_eq_configuration_iff, fault?_compile] at hfault
    exact (exists_refused_iff hbuiltIn).1 (List.exists_of_findSome?_eq_some hfault)
  refine ⟨⟨?_, ?_⟩, hreported, ?_, exists_request flags search⟩
  · rintro ⟨fault, hfault⟩
    exact ⟨fault, hreported fault hfault⟩
  · rintro ⟨fault, hmisfit⟩
    obtain ⟨addition, hmem, hrefused⟩ := (exists_refused_iff hbuiltIn).2 hmisfit
    have hsome : ((search.additions flags options).findSome? fun addition =>
        fault? (addition.make seed)).isSome = true :=
      List.findSome?_isSome_iff.2 ⟨addition, hmem, by rw [hrefused]; rfl⟩
    obtain ⟨first, hfirst⟩ := Option.isSome_iff_exists.1 hsome
    exact ⟨first, mapError_eq_configuration_iff.2 ((fault?_compile ..).trans hfirst)⟩
  · obtain ⟨request, hrequest, -⟩ := compile_spec flags options search fun _ _ => Assoc.get?_nil _
    exact ⟨request, by rw [hrequest]; rfl⟩

/-- Conditions that are no list are in the way of two selections. -/
theorem Reachable.compile_rejected_iff_misfit_of_two_selections :
    let filters : List Filter :=
      [.ofKind "tags" (.term .default), .ofKind "year" (.numeric .default)]
    let search := ((Call.select "year" [.term (.int 2020)] true).reply
      ((Call.select "tags" [.term (.text "a")] true).reply
        ((Call.replaceFilters filters).reply Search.new).search).search).search
    let seed : Request := [("filter", .obj [("and", .null)])]
    search.Reachable ∧ (∀ filter ∈ search.filters.items, filter.kind.isBuiltIn = true) ∧
      ∃ fault, (search.compile (fun _ => false) .all seed).mapError Rejection.error =
        .error (.configuration fault) := by
  intro filters search seed
  have hdefined : ((Call.replaceFilters filters).reply Search.new).search.Reachable :=
    .call _ (List.forall_mem_cons.2 ⟨.ofKind _ _, List.forall_mem_singleton.2 (.ofKind _ _)⟩) .new
  have hreach : search.Reachable :=
    (hdefined.call_of_filters_eq_nil _ rfl).call_of_filters_eq_nil _ rfl
  have hkinds : ∀ filter ∈ search.filters.items, filter.kind.isBuiltIn = true :=
    List.forall_mem_cons.2 ⟨rfl, List.forall_mem_singleton.2 rfl⟩
  have hselecting : 2 ≤ (search.selecting fun _ => false).length := Nat.le_refl 2
  have hmisshapen : seed.ConditionsMisshapen := ⟨[("and", .null)], .null, rfl, rfl, nofun⟩
  exact ⟨hreach, hkinds, (hreach.compile_rejected_iff_misfit hkinds _ .all seed).1.2
    ⟨_, .conditions rfl hselecting hmisshapen⟩⟩

end Search
end FacetedSearch
