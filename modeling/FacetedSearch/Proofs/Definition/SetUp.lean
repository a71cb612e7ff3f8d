import FacetedSearch.Definition.Search
import FacetedSearch.Proofs.Filter.Check
import FacetedSearch.Proofs.Search.SortCell

/-!
# What a definition sets up

A definition sets up a search as a whole, or not at all.  What it needs is said of it alone
(`SearchDefinition.IsSound`), and so is what the search that it sets up looks like
(`SearchDefinition.Describes`).

## One fault of several

A definition can be faulty in several ways, and is refused for one of them.  The page length comes
first, then the fields, then the filters.  Of each of the two lists every item is checked before
any names are compared.  So a name that is repeated among the fields hides all that is wrong with
the filters, while a name that is repeated among the filters comes last, and is the reason only if
nothing else is wrong.  `SearchDefinition.Refused` lists the cases in this order, and what rules
out the earlier ones is part of each.

* `FilterDefinition.IsSound`, `SearchDefinition.IsSound`: what a definition needs;
* `SearchDefinition.Refused`: what it is refused for;
* `SearchDefinition.Describes`: what it sets up;
* `Search.ofDefinition_eq_ok_iff`, `Search.ofDefinition_eq_error_iff`: both outcomes;
* `Search.set_up_as_defined`: all of it.
-/

namespace FacetedSearch

/-! ## What a definition needs -/

/-- A filter needs a name and a way of being displayed.  Over intervals the fields come as a
pair, and so do the scripts. -/
structure FilterDefinition.IsSound (definition : FilterDefinition) : Prop where
  named : definition.name ≠ ""
  displayable : definition.expandable = true ∨ definition.collapsible = true
  paired : ∀ options, definition.kind = .range options →
    options.keyField.isSome = options.valueField.isSome ∧
      options.keyScript.isSome = options.valueScript.isSome

/-- Pages have room, fields and filters have names, distinct ones, and each filter has what it
needs. -/
structure SearchDefinition.IsSound (definition : SearchDefinition) : Prop where
  room : 0 < definition.pageLength
  fieldsNamed : ∀ field ∈ definition.fields, field.name ≠ ""
  fieldNames : (definition.fields.map FieldDefinition.name).Nodup
  filtersSound : ∀ filter ∈ definition.filters, filter.IsSound
  filterNames : (definition.filters.map FilterDefinition.name).Nodup

theorem FieldDefinition.check_build_eq_ok_iff {definition : FieldDefinition} :
    definition.build.check = .ok () ↔ definition.name ≠ "" := Field.check_eq_ok_iff

theorem KindDefinition.check_build_eq_ok_iff {kind : KindDefinition} :
    kind.build.check = .ok () ↔ ∀ options, kind = .range options →
      options.keyField.isSome = options.valueField.isSome ∧
        options.keyScript.isSome = options.valueScript.isSome := by
  cases kind with
  | term options | numeric options => exact iff_of_true rfl nofun
  | range options =>
    rw [build, FilterKind.check, RangeOptions.check_eq_ok_iff]
    exact ⟨fun h _ heq => KindDefinition.range.inj heq ▸ h, fun h => h options rfl⟩

/-- A definition can only name the kinds that are there. -/
theorem FilterDefinition.isBuiltIn_build (definition : FilterDefinition) :
    definition.build.kind.isBuiltIn = true := by
  show definition.kind.build.isBuiltIn = true
  cases definition.kind <;> rfl

theorem FilterDefinition.check_build_eq_ok_iff {definition : FilterDefinition} :
    definition.build.check = .ok () ↔ definition.IsSound := by
  rw [Filter.check_eq_ok_iff]
  constructor
  · rintro ⟨hnamed, hdisplayable, hkind⟩
    exact ⟨hnamed, hdisplayable, KindDefinition.check_build_eq_ok_iff.1 hkind⟩
  · rintro ⟨hnamed, hdisplayable, hpaired⟩
    exact ⟨hnamed, hdisplayable, KindDefinition.check_build_eq_ok_iff.2 hpaired⟩

/-! ## Items that are taken in together -/

namespace Catalog

variable {α β : Type} [Named α] {check : β → Except SearchError Unit} {items : List β}
  {kept : List α} {catalog : Catalog α} {error : SearchError}

/-- Checks items one by one, and then makes a catalog of what is kept of them. -/
def takeIn (check : β → Except SearchError Unit) (items : List β) (kept : List α) :
    Except SearchError (Catalog α) :=
  (items.forM check).bind fun _ => ofList? kept

theorem takeIn_eq_ok_iff : takeIn check items kept = .ok catalog ↔
    (∀ item ∈ items, check item = .ok ()) ∧ (kept.map Named.name).Nodup ∧ catalog = ⟨kept⟩ := by
  unfold takeIn
  rw [Fallible.bind_eq_ok_iff]
  simp only [Unique.exists_iff, PUnit.default_eq_unit, Fallible.forM_eq_ok_iff,
    ofList?_eq_ok_iff]

/-- Items are refused for the first that fails, and else for the first name that is repeated. -/
theorem takeIn_eq_error_iff : takeIn check items kept = .error error ↔
    (∃ item before after, items = before ++ item :: after ∧
      (∀ earlier ∈ before, check earlier = .ok ()) ∧ check item = .error error) ∨
    (∀ item ∈ items, check item = .ok ()) ∧
      ∃ name, FirstRepeat (kept.map Named.name) name ∧ error = .duplicateName name := by
  unfold takeIn
  rw [Fallible.bind_eq_error_iff, Fallible.forM_eq_error_iff]
  simp only [Unique.exists_iff, PUnit.default_eq_unit, Fallible.forM_eq_ok_iff,
    ofList?_eq_error_iff]

theorem takeIn_map {γ : Type} (build : γ → β) (given : List γ) :
    takeIn check (given.map build) kept = takeIn (fun item => check (build item)) given kept := by
  have hmap : (given.map build).forM check = given.forM fun item => check (build item) :=
    List.forM_map
  rw [takeIn, hmap, takeIn]

end Catalog

namespace Search

theorem replaceFields_eq (search : Search) (fields : List Field) :
    search.replaceFields fields =
      match Catalog.takeIn Field.check fields (keepFirstSort fields) with
      | .error error => .refuse search error
      | .ok catalog =>
        .announce { search with fields := catalog } ()
          [⟨.fieldsReset catalog.names, .fields⟩] := by
  unfold replaceFields Catalog.takeIn
  cases fields.forM Field.check <;> rfl

theorem replaceFilters_eq (search : Search) (filters : List Filter) :
    search.replaceFilters filters =
      match Catalog.takeIn Filter.check filters filters with
      | .error error => .refuse search error
      | .ok catalog =>
        .announce { search with filters := catalog } ()
          [⟨.filtersReset catalog.names, .filters⟩] := by
  unfold replaceFilters Catalog.takeIn
  cases filters.forM Filter.check <;> rfl

end Search

/-! ## The fields and the filters of a definition -/

namespace SearchDefinition

open Catalog (FirstRepeat)

variable (definition : SearchDefinition)

/-- The fields of a definition, of which the first sorted one stays sorted. -/
def takenFields : Except SearchError (Catalog Field) :=
  Catalog.takeIn Field.check (definition.fields.map FieldDefinition.build)
    (keepFirstSort (definition.fields.map FieldDefinition.build))

/-- The filters of a definition. -/
def takenFilters : Except SearchError (Catalog Filter) :=
  Catalog.takeIn Filter.check (definition.filters.map FilterDefinition.build)
    (definition.filters.map FilterDefinition.build)

/-- A search as a definition says, over given fields and filters. -/
def searchOf (fields : Catalog Field) (filters : Catalog Filter) : Search where
  query := .empty
  fields := fields
  filters := filters
  results := []
  pageLength := definition.pageLength
  totalResults := 0
  loading := false
  options := definition.options

theorem names_fields :
    (keepFirstSort (definition.fields.map FieldDefinition.build)).map Named.name =
      definition.fields.map FieldDefinition.name := by
  show (keepFirstSort _).map Field.name = _
  rw [names_keepFirstSort, List.map_map]
  rfl

theorem names_filters :
    (definition.filters.map FilterDefinition.build).map Named.name =
      definition.filters.map FilterDefinition.name := by
  rw [List.map_map]
  rfl

variable {definition} {error : SearchError}

theorem takenFields_eq_ok_iff {fields : Catalog Field} :
    definition.takenFields = .ok fields ↔ (∀ field ∈ definition.fields, field.name ≠ "") ∧
      (definition.fields.map FieldDefinition.name).Nodup ∧
        fields = ⟨keepFirstSort (definition.fields.map FieldDefinition.build)⟩ := by
  rw [takenFields, Catalog.takeIn_map, Catalog.takeIn_eq_ok_iff, names_fields]
  simp only [FieldDefinition.check_build_eq_ok_iff]

theorem takenFilters_eq_ok_iff {filters : Catalog Filter} :
    definition.takenFilters = .ok filters ↔ (∀ filter ∈ definition.filters, filter.IsSound) ∧
      (definition.filters.map FilterDefinition.name).Nodup ∧
        filters = ⟨definition.filters.map FilterDefinition.build⟩ := by
  rw [takenFilters, Catalog.takeIn_map, Catalog.takeIn_eq_ok_iff, names_filters]
  simp only [FilterDefinition.check_build_eq_ok_iff]

theorem takenFields_eq_error_iff :
    definition.takenFields = .error error ↔
      (∃ field ∈ definition.fields, field.name = "") ∧
        error = .configuration .nameRequired ∨
      (∀ field ∈ definition.fields, field.name ≠ "") ∧
        ∃ name, FirstRepeat (definition.fields.map FieldDefinition.name) name ∧
          error = .duplicateName name := by
  rw [takenFields, Catalog.takeIn_map, Catalog.takeIn_eq_error_iff, names_fields]
  simp only [FieldDefinition.check_build_eq_ok_iff, Field.check_eq_error_iff]
  refine or_congr_left ?_
  constructor
  · rintro ⟨field, before, after, hsplit, -, hempty, rfl⟩
    exact ⟨⟨field, hsplit ▸ List.mem_append_right _ List.mem_cons_self, hempty⟩, rfl⟩
  · rintro ⟨⟨field, hfield, hempty⟩, rfl⟩
    obtain ⟨first, hfirst⟩ : ∃ first, definition.fields.find? (·.name = "") = some first :=
      Option.isSome_iff_exists.1 (List.find?_isSome.2 ⟨field, hfield, decide_eq_true hempty⟩)
    obtain ⟨hnone, before, after, hsplit, hbefore⟩ := List.find?_eq_some_iff_append.1 hfirst
    exact ⟨first, before, after, hsplit, by simpa using hbefore, of_decide_eq_true hnone, rfl⟩

theorem takenFilters_eq_error_iff :
    definition.takenFilters = .error error ↔
      (∃ filter before after, definition.filters = before ++ filter :: after ∧
        (∀ earlier ∈ before, earlier.IsSound) ∧ filter.build.check = .error error) ∨
      (∀ filter ∈ definition.filters, filter.IsSound) ∧
        ∃ name, FirstRepeat (definition.filters.map FilterDefinition.name) name ∧
          error = .duplicateName name := by
  rw [takenFilters, Catalog.takeIn_map, Catalog.takeIn_eq_error_iff, names_filters]
  simp only [FilterDefinition.check_build_eq_ok_iff]

end SearchDefinition

/-! ## What a definition is refused for -/

open Catalog (FirstRepeat)

/-- What a definition is refused for. -/
inductive SearchDefinition.Refused (definition : SearchDefinition) : SearchError → Prop
  | page (h : definition.pageLength = 0) : Refused definition (.configuration .emptyPage)
  | field (hroom : 0 < definition.pageLength) (h : ∃ field ∈ definition.fields, field.name = "") :
      Refused definition (.configuration .nameRequired)
  | fieldName {name : String} (hroom : 0 < definition.pageLength)
      (hnamed : ∀ field ∈ definition.fields, field.name ≠ "")
      (h : FirstRepeat (definition.fields.map FieldDefinition.name) name) :
      Refused definition (.duplicateName name)
  | filter {filter : FilterDefinition} {before after : List FilterDefinition} {error : SearchError}
      (hroom : 0 < definition.pageLength) (hnamed : ∀ field ∈ definition.fields, field.name ≠ "")
      (hnames : (definition.fields.map FieldDefinition.name).Nodup)
      (hsplit : definition.filters = before ++ filter :: after)
      (hbefore : ∀ earlier ∈ before, earlier.IsSound) (h : filter.build.check = .error error) :
      Refused definition error
  | filterName {name : String} (hroom : 0 < definition.pageLength)
      (hnamed : ∀ field ∈ definition.fields, field.name ≠ "")
      (hnames : (definition.fields.map FieldDefinition.name).Nodup)
      (hsound : ∀ filter ∈ definition.filters, filter.IsSound)
      (h : FirstRepeat (definition.filters.map FilterDefinition.name) name) :
      Refused definition (.duplicateName name)

namespace Search

variable {definition : SearchDefinition} {search : Search} {error : SearchError}

/-- A search is set up in three steps, each of which can fail. -/
theorem ofDefinition_eq (definition : SearchDefinition) :
    ofDefinition definition =
      if definition.pageLength = 0 then .error (.configuration .emptyPage)
      else definition.takenFields.bind fun fields =>
        definition.takenFilters.map (definition.searchOf fields) := by
  unfold ofDefinition SearchDefinition.takenFields SearchDefinition.takenFilters
  generalize definition.fields.map FieldDefinition.build = fields
  generalize definition.filters.map FilterDefinition.build = filters
  by_cases hroom : definition.pageLength = 0
  · rw [resizePages, if_pos hroom, if_pos hroom]
    rfl
  · rw [resizePages, if_neg hroom, if_neg hroom]
    simp only [replaceFields_eq, replaceFilters_eq]
    cases Catalog.takeIn Field.check fields (keepFirstSort fields) with
    | error error => rfl
    | ok _ => cases Catalog.takeIn Filter.check filters filters <;> rfl

/-- A definition sets a search up exactly if it has what it needs. -/
theorem ofDefinition_eq_ok_iff :
    ofDefinition definition = .ok search ↔ definition.IsSound ∧
      search = definition.searchOf ⟨keepFirstSort (definition.fields.map FieldDefinition.build)⟩
        ⟨definition.filters.map FilterDefinition.build⟩ := by
  rw [ofDefinition_eq, Fallible.guard_eq_ok_iff, Fallible.bind_eq_ok_iff,
    ← ne_eq, ← UInt64.pos_iff_ne_zero]
  simp only [Fallible.map_eq_ok_iff, SearchDefinition.takenFields_eq_ok_iff,
    SearchDefinition.takenFilters_eq_ok_iff]
  constructor
  · rintro ⟨hroom, -, ⟨hnamed, hnames, rfl⟩, -, ⟨hsound, hdistinct, rfl⟩, rfl⟩
    exact ⟨⟨hroom, hnamed, hnames, hsound, hdistinct⟩, rfl⟩
  · rintro ⟨⟨hroom, hnamed, hnames, hsound, hdistinct⟩, rfl⟩
    exact ⟨hroom, _, ⟨hnamed, hnames, rfl⟩, _, ⟨hsound, hdistinct, rfl⟩, rfl⟩

/-- **A definition is refused for the first of its faults**, in the order in which they are
looked for. -/
theorem ofDefinition_eq_error_iff :
    ofDefinition definition = .error error ↔ definition.Refused error := by
  rw [ofDefinition_eq, Fallible.guard_eq_error_iff, Fallible.bind_eq_error_iff,
    ← ne_eq, ← UInt64.pos_iff_ne_zero]
  simp only [Fallible.map_eq_error_iff, SearchDefinition.takenFields_eq_ok_iff,
    SearchDefinition.takenFields_eq_error_iff, SearchDefinition.takenFilters_eq_error_iff]
  constructor
  · rintro (⟨hpage, rfl⟩ | ⟨hroom, (⟨hfield, rfl⟩ | ⟨hnamed, name, hrepeat, rfl⟩) |
      ⟨-, ⟨hnamed, hnames, -⟩, ⟨filter, before, after, hsplit, hbefore, hcheck⟩ |
        ⟨hsound, name, hrepeat, rfl⟩⟩⟩)
    · exact .page hpage
    · exact .field hroom hfield
    · exact .fieldName hroom hnamed hrepeat
    · exact .filter hroom hnamed hnames hsplit hbefore hcheck
    · exact .filterName hroom hnamed hnames hsound hrepeat
  · intro h
    cases h with
    | page hpage => exact Or.inl ⟨hpage, rfl⟩
    | field hroom hfield => exact Or.inr ⟨hroom, Or.inl (Or.inl ⟨hfield, rfl⟩)⟩
    | fieldName hroom hnamed hrepeat =>
      exact Or.inr ⟨hroom, Or.inl (Or.inr ⟨hnamed, _, hrepeat, rfl⟩)⟩
    | filter hroom hnamed hnames hsplit hbefore hcheck =>
      exact Or.inr ⟨hroom, Or.inr ⟨_, ⟨hnamed, hnames, rfl⟩,
        Or.inl ⟨_, _, _, hsplit, hbefore, hcheck⟩⟩⟩
    | filterName hroom hnamed hnames hsound hrepeat =>
      exact Or.inr ⟨hroom, Or.inr ⟨_, ⟨hnamed, hnames, rfl⟩, Or.inr ⟨hsound, _, hrepeat, rfl⟩⟩⟩

end Search

namespace SearchDefinition

variable {definition : SearchDefinition} {error : SearchError}

/-- A name that is repeated is what a definition is refused for exactly if nothing that is looked
for earlier is wrong. -/
theorem refused_duplicateName_iff {name : String} :
    definition.Refused (.duplicateName name) ↔
      0 < definition.pageLength ∧ (∀ field ∈ definition.fields, field.name ≠ "") ∧
        (FirstRepeat (definition.fields.map FieldDefinition.name) name ∨
          (definition.fields.map FieldDefinition.name).Nodup ∧
            (∀ filter ∈ definition.filters, filter.IsSound) ∧
              FirstRepeat (definition.filters.map FilterDefinition.name) name) := by
  constructor
  · intro h
    generalize herror : SearchError.duplicateName name = error at h
    cases h with
    | page | field => cases herror
    | fieldName hroom hnamed hrepeat =>
      cases herror
      exact ⟨hroom, hnamed, Or.inl hrepeat⟩
    | filter _ _ _ _ _ hcheck =>
      obtain ⟨fault, rfl⟩ :=
        Filter.exists_fault_of_check (FilterDefinition.isBuiltIn_build _) hcheck
      cases herror
    | filterName hroom hnamed hnames hsound hrepeat =>
      cases herror
      exact ⟨hroom, hnamed, Or.inr ⟨hnames, hsound, hrepeat⟩⟩
  · rintro ⟨hroom, hnamed, hrepeat | ⟨hnames, hsound, hrepeat⟩⟩
    · exact .fieldName hroom hnamed hrepeat
    · exact .filterName hroom hnamed hnames hsound hrepeat

/-- Whatever else a definition is refused for is a fault of a page, a field or a filter. -/
theorem exists_fault_of_refused (h : definition.Refused error)
    (hname : ∀ name, error ≠ .duplicateName name) : ∃ fault, error = .configuration fault := by
  cases h with
  | page | field => exact ⟨_, rfl⟩
  | fieldName | filterName => exact absurd rfl (hname _)
  | filter _ _ _ _ _ hcheck =>
    exact Filter.exists_fault_of_check (FilterDefinition.isBuiltIn_build _) hcheck

end SearchDefinition

/-! ## What a definition sets up -/

/-- The field is as the definition says, its sort aside. -/
structure FieldDefinition.Describes (definition : FieldDefinition) (field : Field) : Prop where
  name : field.name = definition.name
  title : field.title = definition.title.getD definition.name
  script : field.script = definition.script
  enabled : field.enabled = .fixed definition.enabled
  displayed : field.displayed = .fixed definition.display

/-- The filter is as the definition says, with nothing selected and nothing counted. -/
structure FilterDefinition.Describes (definition : FilterDefinition) (filter : Filter) : Prop where
  name : filter.name = definition.name
  label : filter.label = definition.label.getD definition.name
  term : ∀ options, definition.kind = .term options → filter.kind = .term options
  numeric : ∀ options, definition.kind = .numeric options → filter.kind = .numeric options
  range : ∀ options, definition.kind = .range options → filter.kind = .range options
  enabled : filter.enabled = .fixed definition.enabled
  multiple : filter.multiple = definition.multiple
  combination : filter.combination = definition.combination
  lead : filter.lead = definition.lead
  trail : filter.trail = definition.trail
  expandable : filter.expandable = definition.expandable
  collapsible : filter.collapsible = definition.collapsible
  unselected : filter.selected = [] ∧ filter.placeholders = []
  uncounted : filter.available = [] ∧ filter.totalFacets = 0 ∧ filter.totalResults = 0

/-- The search is as the definition says: its fields and filters stand in the order of the
definition, only the first field that is to be sorted is, and nothing is searched for or held. -/
structure SearchDefinition.Describes (definition : SearchDefinition) (search : Search) : Prop where
  fields : List.Forall₂ FieldDefinition.Describes definition.fields search.fields.items
  sort : ∀ before field after, definition.fields = before ++ field :: after →
    search.fields.items[before.length]?.map Field.sort =
      some (if ∀ earlier ∈ before, earlier.orderBy = none then field.orderBy else none)
  filters : List.Forall₂ FilterDefinition.Describes definition.filters search.filters.items
  pageLength : search.pageLength = definition.pageLength
  options : search.options = definition.options
  unasked : search.query = .empty
  empty : search.results = [] ∧ search.totalResults = 0
  idle : search.loading = false

/-- A filter is built as it is defined. -/
theorem FilterDefinition.describes_build (definition : FilterDefinition) :
    definition.Describes definition.build where
  name := rfl
  label := rfl
  term _ hkind := congrArg KindDefinition.build hkind
  numeric _ hkind := congrArg KindDefinition.build hkind
  range _ hkind := congrArg KindDefinition.build hkind
  enabled := rfl
  multiple := rfl
  combination := rfl
  lead := rfl
  trail := rfl
  expandable := rfl
  collapsible := rfl
  unselected := ⟨rfl, rfl⟩
  uncounted := ⟨rfl, rfl, rfl⟩

/-- A field is built as it is defined, and whatever becomes of its sort, the rest stays. -/
theorem FieldDefinition.describes_withSort (definition : FieldDefinition)
    (sort : Option Direction) : definition.Describes (definition.build.withSort sort) where
  name := rfl
  title := rfl
  script := rfl
  enabled := rfl
  displayed := rfl

theorem SearchDefinition.describes_searchOf (definition : SearchDefinition) :
    definition.Describes
      (definition.searchOf ⟨keepFirstSort (definition.fields.map FieldDefinition.build)⟩
        ⟨definition.filters.map FilterDefinition.build⟩) where
  fields := by
    have hkept := forall₂_keepFirstSort (definition.fields.map FieldDefinition.build)
    rw [List.forall₂_map_left_iff] at hkept
    exact hkept.imp fun given kept hsame => hsame ▸ given.describes_withSort kept.sort
  sort before field after hsplit := by
    have hkept := getElem?_keepFirstSort (before.map FieldDefinition.build) field.build
      (after.map FieldDefinition.build)
    rw [← List.map_cons, ← List.map_append, ← hsplit, List.length_map] at hkept
    simp only [List.forall_mem_map] at hkept
    exact congrArg (Option.map Field.sort) hkept
  filters := by
    rw [searchOf, List.forall₂_map_right_iff, List.forall₂_same]
    exact fun filter _ => filter.describes_build
  pageLength := rfl
  options := rfl
  unasked := rfl
  empty := ⟨rfl, rfl⟩
  idle := rfl

namespace Search

/-- **What a definition sets up.**  A search is set up exactly if pages have room, fields and
filters have distinct names and every filter has what it needs.  A definition is refused for a
name if that is the first that is repeated among the fields and nothing is wrong with the page
length or a field, or among the filters and nothing else is wrong at all.  In all other cases it
is refused for another fault.  The search that is set up is as the definition says. -/
theorem set_up_as_defined (definition : SearchDefinition) :
    ((∃ search, ofDefinition definition = .ok search) ↔ definition.IsSound) ∧
    (∀ name, ofDefinition definition = .error (.duplicateName name) ↔
      0 < definition.pageLength ∧ (∀ field ∈ definition.fields, field.name ≠ "") ∧
        (FirstRepeat (definition.fields.map FieldDefinition.name) name ∨
          (definition.fields.map FieldDefinition.name).Nodup ∧
            (∀ filter ∈ definition.filters, filter.IsSound) ∧
              FirstRepeat (definition.filters.map FilterDefinition.name) name)) ∧
    (∀ error, ofDefinition definition = .error error → (∀ name, error ≠ .duplicateName name) →
      ∃ fault, error = .configuration fault) ∧
    ∀ search, ofDefinition definition = .ok search → definition.Describes search := by
  refine ⟨?_, fun name => ?_, fun error herror hname => ?_, fun search hsearch => ?_⟩
  · constructor
    · rintro ⟨search, hsearch⟩
      exact (ofDefinition_eq_ok_iff.1 hsearch).1
    · exact fun hsound => ⟨_, ofDefinition_eq_ok_iff.2 ⟨hsound, rfl⟩⟩
  · rw [ofDefinition_eq_error_iff, SearchDefinition.refused_duplicateName_iff]
  · exact SearchDefinition.exists_fault_of_refused (ofDefinition_eq_error_iff.1 herror) hname
  · obtain ⟨-, rfl⟩ := ofDefinition_eq_ok_iff.1 hsearch
    exact definition.describes_searchOf

/-- Two fields that are to be sorted, of which the first is.  With a field that comes twice the
faults of the filters do not show, and half a pair of fields hides that a filter comes twice. -/
theorem set_up_as_defined_of_several_faults :
    let title : FieldDefinition := ⟨"title", none, none, some .desc, true, true⟩
    let date : FieldDefinition := ⟨"date", some "Date", none, some .asc, true, true⟩
    let tags : FilterDefinition :=
      ⟨"tags", none, true, true, .any, "", "", true, true, .term .default⟩
    let half : FilterDefinition :=
      { tags with name := "price", kind := .range ⟨some "net", none, none, none, []⟩ }
    let sound : SearchDefinition := ⟨20, .all, [title, date], [tags]⟩
    (∃ search, ofDefinition sound = .ok search ∧
      search.fields.items[1]?.map Field.sort = some none) ∧
    ofDefinition { sound with fields := [title, date, title], filters := [half, tags, tags] } =
      .error (.duplicateName "title") ∧
    ∀ name, ofDefinition { sound with filters := [tags, tags, half] } ≠
      .error (.duplicateName name) := by
  intro title date tags half sound
  have htags : tags.IsSound := ⟨by decide, Or.inl rfl, nofun⟩
  have hnamed : ∀ field ∈ [title, date, title], field.name ≠ "" := by decide
  refine ⟨?_, ?_, fun name hname => ?_⟩
  · obtain ⟨hsound, -, -, hdescribes⟩ := set_up_as_defined sound
    obtain ⟨search, hsearch⟩ := hsound.2
      ⟨by decide, by decide, by decide, List.forall_mem_singleton.2 htags, by decide⟩
    exact ⟨search, hsearch, (hdescribes search hsearch).sort [title] date [] rfl⟩
  · obtain ⟨-, hrepeat, -⟩ := set_up_as_defined
      { sound with fields := [title, date, title], filters := [half, tags, tags] }
    exact (hrepeat "title").2 ⟨by decide, hnamed,
      Or.inl ⟨["title", "date"], [], rfl, by decide, List.mem_cons_self⟩⟩
  · obtain ⟨-, hrepeat, -⟩ := set_up_as_defined { sound with filters := [tags, tags, half] }
    obtain ⟨-, -, hfields | ⟨-, hsound, -⟩⟩ := (hrepeat name).1 hname
    · exact absurd (by decide) hfields.not_nodup
    · have hhalf : half.IsSound := hsound half (by simp)
      exact absurd (hhalf.paired _ rfl).1 (by decide)

end Search

end FacetedSearch
