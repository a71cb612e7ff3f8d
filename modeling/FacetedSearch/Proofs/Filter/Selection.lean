import FacetedSearch.Proofs.Facet.Comparison
import FacetedSearch.Proofs.Facet.RangeId
import FacetedSearch.Proofs.Filter.Reachable
import FacetedSearch.Proofs.Text.Integer
import Mathlib.Data.List.Find

/-!
# Reading the selection back

The facets of a selection are not stored.  Each selected value is turned into its id, the
id is read as a value again, and a facet is looked up: among the available facets by value
or by id, and else among the placeholders.  None of this fails for a selected value of a
filter that comes about, and what is found has the id of the value.

## Why looking up by value is harmless

An available facet can be taken because its value equals the one that the id was read as.
For a text or an integer that makes the values the same.  For an interval it makes them the
same unless a bound of the available facet is the negative zero, whose text is another one;
so facets of that sort are excluded for filters over intervals.  With them out of the way
the look-up by value finds nothing that the look-up by id would not (`exists_ofId_id`).

* `FilterKind.ofId_id`: the id of a selected value is read as a value of the same id;
* `Filter.facetFor`: the facet that stands for a selected value;
* `Filter.facetOfId_id`: the look-up finds it;
* `Filter.ReadsBackAs`, `Filter.selection_reads_back`: ids, facets, choices and
  placeholders of a selection.
-/

namespace FacetedSearch

namespace FilterKind

/-! ## Ids of selected values -/

/-- What the id of a selected value is read as: a text of that id, or the value itself,
which then is an integer, or an interval selected by a filter over intervals. -/
theorem ofId_id {kind : FilterKind} (hkeeps : kind.KeepsConversions) {value : FacetValue}
    (h : kind.accepted? value = some value) :
    kind.ofId value.id = .ok (.term (.text value.id)) ∨
    (∃ n, value = .term (.int n) ∧ kind.ofId value.id = .ok value) ∨
    (∃ options bounds, kind = .range options ∧ value = .range bounds ∧
      bounds.isEncodable = true ∧ kind.ofId value.id = .ok value) := by
  cases kind with
  | term options => exact Or.inl rfl
  | custom other => exact Or.inl (ofId_eq hkeeps _)
  | numeric options =>
    obtain ⟨n, -, rfl⟩ := Option.map_eq_some_iff.1 h
    refine Or.inr (Or.inl ⟨n, rfl, ?_⟩)
    simp only [ofId_numeric, FacetValue.id_term, Term.shown_int, integerOfText?_integerText]
  | range options =>
    cases value with
    | term t => cases h
    | range bounds =>
      simp only [accepted?] at h
      split at h
      · next hencodable =>
        refine Or.inr (Or.inr ⟨options, bounds, rfl, rfl, hencodable, ?_⟩)
        simp only [ofId_range, FacetValue.id_range, Bounds.ofId?_id hencodable]
      · cases h

end FilterKind

namespace Filter

/-! ## The facet of a selected value -/

/-- No facet that a filter over intervals offers has a negative zero for a bound. -/
def OffersNoNegativeZero (filter : Filter) : Prop :=
  ∀ options, filter.kind = .range options →
    ∀ facet ∈ filter.available, facet.key.hasNegativeZero = false

/-- The facet that stands for a selected value: the available one of its id, else its
placeholder. -/
def facetFor (filter : Filter) (value : FacetValue) : Facet :=
  ((filter.available.find? fun facet => facet.id == value.id).or
    (filter.placeholders.get? value.id)).getD (.placeholder value)

/-- The id of a selected value is read as a value that an available facet equals only if
it has the id too. -/
theorem exists_ofId_id {filter : Filter} (hkeeps : filter.kind.KeepsConversions)
    {value : FacetValue} (haccepted : filter.kind.accepted? value = some value)
    (hzero : filter.OffersNoNegativeZero) :
    ∃ key, filter.kind.ofId value.id = .ok key ∧
      ∀ facet ∈ filter.available, facet.key.sameValue key = true → facet.id = value.id := by
  rcases FilterKind.ofId_id hkeeps haccepted with
    hread | ⟨n, rfl, hread⟩ | ⟨options, bounds, hkind, rfl, hencodable, hread⟩
  · refine ⟨_, hread, fun facet _ hsame => ?_⟩
    rw [Facet.id, FacetValue.eq_of_sameValue_text hsame]
    rfl
  · refine ⟨_, hread, fun facet _ hsame => ?_⟩
    rw [Facet.id, FacetValue.eq_of_sameValue_int hsame]
  · refine ⟨_, hread, fun facet hfacet hsame => ?_⟩
    rw [Facet.id, FacetValue.eq_of_sameValue_range hencodable (hzero options hkind facet hfacet)
      hsame]

/-! ## Placeholders -/

section Placeholders

variable {kind : FilterKind} {values : List FacetValue} (hkeeps : kind.KeepsConversions)
include hkeeps

theorem placeholdersOf_eq (values : List FacetValue) :
    placeholdersOf kind values =
      Assoc.extend [] (values.map fun value => (value.id, .placeholder value)) := by
  simp only [placeholdersOf, Assoc.extend, List.foldl_map, FilterKind.idOf_eq hkeeps]

omit hkeeps in
theorem keys_placeholders (values : List FacetValue) :
    Assoc.keys (values.map fun value => (value.id, Facet.placeholder value)) =
      values.map FacetValue.id := by
  rw [Assoc.keys, List.map_map]
  rfl

theorem mem_keys_placeholdersOf {id : String} :
    id ∈ Assoc.keys (placeholdersOf kind values) ↔ id ∈ values.map FacetValue.id := by
  rw [placeholdersOf_eq hkeeps, Assoc.mem_keys_extend, keys_placeholders, Assoc.keys_nil]
  exact or_iff_right List.not_mem_nil

theorem nodup_keys_placeholdersOf (values : List FacetValue) :
    (Assoc.keys (placeholdersOf kind values)).Nodup := by
  rw [placeholdersOf_eq hkeeps]
  exact Assoc.nodup_keys_extend _ List.nodup_nil

/-- Every placeholder stands for one of the values, under its id. -/
theorem exists_of_mem_placeholdersOf {entry : String × Facet}
    (h : entry ∈ placeholdersOf kind values) :
    ∃ value ∈ values, entry = (value.id, .placeholder value) := by
  rw [placeholdersOf_eq hkeeps] at h
  rcases Assoc.mem_of_mem_extend h with hnil | hmem
  · exact absurd hnil List.not_mem_nil
  · obtain ⟨value, hvalue, heq⟩ := List.mem_map.1 hmem
    exact ⟨value, hvalue, heq.symm⟩

theorem get?_placeholdersOf_of_nodup {value : FacetValue}
    (hnodup : (values.map FacetValue.id).Nodup) (h : value ∈ values) :
    Assoc.get? value.id (placeholdersOf kind values) = some (.placeholder value) := by
  rw [← keys_placeholders] at hnodup
  rw [placeholdersOf_eq hkeeps, Assoc.get?_extend hnodup,
    Assoc.get?_of_mem hnodup (List.mem_map.2 ⟨value, h, rfl⟩)]
  rfl

end Placeholders

/-- Every selected id has a placeholder, a facet without results of that id. -/
theorem exists_placeholder {filter : Filter} (settled : filter.Settled) {value : FacetValue}
    (h : value ∈ filter.selected) :
    ∃ facet, filter.placeholders.get? value.id = some facet ∧ facet.id = value.id := by
  obtain ⟨facet, hget⟩ := Assoc.exists_get?_of_mem_keys
    ((mem_keys_placeholdersOf settled.keeps).2 (List.mem_map_of_mem (f := FacetValue.id) h))
  obtain ⟨other, -, hentry⟩ :=
    exists_of_mem_placeholdersOf settled.keeps (Assoc.mem_of_get? hget)
  obtain ⟨hid, rfl⟩ := Prod.mk.inj hentry
  rw [settled.placeholders]
  exact ⟨_, hget, hid.symm⟩

/-! ## Looking up -/

/-- The facet of an id, for a kind that keeps the conversions. -/
theorem facetOfId_eq {filter : Filter} (hkeeps : filter.kind.KeepsConversions) (id : String) :
    filter.facetOfId id = (filter.kind.ofId id).map fun key =>
      ((filter.available.find? fun facet => facet.key.sameValue key || facet.id == id).or
        ((filter.placeholders.get? id).or (filter.placeholders.get? key.id))).getD
          (.placeholder key) := by
  unfold facetOfId
  simp only [FilterKind.idOf_eq hkeeps]
  cases filter.kind.ofId id <;> rfl

theorem valueOfId_eq {filter : Filter} (hkeeps : filter.kind.KeepsConversions) (id : String) :
    filter.valueOfId id = (filter.facetOfId id).map Facet.key := by
  simp only [valueOfId, FilterKind.valueOf_eq hkeeps]

theorem choice_id {filter : Filter} (hkeeps : filter.kind.KeepsConversions) (facet : Facet) :
    (filter.choice facet).id = facet.id :=
  FilterKind.idOf_eq hkeeps facet.key

/-- **The look-up of a selected value's id finds the facet that stands for it.** -/
theorem facetOfId_id {filter : Filter} (settled : filter.Settled)
    (hzero : filter.OffersNoNegativeZero) {value : FacetValue} (h : value ∈ filter.selected) :
    filter.facetOfId value.id = .ok (filter.facetFor value) := by
  obtain ⟨key, hread, hsame⟩ := exists_ofId_id settled.keeps (settled.accepted value h) hzero
  obtain ⟨held, hget, -⟩ := exists_placeholder settled h
  have hfind : (filter.available.find? fun facet =>
      facet.key.sameValue key || facet.id == value.id) =
      filter.available.find? fun facet => facet.id == value.id := by
    refine List.find?_congr fun facet hfacet => ?_
    cases hkey : facet.key.sameValue key with
    | false => exact Bool.false_or _
    | true => rw [hsame facet hfacet hkey, Bool.true_or, beq_self_eq_true]
  rw [facetOfId_eq settled.keeps, hread]
  simp only [facetFor, Except.map, hfind, hget, Option.some_or, Option.or_some, Option.getD_some]

theorem id_facetFor {filter : Filter} (settled : filter.Settled) {value : FacetValue}
    (h : value ∈ filter.selected) : (filter.facetFor value).id = value.id := by
  obtain ⟨held, hget, hid⟩ := exists_placeholder settled h
  unfold facetFor
  cases hfind : filter.available.find? fun facet => facet.id == value.id with
  | none =>
    rw [hget]
    exact hid
  | some facet =>
    have hfound : (facet.id == value.id) = true :=
      List.find?_some (p := fun facet : Facet => facet.id == value.id) hfind
    exact beq_iff_eq.1 hfound

/-- With distinct ids, what no available facet backs is stood for by its own placeholder. -/
theorem facetFor_of_absent {filter : Filter} (settled : filter.Settled) {value : FacetValue}
    (hnodup : (filter.selected.map FacetValue.id).Nodup) (h : value ∈ filter.selected)
    (habsent : ∀ facet ∈ filter.available, facet.id ≠ value.id) :
    filter.facetFor value = .placeholder value := by
  have hfind : (filter.available.find? fun facet => facet.id == value.id) = none := by
    rw [List.find?_eq_none]
    intro facet hfacet
    rw [beq_iff_eq]
    exact habsent facet hfacet
  rw [facetFor, hfind, settled.placeholders,
    get?_placeholdersOf_of_nodup settled.keeps hnodup h]
  rfl

theorem idOfValue_of_accepted {filter : Filter} (hkeeps : filter.kind.KeepsConversions)
    {value : FacetValue} (h : filter.kind.accepted? value = some value) :
    filter.idOfValue value = .ok value.id := by
  rw [idOfValue, (FilterKind.accept_eq_ok_iff hkeeps).2 h, Except.map,
    FilterKind.idOf_eq hkeeps]

/-- A selected value's id counts as selected. -/
theorem isSelected_id {filter : Filter} (settled : filter.Settled) {value : FacetValue}
    (h : value ∈ filter.selected) : filter.isSelected value.id = true := by
  rw [isSelected, List.any_eq_true]
  refine ⟨value, h, ?_⟩
  rw [idOfValue_of_accepted settled.keeps (settled.accepted value h)]
  exact beq_self_eq_true value.id

/-! ## The selection -/

theorem selectedIds_eq {filter : Filter} (settled : filter.Settled) :
    filter.selectedIds = .ok (filter.selected.map FacetValue.id) :=
  Fallible.mapM_eq_ok_map fun value hvalue =>
    idOfValue_of_accepted settled.keeps (settled.accepted value hvalue)

theorem selectedFacets_eq {filter : Filter} (settled : filter.Settled)
    (hzero : filter.OffersNoNegativeZero) :
    filter.selectedFacets = .ok (filter.selected.map filter.facetFor) := by
  have hids : ∀ value ∈ filter.selected,
      filter.facetOfId value.id = .ok (filter.facetFor value) :=
    fun value hvalue => facetOfId_id settled hzero hvalue
  have hmap : (filter.selected.map FacetValue.id).mapM filter.facetOfId =
      .ok (filter.selected.map filter.facetFor) := by
    rw [List.mapM_map]
    exact Fallible.mapM_eq_ok_map hids
  rw [selectedFacets, selectedIds_eq settled]
  exact hmap

theorem selectedChoices_eq {filter : Filter} (settled : filter.Settled)
    (hzero : filter.OffersNoNegativeZero) :
    filter.selectedChoices =
      .ok ((filter.selected.map filter.facetFor).map filter.choice) := by
  rw [selectedChoices, selectedFacets_eq settled hzero]
  rfl

/-- What the selection of a filter reads back as. -/
structure ReadsBackAs (filter : Filter) (facets : List Facet) : Prop where
  selectedIds : filter.selectedIds = .ok (filter.selected.map FacetValue.id)
  selectedFacets : filter.selectedFacets = .ok facets
  selectedChoices : filter.selectedChoices = .ok (facets.map filter.choice)
  /-- One facet for each selected value, in order, and of its id. -/
  facetIds : facets.map Facet.id = filter.selected.map FacetValue.id
  choiceIds : (facets.map filter.choice).map Choice.id = filter.selected.map FacetValue.id
  marked : ∀ choice ∈ facets.map filter.choice, choice.selected = true
  /-- The placeholders are those of the selected ids, without results. -/
  heldIds : ∀ id, id ∈ Assoc.keys filter.placeholders ↔ id ∈ filter.selected.map FacetValue.id
  heldOnce : (Assoc.keys filter.placeholders).Nodup
  held : ∀ entry ∈ filter.placeholders, entry.2.count = 0 ∧ entry.2.id = entry.1
  /-- What no available facet backs reads back as it was selected. -/
  absent : (filter.selected.map FacetValue.id).Nodup →
    ∀ (i : Nat) (h : i < filter.selected.length),
      (∀ facet ∈ filter.available, facet.id ≠ filter.selected[i].id) →
      facets[i]? = some (.placeholder filter.selected[i])

/-- **The selection of a filter that comes about reads back whole**: as ids, as facets and
as choices, one for each selected value in order, whatever the last response listed.  Only a
kind that is supplied with other conversions is set aside. -/
theorem selection_reads_back {filter : Filter} (h : filter.Reachable)
    (hkeeps : filter.kind.KeepsConversions) (hzero : filter.OffersNoNegativeZero) :
    ∃ facets, filter.ReadsBackAs facets := by
  have settled : filter.Settled := h.settled hkeeps
  have hids : (filter.selected.map filter.facetFor).map Facet.id =
      filter.selected.map FacetValue.id := by
    rw [List.map_map]
    exact List.map_congr_left fun value hvalue => id_facetFor settled hvalue
  refine ⟨filter.selected.map filter.facetFor, ?_⟩
  constructor
  case selectedIds => exact selectedIds_eq settled
  case selectedFacets => exact selectedFacets_eq settled hzero
  case selectedChoices => exact selectedChoices_eq settled hzero
  case facetIds => exact hids
  case choiceIds =>
    rw [List.map_map, ← hids]
    exact List.map_congr_left fun facet _ => choice_id hkeeps facet
  case marked =>
    intro choice hchoice
    obtain ⟨facet, hfacet, rfl⟩ := List.mem_map.1 hchoice
    obtain ⟨value, hvalue, rfl⟩ := List.mem_map.1 hfacet
    show filter.isSelected (filter.kind.idOf (filter.facetFor value).key) = true
    rw [FilterKind.idOf_eq hkeeps, ← Facet.id, id_facetFor settled hvalue]
    exact isSelected_id settled hvalue
  case heldIds =>
    intro id
    rw [settled.placeholders]
    exact mem_keys_placeholdersOf hkeeps
  case heldOnce =>
    rw [settled.placeholders]
    exact nodup_keys_placeholdersOf hkeeps _
  case held =>
    intro entry hentry
    rw [settled.placeholders] at hentry
    obtain ⟨value, -, rfl⟩ := exists_of_mem_placeholdersOf hkeeps hentry
    exact ⟨rfl, rfl⟩
  case absent =>
    intro hnodup i hi habsent
    rw [List.getElem?_map, List.getElem?_eq_getElem hi, Option.map_some,
      facetFor_of_absent settled hnodup (List.getElem_mem hi) habsent]

/-- The intervals below and above one are selected, and only the second is listed. -/
theorem selection_reads_back_of_two_intervals :
    let one : Binary64 := .finite false ⟨1023 * blockRanks, by decide⟩
    let below : FacetValue := .range ⟨none, some one⟩
    let above : FacetValue := .range ⟨some one, none⟩
    let offering := (ofKind "ratio" (.range (.ofRanges []))).withFacets [⟨above, 3⟩]
    ∃ filter facets, offering.select [below, above] = .ok filter ∧ filter.OffersNoNegativeZero ∧
      filter.ReadsBackAs facets := by
  intro one below above offering
  let filter : Filter :=
    { offering with
      selected := [below, above]
      placeholders := placeholdersOf offering.kind [below, above] }
  have hselect : offering.select [below, above] = .ok filter := rfl
  have hzero : filter.OffersNoNegativeZero := by
    intro options _ facet hfacet
    rw [List.mem_singleton.1 hfacet]
    decide
  have hreach : filter.Reachable := .select (.withFacets _ (.ofKind _ _)) hselect
  obtain ⟨facets, hreads⟩ := selection_reads_back hreach trivial hzero
  exact ⟨filter, facets, hselect, hzero, hreads⟩

end Filter
end FacetedSearch
