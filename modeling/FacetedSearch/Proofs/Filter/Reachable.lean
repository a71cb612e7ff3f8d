import FacetedSearch.Filter.Basic
import FacetedSearch.Proofs.Assoc
import FacetedSearch.Proofs.Fallible

/-!
# What becomes of a filter

A filter starts with nothing offered and nothing selected.  From then on its looks can be
changed, values selected, facets offered and responses taken over, in any order; a step
that fails leaves the filter as it was.  `Filter.Reachable` collects the filters that come
about in this way.

## The invariant

Selected values and placeholders only change together.  `Filter.Settled` says how they
belong together: every selected value is in the form in which its kind selects it, and the
placeholders are those of the selected values.  Selecting establishes this because bringing
a value into its form twice changes nothing, and no other step touches either of the two.

A kind that is supplied can bring conversions of its own, of which nothing is known.  The
invariant is about the others, `FilterKind.KeepsConversions`.

* `FilterKind.accepted?`: the form in which a kind selects a value;
* `Filter.Look`, `Filter.withLook`: what can be said of a filter beside its name and kind;
* `Filter.Reachable`: the filters that come about;
* `Filter.Settled`, `Filter.Reachable.settled`: the invariant.
-/

namespace FacetedSearch

namespace FilterKind

/-! ## The form of a selected value -/

/-- Filters over terms, integer terms and intervals. -/
def isBuiltIn : FilterKind → Bool
  | .custom _ => false
  | _ => true

/-- The kind does not replace the conversions: if it is supplied, it has the usual ones. -/
def KeepsConversions : FilterKind → Prop
  | .custom kind => kind.conversions = .usual
  | _ => True

theorem keepsConversions_of_isBuiltIn {kind : FilterKind} (h : kind.isBuiltIn = true) :
    kind.KeepsConversions := by
  cases kind with
  | custom other => cases h
  | _ => trivial

/-- The form in which a kind that keeps the conversions selects a value: terms as they are,
integers for terms that denote one, and intervals that an id can carry. -/
def accepted? (kind : FilterKind) (value : FacetValue) : Option FacetValue :=
  match kind with
  | .term _ | .custom _ =>
    match value with
    | .term t => some (.term t)
    | .range _ => none
  | .numeric _ => (integerOf? value).map fun n => .term (.int n)
  | .range _ =>
    match value with
    | .range bounds => if bounds.isEncodable then some (.range bounds) else none
    | .term _ => none

section Keeps

variable {kind : FilterKind} (hkeeps : kind.KeepsConversions)
include hkeeps

theorem idOf_eq (key : FacetValue) : kind.idOf key = key.id := by
  cases kind with
  | custom other => rw [idOf, conversions, show other.conversions = .usual from hkeeps]; rfl
  | _ => rfl

theorem valueOf_eq (key : FacetValue) : kind.valueOf key = key := by
  cases kind with
  | custom other => rw [valueOf, conversions, show other.conversions = .usual from hkeeps]; rfl
  | _ => rfl

theorem map_valueOf (keys : List FacetValue) : keys.map kind.valueOf = keys :=
  List.map_id'' (valueOf_eq hkeeps) keys

/-- Ids are read as integers or intervals by filters over these, and otherwise as texts. -/
theorem ofId_eq (id : String) :
    kind.ofId id = match kind with
      | .numeric _ => (match integerOfText? id with
        | some n => .ok (.term (.int n))
        | none => .error (.invalidNumericId id))
      | .range _ => (match Bounds.ofId? id with
        | some bounds => .ok (.range bounds)
        | none => .error (.invalidRangeId id))
      | .term _ | .custom _ => .ok (.term (.text id)) := by
  cases kind with
  | custom other => rw [ofId, conversions, show other.conversions = .usual from hkeeps]; rfl
  | _ => rfl

/-- A value is selected in its form, or refused. -/
theorem accept_eq (name : String) (value : FacetValue) :
    kind.accept name value =
      match kind.accepted? value with
      | some accepted => .ok accepted
      | none => refuseValue name value := by
  cases kind with
  | term options => cases value <;> rfl
  | custom other =>
    rw [accept, conversions, show other.conversions = .usual from hkeeps]
    cases value <;> rfl
  | numeric options =>
    simp only [accept, conversions, accepted?]
    cases integerOf? value <;> rfl
  | range options =>
    cases value with
    | term t => rfl
    | range bounds =>
      simp only [accept, conversions, accepted?]
      split <;> rfl

theorem accept_eq_ok_iff {name : String} {value accepted : FacetValue} :
    kind.accept name value = .ok accepted ↔ kind.accepted? value = some accepted := by
  rw [accept_eq hkeeps]
  cases kind.accepted? value with
  | none => simp [refuseValue]
  | some other => simp

end Keeps

/-- **The form in which a kind selects a value is final.** -/
theorem accepted?_accepted {kind : FilterKind} {value accepted : FacetValue}
    (h : kind.accepted? value = some accepted) : kind.accepted? accepted = some accepted := by
  cases kind with
  | term options | custom other =>
    cases value with
    | term t =>
      cases h
      rfl
    | range bounds => cases h
  | numeric options =>
    obtain ⟨n, -, rfl⟩ := Option.map_eq_some_iff.1 h
    rfl
  | range options =>
    cases value with
    | term t => cases h
    | range bounds =>
      simp only [accepted?] at h
      split at h
      · next hencodable =>
        cases h
        simp only [accepted?, hencodable, if_true]
      · cases h

end FilterKind

namespace Filter

/-! ## The filters that come about -/

/-- What can be said of a filter beside its name and kind. -/
structure Look where
  label : String
  enabled : Switch
  multiple : Bool
  combination : Combination
  lead : String
  trail : String
  expandable : Bool
  collapsible : Bool

/-- The same filter with other looks. -/
def withLook (filter : Filter) (look : Look) : Filter :=
  { filter with
    label := look.label
    enabled := look.enabled
    multiple := look.multiple
    combination := look.combination
    lead := look.lead
    trail := look.trail
    expandable := look.expandable
    collapsible := look.collapsible }

/-- The filters that come about from a new one, step by step. -/
inductive Reachable : Filter → Prop where
  | ofKind (name : String) (kind : FilterKind) : Reachable (ofKind name kind)
  | withLook {filter : Filter} (look : Look) (h : Reachable filter) :
      Reachable (filter.withLook look)
  | select {filter next : Filter} {values : List FacetValue} (h : Reachable filter)
      (hselect : filter.select values = .ok next) : Reachable next
  | clear {filter : Filter} (h : Reachable filter) : Reachable filter.clear
  | withFacets {filter : Filter} (facets : List Facet) (h : Reachable filter) :
      Reachable (filter.withFacets facets)
  | withTally {filter : Filter} (tally : Tally) (h : Reachable filter) :
      Reachable (filter.withTally tally)
  | readTotals {filter next : Filter} {flags : Flags} {response : Response} {facets : List Facet}
      (h : Reachable filter) (hread : filter.readTotals flags response = .ok (facets, next)) :
      Reachable next
  | refresh {filter next : Filter} {flags : Flags} {response : Response} (h : Reachable filter)
      (hrefresh : filter.refresh flags response = .ok next) : Reachable next

/-! ## Specifications of the steps -/

/-- Selecting replaces the selection by what the kind selects for the values, and the
placeholders with it, and leaves the rest. -/
theorem select_eq_ok_iff {filter next : Filter} {values : List FacetValue} :
    filter.select values = .ok next ↔
      ∃ keys, values.mapM (filter.kind.accept filter.name) = .ok keys ∧
        next = { filter with
          selected := keys.map filter.kind.valueOf
          placeholders := placeholdersOf filter.kind keys } :=
  Fallible.map_eq_ok_iff

/-- The same for a kind that keeps the conversions: the forms of the values are selected. -/
theorem select_eq_ok_iff_of_keeps {filter next : Filter} {values : List FacetValue}
    (hkeeps : filter.kind.KeepsConversions) :
    filter.select values = .ok next ↔
      ∃ accepted, values.mapM (filter.kind.accept filter.name) = .ok accepted ∧
        next = { filter with
          selected := accepted, placeholders := placeholdersOf filter.kind accepted } := by
  simp only [select_eq_ok_iff, FilterKind.map_valueOf hkeeps]

theorem refresh_eq_ok_iff {flags : Flags} {filter next : Filter} {response : Response} :
    filter.refresh flags response = .ok next ↔
      ∃ tally, filter.tally flags response = .ok tally ∧ next = filter.withTally tally :=
  Fallible.map_eq_ok_iff

theorem readTotals_eq_ok_iff {flags : Flags} {filter next : Filter} {response : Response}
    {facets : List Facet} :
    filter.readTotals flags response = .ok (facets, next) ↔
      ∃ tally, filter.tally flags response = .ok tally ∧
        (facets, next) = (tally.facets, filter.withTotals tally) :=
  Fallible.map_eq_ok_iff

/-! ## The invariant -/

/-- The kind keeps the conversions, selected values are in their final form, and each has its
placeholder. -/
structure Settled (filter : Filter) : Prop where
  keeps : filter.kind.KeepsConversions
  accepted : ∀ value ∈ filter.selected, filter.kind.accepted? value = some value
  placeholders : filter.placeholders = placeholdersOf filter.kind filter.selected

/-- Nothing is selected, so nothing is held. -/
theorem settled_clear {filter : Filter} (hkeeps : filter.kind.KeepsConversions) :
    filter.clear.Settled :=
  ⟨hkeeps, fun _ h => absurd h List.not_mem_nil, rfl⟩

theorem settled_select {filter next : Filter} {values : List FacetValue}
    (hkeeps : filter.kind.KeepsConversions) (h : filter.select values = .ok next) :
    next.Settled := by
  obtain ⟨accepted, hmap, rfl⟩ := (select_eq_ok_iff_of_keeps hkeeps).1 h
  refine ⟨hkeeps, fun value hvalue => ?_, rfl⟩
  obtain ⟨given, -, hgiven⟩ := Fallible.exists_of_mem_of_mapM hmap hvalue
  exact FilterKind.accepted?_accepted ((FilterKind.accept_eq_ok_iff hkeeps).1 hgiven)

/-- Selecting does not change the kind. -/
theorem kind_of_select {filter next : Filter} {values : List FacetValue}
    (h : filter.select values = .ok next) : next.kind = filter.kind := by
  obtain ⟨keys, -, rfl⟩ := select_eq_ok_iff.1 h
  rfl

/-- **Every filter that comes about is settled**, if its kind keeps the conversions. -/
theorem Reachable.settled {filter : Filter} (h : filter.Reachable)
    (hkeeps : filter.kind.KeepsConversions) : filter.Settled := by
  induction h with
  | ofKind name kind => exact ⟨hkeeps, fun _ hmem => absurd hmem List.not_mem_nil, rfl⟩
  | withLook look _ ih => exact ⟨hkeeps, (ih hkeeps).accepted, (ih hkeeps).placeholders⟩
  | select _ hselect _ => exact settled_select (kind_of_select hselect ▸ hkeeps) hselect
  | clear _ _ => exact settled_clear hkeeps
  | withFacets facets _ ih => exact ⟨hkeeps, (ih hkeeps).accepted, (ih hkeeps).placeholders⟩
  | withTally tally _ ih => exact ⟨hkeeps, (ih hkeeps).accepted, (ih hkeeps).placeholders⟩
  | readTotals _ hread ih =>
    obtain ⟨tally, -, hpair⟩ := readTotals_eq_ok_iff.1 hread
    obtain ⟨-, rfl⟩ := Prod.mk.inj hpair
    exact ⟨hkeeps, (ih hkeeps).accepted, (ih hkeeps).placeholders⟩
  | refresh _ hrefresh ih =>
    obtain ⟨tally, -, rfl⟩ := refresh_eq_ok_iff.1 hrefresh
    exact ⟨hkeeps, (ih hkeeps).accepted, (ih hkeeps).placeholders⟩

end Filter
end FacetedSearch
