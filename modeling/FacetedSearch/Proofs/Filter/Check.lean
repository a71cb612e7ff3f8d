import FacetedSearch.Field
import FacetedSearch.Proofs.Assoc
import FacetedSearch.Proofs.Filter.Reachable

/-!
# What the check of a filter is good for

A filter is checked when it is handed over, and never again.  What is checked are its name, how
it is displayed and the options of its kind.  Nothing that is done with a filter later on
touches these, so it would pass its check at any time.

The check matters much later, when a facet is asked for.  A range facet counts over one field, or
over a pair of fields, or over a pair of scripts.  The halves of a pair are set one by one, and a
half that is missing would be written as null.  The check refuses half a pair, so what is written
names exactly one target, and in texts only.

* `Filter.check_eq_ok_iff`, `RangeOptions.check_eq_ok_iff`: what is checked;
* `Field.check_eq_error_iff`, `Filter.exists_fault_of_check`: what an item is refused for;
* `Filter.check_of_select`, `Filter.check_clear`, `Filter.check_of_refresh`: what does not change;
* `RangeOptions.NamesOneTarget`, `Filter.exists_rangeFacet`: what the facet of an interval filter
  counts.
-/

namespace FacetedSearch

/-! ## Intervals -/

namespace RangeOptions

/-- The groups of members that can say what a range facet counts. -/
def targetKeys : List (List String) :=
  [["field"], ["key_field", "value_field"], ["key_script", "value_script"]]

/-- One of the groups is there as texts, and no member of another. -/
def NamesOneTarget (members : Assoc Json) : Prop :=
  ∃ group ∈ targetKeys, (∀ key ∈ group, ∃ text, Assoc.get? key members = some (.str text)) ∧
    ∀ other ∈ targetKeys, other ≠ group → ∀ key ∈ other, Assoc.get? key members = none

/-- Half a pair does not pass. -/
theorem check_eq_ok_iff {options : RangeOptions} :
    options.check = .ok () ↔ options.keyField.isSome = options.valueField.isSome ∧
      options.keyScript.isSome = options.valueScript.isSome := by
  rw [check, Fallible.guard_eq_ok_iff, Fallible.guard_eq_ok_iff, not_not, not_not]
  exact and_congr_right fun _ => and_iff_left rfl

theorem exists_fault_of_check {options : RangeOptions} {error : SearchError}
    (h : options.check = .error error) : ∃ fault, error = .configuration fault := by
  rw [check, Fallible.guard_eq_error_iff, Fallible.guard_eq_error_iff] at h
  rcases h with ⟨-, rfl⟩ | ⟨-, ⟨-, rfl⟩ | ⟨-, h⟩⟩
  · exact ⟨_, rfl⟩
  · exact ⟨_, rfl⟩
  · cases h

theorem namesOneTarget_of_keys {members : Assoc Json} {group : List String}
    (hgroup : group ∈ targetKeys) (hkeys : Assoc.keys members = group ++ ["ranges"])
    (htexts : ∀ key ∈ group, ∃ text, Assoc.get? key members = some (.str text)) :
    NamesOneTarget members := by
  have hapart : ∀ group ∈ targetKeys, ∀ other ∈ targetKeys, other ≠ group →
      ∀ key ∈ other, key ∉ group ++ ["ranges"] := by decide
  refine ⟨group, hgroup, htexts, fun other hother hne key hkey => ?_⟩
  rw [Assoc.get?_eq_none_iff, hkeys]
  exact hapart group hgroup other hother hne key hkey

/-- **Options that pass the check name one target.** -/
theorem namesOneTarget_target {options : RangeOptions} (h : options.check = .ok ())
    (name : String) (ranges : Json) :
    NamesOneTarget (options.target name ++ [("ranges", ranges)]) := by
  obtain ⟨hfields, hscripts⟩ := check_eq_ok_iff.1 h
  have hgroups : ["field"] ∈ targetKeys ∧ ["key_field", "value_field"] ∈ targetKeys ∧
      ["key_script", "value_script"] ∈ targetKeys := by decide
  unfold target
  cases hkeyField : options.keyField with
  | some keyField =>
    rw [hkeyField] at hfields
    obtain ⟨valueField, hvalueField⟩ := Option.isSome_iff_exists.1 hfields.symm
    rw [hvalueField]
    exact namesOneTarget_of_keys hgroups.2.1 rfl
      (List.forall_mem_cons.2 ⟨⟨keyField, rfl⟩, List.forall_mem_singleton.2 ⟨valueField, rfl⟩⟩)
  | none =>
    cases hkeyScript : options.keyScript with
    | some keyScript =>
      rw [hkeyScript] at hscripts
      obtain ⟨valueScript, hvalueScript⟩ := Option.isSome_iff_exists.1 hscripts.symm
      rw [hvalueScript]
      exact namesOneTarget_of_keys hgroups.2.2 rfl
        (List.forall_mem_cons.2 ⟨⟨keyScript, rfl⟩, List.forall_mem_singleton.2 ⟨valueScript, rfl⟩⟩)
    | none =>
      exact namesOneTarget_of_keys hgroups.1 rfl
        (List.forall_mem_singleton.2 ⟨name, rfl⟩)

end RangeOptions

/-! ## Fields and filters -/

theorem Field.check_eq_ok_iff {field : Field} : field.check = .ok () ↔ field.name ≠ "" := by
  rw [check, Fallible.guard_eq_ok_iff]
  exact and_iff_left rfl

theorem Field.check_eq_error_iff {field : Field} {error : SearchError} :
    field.check = .error error ↔ field.name = "" ∧ error = .configuration .nameRequired := by
  rw [check, Fallible.guard_eq_error_iff]
  exact or_iff_left fun h => nomatch h.2

namespace Filter

variable {flags : Flags} {filter next : Filter}

/-- What is checked of a filter. -/
theorem check_eq_ok_iff :
    filter.check = .ok () ↔ filter.name ≠ "" ∧
      (filter.expandable = true ∨ filter.collapsible = true) ∧ filter.kind.check = .ok () := by
  rw [check, Fallible.guard_eq_ok_iff, Fallible.guard_eq_ok_iff, Bool.and_eq_true,
    Bool.not_eq_true', Bool.not_eq_true', not_and_or, Bool.not_eq_false, Bool.not_eq_false]

/-- A filter is refused for a fault of its definition, unless its kind is supplied. -/
theorem exists_fault_of_check {error : SearchError} (hbuiltin : filter.kind.isBuiltIn = true)
    (h : filter.check = .error error) : ∃ fault, error = .configuration fault := by
  rw [check, Fallible.guard_eq_error_iff, Fallible.guard_eq_error_iff] at h
  rcases h with ⟨-, rfl⟩ | ⟨-, ⟨-, rfl⟩ | ⟨-, h⟩⟩
  · exact ⟨_, rfl⟩
  · exact ⟨_, rfl⟩
  · cases hkind : filter.kind with
    | range options =>
      rw [hkind] at h
      exact RangeOptions.exists_fault_of_check h
    | term options | numeric options =>
      rw [hkind] at h
      cases h
    | custom kind =>
      rw [hkind] at hbuiltin
      cases hbuiltin

theorem check_of_select {values : List FacetValue} (h : filter.select values = .ok next) :
    next.check = filter.check := by
  obtain ⟨accepted, -, rfl⟩ := select_eq_ok_iff.1 h
  rfl

theorem check_clear (filter : Filter) : filter.clear.check = filter.check := rfl

theorem check_of_refresh {response : Response} (h : filter.refresh flags response = .ok next) :
    next.check = filter.check := by
  obtain ⟨tally, -, rfl⟩ := refresh_eq_ok_iff.1 h
  rfl

/-- **The facet of an interval filter that is on names one target**, however it is confined. -/
theorem exists_rangeFacet {options : RangeOptions} (hcheck : filter.check = .ok ())
    (hkind : filter.kind = .range options) (hon : filter.enabled.isOn flags = true)
    (confinement : Option Json) :
    ∃ facet members, filter.facetRequest? flags confinement = some (.obj facet) ∧
      Assoc.get? "range" facet = some (.obj members) ∧ RangeOptions.NamesOneTarget members := by
  have hoptions : options.check = .ok () := by
    have hchecked := (check_eq_ok_iff.1 hcheck).2.2
    rwa [hkind] at hchecked
  have htarget := RangeOptions.namesOneTarget_target hoptions filter.name
    (.arr (options.ranges.map fun bucket => bucket.bounds.toJson))
  unfold facetRequest?
  rw [if_pos hon, hkind]
  cases confinement with
  | none => exact ⟨_, _, rfl, rfl, htarget⟩
  | some condition => exact ⟨_, _, rfl, Assoc.get?_insert_of_ne _ _ (by decide), htarget⟩

end Filter
end FacetedSearch
