import FacetedSearch.Proofs.Filter.Reachable
import FacetedSearch.Request.Section

/-!
# Reading conditions

A condition is read over an assignment of truth values to fragments, the conditions for
single selected values: `and` says that all of its items hold, `or` that some do, and a
section that is absent holds.  So the condition of a filter says what its selection asks
for: nothing if nothing is selected, and otherwise that the fragments of some value hold,
or of all, as the filter combines them.

## Fields

A condition names the field of its filter, and it does so in a place that comparing two
conditions gets to: at the head of the fragment, or of the first of several.  So conditions
that are the same name the same field.

* `Json.Holds`, `Json.SectionHolds`: reading conditions;
* `Json.IsFragment`, `Json.Concerns`, `Json.Concerns.eq_of_sameValue`: the named field;
* `Filter.Admits`, `Filter.sectionHolds_condition?`: what a selection asks for;
* `Filter.concerns_of_condition?`: which field its condition names.
-/

namespace FacetedSearch

namespace Json

/-! ## Reading conditions -/

mutual

/-- Whether a condition holds, over an assignment of truth values to fragments. -/
def Holds (leaf : Json → Prop) : Json → Prop
  | .obj [("and", .arr items)] => AllHold leaf items
  | .obj [("or", .arr items)] => SomeHolds leaf items
  | fragment => leaf fragment

/-- Whether all of several conditions hold. -/
def AllHold (leaf : Json → Prop) : List Json → Prop
  | [] => True
  | item :: rest => Holds leaf item ∧ AllHold leaf rest

/-- Whether some of several conditions hold. -/
def SomeHolds (leaf : Json → Prop) : List Json → Prop
  | [] => False
  | item :: rest => Holds leaf item ∨ SomeHolds leaf rest

end

/-- Whether the condition in a section holds, which it does if there is none. -/
def SectionHolds (leaf : Json → Prop) : Option Json → Prop
  | none => True
  | some condition => condition.Holds leaf

variable {leaf : Json → Prop}

theorem allHold_iff {items : List Json} :
    AllHold leaf items ↔ ∀ item ∈ items, item.Holds leaf := by
  induction items with
  | nil => exact ⟨fun _ _ hitem => absurd hitem List.not_mem_nil, fun _ => trivial⟩
  | cons item rest ih => rw [AllHold, ih, List.forall_mem_cons]

theorem someHolds_iff {items : List Json} :
    SomeHolds leaf items ↔ ∃ item ∈ items, item.Holds leaf := by
  induction items with
  | nil =>
    constructor
    · exact False.elim
    · rintro ⟨_, hitem, -⟩
      exact absurd hitem List.not_mem_nil
  | cons item rest ih => rw [SomeHolds, ih, List.exists_mem_cons_iff]

theorem holds_and {items : List Json} :
    (single "and" (.arr items)).Holds leaf ↔ ∀ item ∈ items, item.Holds leaf := by
  rw [single, Holds, allHold_iff]

theorem holds_or {items : List Json} :
    (single "or" (.arr items)).Holds leaf ↔ ∃ item ∈ items, item.Holds leaf := by
  rw [single, Holds, someHolds_iff]

/-- The conjunction of a list holds if every item does, however many there are. -/
theorem sectionHolds_allOf? {items : List Json} :
    SectionHolds leaf (allOf? items) ↔ ∀ item ∈ items, item.Holds leaf := by
  cases items with
  | nil => exact ⟨fun _ _ hitem => absurd hitem List.not_mem_nil, fun _ => trivial⟩
  | cons first rest =>
    cases rest with
    | nil =>
      rw [allOf?_singleton, List.forall_mem_singleton]
      exact Iff.rfl
    | cons second rest =>
      rw [allOf?_cons_cons]
      exact holds_and

/-! ## Fragments, and the fields that they name -/

/-- The condition for a single value of a field. -/
inductive IsFragment (name : String) : Json → Prop where
  | phrase (matcher : Json) :
      IsFragment name (single "query" (single "match" (single name matcher)))
  | interval (ends : Json) : IsFragment name (single "range" (single name ends))

/-- A condition for values of a field, combined or single. -/
inductive Concerns (name : String) : Json → Prop where
  | fragment {condition : Json} (h : IsFragment name condition) : Concerns name condition
  | combined (word : String) {first : Json} (rest : List Json) (h : IsFragment name first) :
      Concerns name (single word (.arr (first :: rest)))

variable {name other : String} {first second condition : Json}

/-- A fragment is not read any further. -/
theorem IsFragment.holds_iff (h : IsFragment name condition) :
    condition.Holds leaf ↔ leaf condition := by
  cases h with
  | phrase matcher => exact Iff.rfl
  | interval ends => exact Iff.rfl

theorem Concerns.exists_eq_single (h : Concerns name condition) :
    ∃ key value, condition = single key value := by
  cases h with
  | fragment hfragment =>
    cases hfragment with
    | phrase matcher => exact ⟨_, _, rfl⟩
    | interval ends => exact ⟨_, _, rfl⟩
  | combined word rest hfirst => exact ⟨_, _, rfl⟩

theorem sameValue_single (key key' : String) (value value' : Json) :
    (single key value).sameValue (single key' value') =
      (decide (key' = key) && value.sameValue value') := by
  simp only [single, sameValue, sameMembers, Assoc.get?_cons, Assoc.get?_nil, List.length_cons,
    List.length_nil, beq_self_eq_true, Bool.true_and, Bool.and_true]
  by_cases h : key' = key
  · simp [h]
  · simp [h]

/-- Fragments that are the same name the same field. -/
theorem IsFragment.eq_of_sameValue (hfirst : IsFragment name first)
    (hsecond : IsFragment other second) (h : first.sameValue second = true) : name = other := by
  cases hfirst with
  | phrase matcher =>
    cases hsecond with
    | phrase matcher' =>
      simp only [sameValue_single, Bool.and_eq_true, decide_eq_true_eq] at h
      exact h.2.2.1.symm
    | interval ends' =>
      rw [sameValue_single] at h
      exact absurd h (by simp)
  | interval ends =>
    cases hsecond with
    | phrase matcher' =>
      rw [sameValue_single] at h
      exact absurd h (by simp)
    | interval ends' =>
      simp only [sameValue_single, Bool.and_eq_true, decide_eq_true_eq] at h
      exact h.2.1.symm

/-- A combination is never the same as a fragment. -/
theorem IsFragment.exists_obj (h : IsFragment name condition) :
    ∃ key members, condition = single key (.obj members) := by
  cases h with
  | phrase matcher => exact ⟨_, _, rfl⟩
  | interval ends => exact ⟨_, _, rfl⟩

/-- **Conditions that are the same name the same field.** -/
theorem Concerns.eq_of_sameValue (hfirst : Concerns name first) (hsecond : Concerns other second)
    (h : first.sameValue second = true) : name = other := by
  cases hfirst with
  | fragment hfragment =>
    cases hsecond with
    | fragment hfragment' => exact hfragment.eq_of_sameValue hfragment' h
    | combined word rest _ =>
      obtain ⟨key, members, rfl⟩ := hfragment.exists_obj
      rw [sameValue_single, Bool.and_eq_true] at h
      exact absurd h.2 Bool.false_ne_true
  | combined word rest hhead =>
    cases hsecond with
    | fragment hfragment' =>
      obtain ⟨key, members, rfl⟩ := hfragment'.exists_obj
      rw [sameValue_single, Bool.and_eq_true] at h
      exact absurd h.2 Bool.false_ne_true
    | combined word' rest' hhead' =>
      rw [sameValue_single, Bool.and_eq_true, sameValue, sameItems, Bool.and_eq_true] at h
      exact hhead.eq_of_sameValue hhead' h.2.1

end Json

namespace FilterKind

/-! ## Fragments of selected values -/

/-- A value that is in the form in which its kind selects it has a fragment. -/
theorem exists_fragment {kind : FilterKind} (hkind : kind.isBuiltIn = true) (name : String)
    {value : FacetValue} (h : kind.accepted? value = some value) :
    ∃ fragment, kind.condition? name value = some fragment ∧ Json.IsFragment name fragment := by
  cases kind with
  | custom other => exact absurd hkind Bool.false_ne_true
  | term options =>
    cases value with
    | term t => exact ⟨_, rfl, .phrase _⟩
    | range bounds => cases h
  | numeric options =>
    cases value with
    | term t => exact ⟨_, rfl, .phrase _⟩
    | range bounds => cases h
  | range options =>
    cases value with
    | term t => cases h
    | range bounds => exact ⟨_, rfl, .interval _⟩

end FilterKind

namespace Filter

/-! ## What a selection asks for -/

/-- The fragment of a value holds. -/
def FragmentHolds (leaf : Json → Prop) (filter : Filter) (value : FacetValue) : Prop :=
  ∃ fragment, filter.kind.condition? filter.name value = some fragment ∧ leaf fragment

/-- If anything is selected, the fragments of some selected values hold, or of all. -/
def Admits (leaf : Json → Prop) (filter : Filter) : Prop :=
  filter.selected ≠ [] → match filter.combination with
    | .any => ∃ value ∈ filter.selected, filter.FragmentHolds leaf value
    | .all => ∀ value ∈ filter.selected, filter.FragmentHolds leaf value

variable {filter : Filter} {leaf : Json → Prop}

theorem Settled.exists_fragment (settled : filter.Settled) (hkind : filter.kind.isBuiltIn = true)
    {value : FacetValue} (h : value ∈ filter.selected) :
    ∃ fragment, filter.kind.condition? filter.name value = some fragment ∧
      Json.IsFragment filter.name fragment :=
  FilterKind.exists_fragment hkind filter.name (settled.accepted value h)

/-- The conditions of the selected values, in order. -/
def fragments (filter : Filter) : List Json :=
  filter.selected.filterMap (filter.kind.condition? filter.name)

/-- No selected value is without a fragment, so all of them hold if the fragments do. -/
theorem forall_fragments_iff (settled : filter.Settled) (hkind : filter.kind.isBuiltIn = true) :
    (∀ fragment ∈ filter.fragments, fragment.Holds leaf) ↔
      ∀ value ∈ filter.selected, filter.FragmentHolds leaf value := by
  constructor
  · intro h value hvalue
    obtain ⟨fragment, hfragment, hshape⟩ := settled.exists_fragment hkind hvalue
    have hmem : fragment ∈ filter.fragments := List.mem_filterMap.2 ⟨value, hvalue, hfragment⟩
    exact ⟨fragment, hfragment, hshape.holds_iff.1 (h fragment hmem)⟩
  · intro h fragment hfragment
    obtain ⟨value, hvalue, heq⟩ := List.mem_filterMap.1 hfragment
    obtain ⟨fragment', heq', hshape⟩ := settled.exists_fragment hkind hvalue
    obtain ⟨fragment'', heq'', hleaf⟩ := h value hvalue
    obtain rfl : fragment' = fragment := Option.some.inj (heq'.symm.trans heq)
    obtain rfl : fragment'' = fragment' := Option.some.inj (heq''.symm.trans heq)
    exact hshape.holds_iff.2 hleaf

theorem exists_fragments_iff (settled : filter.Settled) (hkind : filter.kind.isBuiltIn = true) :
    (∃ fragment ∈ filter.fragments, fragment.Holds leaf) ↔
      ∃ value ∈ filter.selected, filter.FragmentHolds leaf value := by
  constructor
  · rintro ⟨fragment, hfragment, hholds⟩
    obtain ⟨value, hvalue, heq⟩ := List.mem_filterMap.1 hfragment
    obtain ⟨fragment', heq', hshape⟩ := settled.exists_fragment hkind hvalue
    obtain rfl : fragment' = fragment := Option.some.inj (heq'.symm.trans heq)
    exact ⟨value, hvalue, fragment', heq, hshape.holds_iff.1 hholds⟩
  · rintro ⟨value, hvalue, fragment, hfragment, hleaf⟩
    obtain ⟨fragment', heq', hshape⟩ := settled.exists_fragment hkind hvalue
    obtain rfl : fragment' = fragment := Option.some.inj (heq'.symm.trans hfragment)
    exact ⟨fragment', List.mem_filterMap.2 ⟨value, hvalue, hfragment⟩, hshape.holds_iff.2 hleaf⟩

/-- What a selection asks for is read off the fragments. -/
theorem admits_iff_fragments (settled : filter.Settled) (hkind : filter.kind.isBuiltIn = true)
    (hselected : filter.selected ≠ []) :
    filter.Admits leaf ↔ match filter.combination with
      | .any => ∃ fragment ∈ filter.fragments, fragment.Holds leaf
      | .all => ∀ fragment ∈ filter.fragments, fragment.Holds leaf := by
  unfold Admits
  cases filter.combination with
  | any => exact ⟨fun h => (exists_fragments_iff settled hkind).2 (h hselected),
      fun h _ => (exists_fragments_iff settled hkind).1 h⟩
  | all => exact ⟨fun h => (forall_fragments_iff settled hkind).2 (h hselected),
      fun h _ => (forall_fragments_iff settled hkind).1 h⟩

/-- The condition of a filter that is on: none, the one fragment, or a combination. -/
theorem condition?_cases {flags : Flags} (settled : filter.Settled)
    (hkind : filter.kind.isBuiltIn = true) (hon : filter.enabled.isOn flags = true) :
    (filter.selected = [] ∧ filter.condition? flags = none) ∨
    ∃ first rest, filter.selected ≠ [] ∧ filter.fragments = first :: rest ∧
      Json.IsFragment filter.name first ∧
      (filter.condition? flags = some (.single filter.combination.word (.arr (first :: rest))) ∨
        rest = [] ∧ filter.condition? flags = some first) := by
  have hfragment : ∀ value ∈ filter.selected, ∃ fragment,
      filter.kind.condition? filter.name value = some fragment ∧
        Json.IsFragment filter.name fragment :=
    fun value hvalue => settled.exists_fragment hkind hvalue
  unfold condition? fragments
  rw [if_pos hon]
  cases hselected : filter.selected with
  | nil => exact Or.inl ⟨rfl, rfl⟩
  | cons value others =>
    rw [hselected] at hfragment
    obtain ⟨fragment, hcondition, hshape⟩ := hfragment value List.mem_cons_self
    refine Or.inr ⟨fragment, _, List.cons_ne_nil _ _, List.filterMap_cons_some hcondition,
      hshape, ?_⟩
    cases others with
    | nil => exact Or.inr ⟨rfl, hcondition⟩
    | cons second others =>
      refine Or.inl ?_
      simp only [List.filterMap_cons_some hcondition]

/-- **The condition of a filter that is on holds exactly if the filter admits.** -/
theorem sectionHolds_condition? {flags : Flags} (settled : filter.Settled)
    (hkind : filter.kind.isBuiltIn = true) (hon : filter.enabled.isOn flags = true) :
    Json.SectionHolds leaf (filter.condition? flags) ↔ filter.Admits leaf := by
  rcases condition?_cases settled hkind hon with
    ⟨hnil, hnone⟩ | ⟨first, rest, hselected, hfragments, -, hcombined | ⟨rfl, hsingle⟩⟩
  · rw [hnone]
    exact ⟨fun _ hne => absurd hnil hne, fun _ => trivial⟩
  · rw [hcombined, admits_iff_fragments settled hkind hselected, hfragments]
    cases filter.combination with
    | any => exact Json.holds_or
    | all => exact Json.holds_and
  · rw [hsingle, admits_iff_fragments settled hkind hselected, hfragments]
    cases filter.combination with
    | any =>
      constructor
      · exact fun hholds => ⟨first, List.mem_singleton_self first, hholds⟩
      · rintro ⟨fragment, hfragment, hholds⟩
        rw [List.mem_singleton.1 hfragment] at hholds
        exact hholds
    | all =>
      constructor
      · intro hholds fragment hfragment
        rw [List.mem_singleton.1 hfragment]
        exact hholds
      · exact fun hall => hall first (List.mem_singleton_self first)

/-- The condition of a filter names its field. -/
theorem concerns_of_condition? {flags : Flags} {condition : Json} (settled : filter.Settled)
    (hkind : filter.kind.isBuiltIn = true) (h : filter.condition? flags = some condition) :
    condition.Concerns filter.name := by
  have hon : filter.enabled.isOn flags = true := by
    by_contra hoff
    rw [condition?, if_neg hoff] at h
    cases h
  rcases condition?_cases settled hkind hon with
    ⟨-, hnone⟩ | ⟨first, rest, -, -, hshape, hcombined | ⟨-, hsingle⟩⟩
  · rw [hnone] at h
    cases h
  · rw [← Option.some.inj (hcombined.symm.trans h)]
    exact .combined _ rest hshape
  · rw [← Option.some.inj (hsingle.symm.trans h)]
    exact .fragment hshape

end Filter
end FacetedSearch
