import FacetedSearch.Proofs.Filter.Selection

/-!
# The intervals that a filter selects are those that ids can carry

A filter over intervals refuses to select an interval with a bound that is negative, infinite or
no number.  It has to, as the id of such an interval is not the id of anything: a minus sign
looks like the dash between the bounds, and the others are words.  And it refuses no more than
that.  The id of every interval that it selects is read as the same interval, bit by bit, so
that the selection of such a filter can be told by its ids.

Both the guard and the reader come down to one condition, `Bounds.isEncodable`, so the two are
stated as equations with the same branches.

* `FilterKind.accept_range`, `FilterKind.ofId_range_id`: the guard, and the reader of ids;
* `FilterKind.accepted?_range`: what is selected is selected as it is;
* `FilterKind.range_guard_exact`: the guard lets through what is read back.
-/

namespace FacetedSearch
namespace FilterKind

variable {options : RangeOptions} {name : String} {bounds : Bounds}

/-! ## The guard and the reader -/

theorem accept_range (options : RangeOptions) (name : String) (bounds : Bounds) :
    (range options).accept name (.range bounds) =
      if bounds.isEncodable then .ok (.range bounds)
      else .error (.incompatibleValue name (FacetValue.range bounds).shown) := by
  rfl

theorem ofId_range_id (options : RangeOptions) (bounds : Bounds) :
    (range options).ofId bounds.id =
      if bounds.isEncodable then .ok (.range bounds) else .error (.invalidRangeId bounds.id) := by
  rw [ofId_range]
  by_cases h : bounds.isEncodable = true
  · rw [if_pos h]
    simp only [Bounds.ofId?_id h]
  · rw [if_neg h]
    cases hread : Bounds.ofId? bounds.id with
    | none => rfl
    | some read => exact absurd (Bounds.isEncodable_of_ofId?_id hread) h

theorem exists_accept_range_iff :
    (∃ accepted, (range options).accept name (.range bounds) = .ok accepted) ↔
      bounds.isEncodable = true := by
  rw [accept_range]
  by_cases h : bounds.isEncodable = true
  · rw [if_pos h]
    exact iff_of_true ⟨_, rfl⟩ h
  · rw [if_neg h]
    refine iff_of_false ?_ h
    rintro ⟨accepted, haccepted⟩
    cases haccepted

/-! ## Selections -/

/-- What a filter over intervals selects is an interval, and it is selected as it is. -/
theorem accepted?_range {value accepted : FacetValue}
    (h : (range options).accepted? value = some accepted) :
    ∃ bounds, value = .range bounds ∧ bounds.isEncodable = true ∧ accepted = value := by
  cases value with
  | term t => cases h
  | range bounds =>
    simp only [accepted?] at h
    split at h
    · next hencodable => exact ⟨bounds, rfl, hencodable, (Option.some.inj h).symm⟩
    · cases h

theorem eq_of_mapM_accept_range {values accepted : List FacetValue}
    (h : values.mapM ((range options).accept name) = .ok accepted) : accepted = values := by
  have hkeeps : (range options).KeepsConversions := trivial
  rw [Fallible.mapM_eq_ok_iff] at h
  induction h with
  | nil => rfl
  | cons haccept _ ih =>
    obtain ⟨-, -, -, rfl⟩ := accepted?_range ((accept_eq_ok_iff hkeeps).1 haccept)
    rw [ih]

/-- **The guard is exact.**  A filter over intervals accepts an interval exactly if the id of the
interval is read as that interval; otherwise the id cannot be read at all.  So different
intervals that are accepted have different ids, and what was selected is what its ids are read
as. -/
theorem range_guard_exact (options : RangeOptions) (name : String) :
    let kind := FilterKind.range options
    (∀ bounds : Bounds, (∃ accepted, kind.accept name (.range bounds) = .ok accepted) ↔
      kind.ofId bounds.id = .ok (.range bounds)) ∧
    (∀ bounds : Bounds, (¬∃ accepted, kind.accept name (.range bounds) = .ok accepted) →
      kind.ofId bounds.id = .error (.invalidRangeId bounds.id)) ∧
    (∀ a b : Bounds, (∃ accepted, kind.accept name (.range a) = .ok accepted) →
      (∃ accepted, kind.accept name (.range b) = .ok accepted) → a.id = b.id → a = b) ∧
    ∀ (filter next : Filter) (values : List FacetValue), filter.kind = kind →
      filter.select values = .ok next →
        next.selected = values ∧
          ∃ ids, next.selectedIds = .ok ids ∧ ids.mapM kind.ofId = .ok values := by
  intro kind
  refine ⟨fun bounds => ?_, fun bounds hrefused => ?_, fun a b ha hb hid => ?_,
    fun filter next values hkind hselect => ?_⟩
  · rw [exists_accept_range_iff, ofId_range_id]
    by_cases h : bounds.isEncodable = true
    · rw [if_pos h]
      exact iff_of_true h rfl
    · rw [if_neg h]
      exact iff_of_false h nofun
  · rw [exists_accept_range_iff] at hrefused
    rw [ofId_range_id, if_neg hrefused]
  · rw [exists_accept_range_iff] at ha hb
    have hread : Bounds.ofId? a.id = some b := hid ▸ Bounds.ofId?_id hb
    exact Option.some.inj ((Bounds.ofId?_id ha).symm.trans hread)
  · have hkeeps : filter.kind.KeepsConversions := hkind ▸ trivial
    have settled := Filter.settled_select hkeeps hselect
    obtain ⟨accepted, haccepted, rfl⟩ := (Filter.select_eq_ok_iff_of_keeps hkeeps).1 hselect
    rw [hkind] at haccepted
    obtain rfl := eq_of_mapM_accept_range haccepted
    refine ⟨rfl, _, Filter.selectedIds_eq settled, ?_⟩
    rw [List.mapM_map]
    have hread : ∀ value ∈ accepted, kind.ofId value.id = .ok value := by
      intro value hvalue
      have haccept : filter.kind.accepted? value = some value := settled.accepted value hvalue
      rw [hkind] at haccept
      obtain ⟨bounds, rfl, hencodable, -⟩ := accepted?_range haccept
      exact (ofId_range_id options bounds).trans (if_pos hencodable)
    have hmap := Fallible.mapM_eq_ok_map hread
    rwa [List.map_id'] at hmap

/-- Below one, from one on, and from minus one on, which an id cannot say. -/
theorem range_guard_exact_around_one :
    let kind := FilterKind.range (.ofRanges [])
    let one : Binary64 := .finite false ⟨1023 * blockRanks, by decide⟩
    let minusOne : Binary64 := .finite true ⟨1023 * blockRanks, by decide⟩
    let below : Bounds := ⟨none, some one⟩
    let above : Bounds := ⟨some one, none⟩
    let filter := Filter.ofKind "price" kind
    ∃ next, filter.select [.range below, .range above] = .ok next ∧
      (∃ ids, next.selectedIds = .ok ids ∧
        ids.mapM kind.ofId = .ok [.range below, .range above]) ∧
      kind.ofId (Bounds.id ⟨some minusOne, none⟩) =
        .error (.invalidRangeId (Bounds.id ⟨some minusOne, none⟩)) ∧
      below.id ≠ above.id := by
  intro kind one minusOne below above filter
  obtain ⟨-, hrefused, hdistinct, hselection⟩ := range_guard_exact (.ofRanges []) "price"
  obtain ⟨next, hselect⟩ : ∃ next, filter.select [.range below, .range above] = .ok next :=
    ⟨_, rfl⟩
  have hminus : ¬∃ accepted, kind.accept "price" (.range ⟨some minusOne, none⟩) = .ok accepted := by
    rw [exists_accept_range_iff]
    decide
  have hbelow : ∃ accepted, kind.accept "price" (.range below) = .ok accepted := ⟨_, rfl⟩
  have habove : ∃ accepted, kind.accept "price" (.range above) = .ok accepted := ⟨_, rfl⟩
  have hne : below ≠ above := by decide
  exact ⟨next, hselect, (hselection filter next _ rfl hselect).2, hrefused _ hminus,
    fun hid => hne (hdistinct below above hbelow habove hid)⟩

end FilterKind
end FacetedSearch
