import FacetedSearch.Json.Basic
import FacetedSearch.Proofs.Assoc

/-!
# Comparing documents

Documents are compared without regard to the order of members, and by value where doubles are
concerned.  This is transitive for all trees, because a member is looked up in the other object
by its key, and what is found there is looked up in turn.

It is not reflexive for all trees.  `NaN` differs from itself, and in an object that repeats a
key the second member of that key is compared with the first.  A document that was read or
written has neither, and such a document equals itself.

* `Json.IsDocument`: what can be written down: doubles are finite, and keys are not repeated;
* `Json.sameMembers_iff`: comparing members by looking them up;
* `Json.sameValue_self`, `Json.sameValue_trans`: the laws of the comparison;
* `Json.isDocument_single`, `Json.isDocument_ofBinary64`: documents put together from others.
-/

namespace FacetedSearch

namespace Binary64

variable {x y z : Binary64}

theorem sameValue_self (h : x.isFinite = true) : x.sameValue x = true := by
  cases x with
  | nan | infinity negative => cases h
  | finite negative rank => simp [sameValue, compare?]

theorem sameValue_trans (h : x.sameValue y = true) (h' : y.sameValue z = true) :
    x.sameValue z = true := by
  cases x <;> cases y <;> cases z <;> simp_all [sameValue, compare?]

end Binary64

namespace Json

/-- What can be written down: every double is finite, and no object repeats a key. -/
inductive IsDocument : Json → Prop where
  | null : IsDocument .null
  | bool (value : Bool) : IsDocument (.bool value)
  | int (value : Int) : IsDocument (.int value)
  | float {value : Binary64} (h : value.isFinite = true) : IsDocument (.float value)
  | str (value : String) : IsDocument (.str value)
  | arr {items : List Json} (h : ∀ item ∈ items, IsDocument item) : IsDocument (.arr items)
  | obj {members : Assoc Json} (hkeys : (Assoc.keys members).Nodup)
      (h : ∀ member ∈ members, IsDocument member.2) : IsDocument (.obj members)

theorem isDocument_single {key : String} {document : Json} (h : document.IsDocument) :
    (single key document).IsDocument :=
  .obj (List.nodup_singleton key) (List.forall_mem_singleton.2 h)

/-- A double that has no spelling is not written as one. -/
theorem isDocument_ofBinary64 (x : Binary64) : (ofBinary64 x).IsDocument := by
  unfold ofBinary64
  split
  · next hfinite => exact .float hfinite
  · exact .null

/-! ## Members -/

/-- Members are compared by looking each of them up among the others. -/
theorem sameMembers_iff {members others : Assoc Json} :
    sameMembers members others = true ↔
      ∀ member ∈ members, ∃ other, Assoc.get? member.1 others = some other ∧
        member.2.sameValue other = true := by
  induction members with
  | nil => exact iff_of_true rfl fun _ hmember => absurd hmember List.not_mem_nil
  | cons member rest ih =>
    obtain ⟨key, document⟩ := member
    rw [sameMembers, Bool.and_eq_true, ih, List.forall_mem_cons]
    refine and_congr_left fun _ => ?_
    cases Assoc.get? key others with
    | none => simp
    | some other => simp

/-! ## A document equals itself -/

theorem sameItems_self {items : List Json} (h : ∀ item ∈ items, item.sameValue item = true) :
    sameItems items items = true := by
  induction items with
  | nil => rfl
  | cons item rest ih =>
    obtain ⟨hitem, hrest⟩ := List.forall_mem_cons.1 h
    rw [sameItems, Bool.and_eq_true]
    exact ⟨hitem, ih hrest⟩

/-- **What can be written down equals itself.** -/
theorem sameValue_self {document : Json} (h : document.IsDocument) :
    document.sameValue document = true := by
  induction h with
  | null => rfl
  | bool value | int value | str value => rw [sameValue, beq_self_eq_true]
  | float hfinite =>
    rw [sameValue]
    exact Binary64.sameValue_self hfinite
  | arr _ ih =>
    rw [sameValue]
    exact sameItems_self ih
  | obj hkeys _ ih =>
    rw [sameValue, Bool.and_eq_true]
    -- keys are not repeated, so each member finds itself
    exact ⟨beq_self_eq_true _, sameMembers_iff.2 fun member hmember =>
      ⟨member.2, Assoc.get?_of_mem hkeys hmember, ih member hmember⟩⟩

/-! ## What equals the same -/

mutual

/-- **The comparison is transitive.** -/
theorem sameValue_trans : ∀ {a b c : Json}, a.sameValue b = true → b.sameValue c = true →
    a.sameValue c = true
  | .null, .null, .null, _, _ => rfl
  | .bool _, .bool _, .bool _, h, h' => by
    rw [sameValue, beq_iff_eq] at h h' ⊢
    exact h.trans h'
  | .int _, .int _, .int _, h, h' => by
    rw [sameValue, beq_iff_eq] at h h' ⊢
    exact h.trans h'
  | .float _, .float _, .float _, h, h' => by
    rw [sameValue] at h h' ⊢
    exact Binary64.sameValue_trans h h'
  | .str _, .str _, .str _, h, h' => by
    rw [sameValue, beq_iff_eq] at h h' ⊢
    exact h.trans h'
  | .arr _, .arr _, .arr _, h, h' => by
    rw [sameValue] at h h' ⊢
    exact sameItems_trans h h'
  | .obj _, .obj _, .obj _, h, h' => by
    rw [sameValue, Bool.and_eq_true, beq_iff_eq] at h h' ⊢
    exact ⟨h.1.trans h'.1, sameMembers_trans h.2 h'.2⟩

theorem sameItems_trans : ∀ {as bs cs : List Json}, sameItems as bs = true →
    sameItems bs cs = true → sameItems as cs = true
  | [], [], [], _, _ => rfl
  | _ :: _, _ :: _, _ :: _, h, h' => by
    rw [sameItems, Bool.and_eq_true] at h h' ⊢
    exact ⟨sameValue_trans h.1 h'.1, sameItems_trans h.2 h'.2⟩

theorem sameMembers_trans : ∀ {as bs cs : Assoc Json}, sameMembers as bs = true →
    sameMembers bs cs = true → sameMembers as cs = true
  | [], _, _, _, _ => rfl
  | (_, _) :: _, bs, cs, h, h' => by
    rw [sameMembers_iff, List.forall_mem_cons] at h ⊢
    obtain ⟨⟨b, hb, hsame⟩, hrest⟩ := h
    obtain ⟨c, hc, hsame'⟩ := sameMembers_iff.1 h' _ (Assoc.mem_of_get? hb)
    have hkept := sameMembers_trans (sameMembers_iff.2 hrest) h'
    exact ⟨⟨c, hc, sameValue_trans hsame hsame'⟩, sameMembers_iff.1 hkept⟩

end

end Json
end FacetedSearch
