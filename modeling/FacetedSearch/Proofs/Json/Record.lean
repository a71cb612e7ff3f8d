import FacetedSearch.Json.Record
import FacetedSearch.Proofs.Assoc

/-!
# Reading what was written

A record is written as an object.  A field that has no value is written as `null`, or its member
is left out; both are read as the absence of a value, as long as no value is written as `null`.
This is what a double comes to that has no spelling.

* `Json.toUInt64?_ofUInt64`, `Json.toUInt32?_natCast`: a count is read as it was written;
* `Json.toBinary64?_ofBinary64`: so is a double that has a spelling;
* `Json.toList?_arr_map`: so is a list, if its items are;
* `Json.toOption?_ofOption`: so is an optional value that is never written as `null`;
* `Json.written`, `Json.get?_written`: the members of an object that are there;
* `Record.required?_byKey`, `Record.withDefault?_byKey`, `Record.optional?_byKey`,
  `Record.optional?_byKey_map`: the fields of a record that is an object.
-/

namespace FacetedSearch

namespace Json

@[simp] theorem toUInt64?_ofUInt64 (n : UInt64) : toUInt64? (ofUInt64 n) = some n := by
  have hbound : n.toNat < UInt64.size := n.toNat_lt
  have hrange : (0 : Int) ≤ n.toNat ∧ (n.toNat : Int) < UInt64.size := by omega
  rw [ofUInt64, toUInt64?, if_pos hrange, Int.toNat_natCast, UInt64.ofNat_toNat]

@[simp] theorem toUInt32?_natCast (n : UInt32) : toUInt32? (.int n.toNat) = some n := by
  have hbound : n.toNat < UInt32.size := n.toNat_lt
  have hrange : (0 : Int) ≤ n.toNat ∧ (n.toNat : Int) < UInt32.size := by omega
  rw [toUInt32?, if_pos hrange, Int.toNat_natCast, UInt32.ofNat_toNat]

/-- A double that has a spelling is not written as `null`. -/
theorem toBinary64?_ofBinary64 {x : Binary64} (h : x.isFinite = true) :
    toBinary64? (ofBinary64 x) = some x ∧ ofBinary64 x ≠ .null := by
  rw [ofBinary64, if_pos h]
  exact ⟨rfl, Json.noConfusion⟩

theorem toList?_arr_map {α : Type} {write : α → Json} {read : Json → Option α} {xs : List α}
    (h : ∀ x ∈ xs, read (write x) = some x) : toList? read (.arr (xs.map write)) = some xs := by
  show (xs.map write).mapM read = some xs
  induction xs with
  | nil => rfl
  | cons x xs ih =>
    have hrest : (xs.map write).mapM read = some xs :=
      ih fun y hy => h y (List.mem_cons_of_mem _ hy)
    rw [List.map_cons, List.mapM_cons, h x List.mem_cons_self, hrest]
    rfl

theorem toOption?_ofOption {α : Type} {write : α → Json} {read : Json → Option α} {value : Option α}
    (h : ∀ x, value = some x → read (write x) = some x ∧ write x ≠ .null) :
    toOption? read (ofOption write value) = some value := by
  cases value with
  | none => rfl
  | some x =>
    obtain ⟨hread, hwritten⟩ := h x rfl
    rw [ofOption]
    cases hdocument : write x with
    | null => exact absurd hdocument hwritten
    | bool _ | int _ | float _ | str _ | arr _ | obj _ =>
      rw [hdocument] at hread
      rw [toOption?, hread]
      · rfl
      · simp

/-- The members that are there. -/
def written (fields : List (String × Option Json)) : Assoc Json :=
  fields.filterMap fun field => field.2.map fun value => (field.1, value)

theorem keys_written_sublist (fields : List (String × Option Json)) :
    (Assoc.keys (written fields)).Sublist (fields.map Prod.fst) := by
  induction fields with
  | nil => exact List.Sublist.refl _
  | cons field rest ih =>
    obtain ⟨key, value⟩ := field
    cases value with
    | none => exact ih.cons key
    | some document => exact ih.cons_cons key

/-- Where keys are distinct, each member is found as it was written, or is not there. -/
theorem get?_written {fields : List (String × Option Json)} (h : (fields.map Prod.fst).Nodup) :
    ∀ field ∈ fields, Assoc.get? field.1 (written fields) = field.2 := by
  induction fields with
  | nil => exact fun _ hfield => absurd hfield List.not_mem_nil
  | cons field rest ih =>
    obtain ⟨key, value⟩ := field
    obtain ⟨hfresh, hrest⟩ := List.nodup_cons.1 h
    have hkey : key ∉ Assoc.keys (written rest) :=
      fun hmem => hfresh ((keys_written_sublist rest).subset hmem)
    refine List.forall_mem_cons.2 ⟨?_, fun other hother => ?_⟩
    · cases value with
      | none => exact Assoc.get?_eq_none_iff.2 hkey
      | some document => exact if_pos rfl
    · have hne : key ≠ other.1 := fun heq => hfresh (List.mem_map.2 ⟨other, hother, heq.symm⟩)
      cases value with
      | none => exact ih hrest other hother
      | some document => exact (if_neg hne).trans (ih hrest other hother)

end Json

namespace Record

variable {α : Type} {members : Assoc Json} {position : Nat} {key : String} {document : Json}

theorem required?_byKey (read : Json → Option α) (h : Assoc.get? key members = some document) :
    (byKey members).required? position key read = read document := by
  rw [required?, field?, h]
  rfl

theorem withDefault?_byKey (default : α) (read : Json → Option α)
    (h : Assoc.get? key members = some document) :
    (byKey members).withDefault? position key default read = read document := by
  rw [withDefault?, field?, h]

theorem optional?_byKey (read : Json → Option α) (h : Assoc.get? key members = some document) :
    (byKey members).optional? position key read = Json.toOption? read document :=
  withDefault?_byKey none (Json.toOption? read) h

/-- A field whose member is left out if it has no value. -/
theorem optional?_byKey_map {write : α → Json} {read : Json → Option α} {value : Option α}
    (h : Assoc.get? key members = value.map write)
    (hread : ∀ x, value = some x → read (write x) = some x ∧ write x ≠ .null) :
    (byKey members).optional? position key read = some value := by
  cases value with
  | none =>
    rw [optional?, withDefault?, field?, h]
    rfl
  | some x =>
    rw [optional?_byKey read h]
    exact Json.toOption?_ofOption hread

end Record
end FacetedSearch
