import FacetedSearch.Proofs.Assoc
import FacetedSearch.Request.Section

/-!
# What adding to a section does

A pass adds to the sections of its own and leaves every other section as it was.  It is
rejected only if a section is there and is of the wrong shape, so a section that is absent
takes whatever is added.

* `Request.Takes`: a section that is absent or of the right shape;
* `Request.membersOf`: the members of a section, none if it is absent;
* `Request.extendObject_spec`, `Request.pushItem_spec`: adding to a section that takes it;
* `Request.extendObject_of_ok`: adding that was not rejected;
* `Request.extendObject_append`: adding in two steps;
* `Request.addMissing_of_pairwise`: nothing is left out of conditions that all differ.
-/

namespace FacetedSearch
namespace Request

/-- The section of a key is absent or of a shape, an object or an array. -/
def Takes {α : Type} (shape : α → Json) (key : String) (request : Request) : Prop :=
  ∀ document, Assoc.get? key request = some document → ∃ content, document = shape content

/-- The members of the section of a key, none if it is absent. -/
def membersOf (key : String) (request : Request) : Assoc Json :=
  ((Assoc.get? key request).bind Json.members?).getD []

section

variable {key : String} {request next : Request}

theorem takes_of_absent {α : Type} {shape : α → Json} (h : Assoc.get? key request = none) :
    request.Takes shape key := by
  intro document hdocument
  rw [h] at hdocument
  cases hdocument

theorem takes_congr {α : Type} {shape : α → Json}
    (h : Assoc.get? key next = Assoc.get? key request) (htakes : request.Takes shape key) :
    next.Takes shape key := by
  intro document hdocument
  rw [h] at hdocument
  exact htakes document hdocument

theorem takes_insert {α : Type} {shape : α → Json} (content : α) :
    Takes shape key (Assoc.insert key (shape content) request) := by
  intro document hdocument
  rw [Assoc.get?_insert_self, Option.some.injEq] at hdocument
  exact ⟨content, hdocument.symm⟩

theorem membersOf_of_absent (h : Assoc.get? key request = none) : request.membersOf key = [] := by
  rw [membersOf, h]
  rfl

theorem membersOf_congr (h : Assoc.get? key next = Assoc.get? key request) :
    next.membersOf key = request.membersOf key := by
  rw [membersOf, membersOf, h]

/-- What is read in a section shows that the section is there. -/
theorem get?_of_get?_membersOf {member : String} {document : Json}
    (h : Assoc.get? member (request.membersOf key) = some document) :
    ∃ members, Assoc.get? key request = some (.obj members) ∧
      Assoc.get? member members = some document := by
  unfold membersOf at h
  cases hsection : Assoc.get? key request with
  | none =>
    rw [hsection] at h
    cases h
  | some found =>
    rw [hsection] at h
    cases found with
    | obj members => exact ⟨members, rfl, h⟩
    | null | bool _ | int _ | float _ | str _ | arr _ => cases h

theorem membersOf_insert (members : Assoc Json) :
    membersOf key (Assoc.insert key (.obj members) request) = members := by
  rw [membersOf, Assoc.get?_insert_self]
  rfl

/-! ## Adding to a section -/

/-- Members are written into a section that takes them, and nothing else changes. -/
theorem extendObject_spec (members : Assoc Json) (htakes : request.Takes Json.obj key) :
    ∃ next, request.extendObject key members = .ok next ∧ next.Takes Json.obj key ∧
      next.membersOf key = Assoc.extend (request.membersOf key) members ∧
      ∀ other, other ≠ key → Assoc.get? other next = Assoc.get? other request := by
  unfold extendObject
  cases hsection : Assoc.get? key request with
  | none =>
    refine ⟨_, rfl, takes_insert _, ?_, fun other hother => Assoc.get?_insert_of_ne _ _ hother⟩
    rw [membersOf_insert, membersOf_of_absent hsection]
  | some document =>
    obtain ⟨existing, rfl⟩ := htakes document hsection
    refine ⟨_, rfl, takes_insert _, ?_, fun other hother => Assoc.get?_insert_of_ne _ _ hother⟩
    rw [membersOf_insert, membersOf, hsection]
    rfl

/-- An item is appended to a section that takes it, and nothing else changes. -/
theorem pushItem_spec (item : Json) (htakes : request.Takes Json.arr key) :
    ∃ next, request.pushItem key item = .ok next ∧ next.Takes Json.arr key ∧
      ∀ other, other ≠ key → Assoc.get? other next = Assoc.get? other request := by
  unfold pushItem
  cases hsection : Assoc.get? key request with
  | none =>
    exact ⟨_, rfl, takes_insert _, fun other hother => Assoc.get?_insert_of_ne _ _ hother⟩
  | some document =>
    obtain ⟨existing, rfl⟩ := htakes document hsection
    exact ⟨_, rfl, takes_insert _, fun other hother => Assoc.get?_insert_of_ne _ _ hother⟩

/-! ## Adding that was not rejected -/

theorem takes_of_extendObject {members : Assoc Json}
    (h : request.extendObject key members = .ok next) : request.Takes Json.obj key := by
  intro document hdocument
  cases document with
  | obj existing => exact ⟨existing, rfl⟩
  | null | bool _ | int _ | float _ | str _ | arr _ =>
    simp only [extendObject, hdocument] at h
    cases h

theorem takes_of_pushItem {item : Json} (h : request.pushItem key item = .ok next) :
    request.Takes Json.arr key := by
  intro document hdocument
  cases document with
  | arr items => exact ⟨items, rfl⟩
  | null | bool _ | int _ | float _ | str _ | obj _ =>
    simp only [pushItem, hdocument] at h
    cases h

/-- Members that were written into a section are there, and nothing else changed. -/
theorem extendObject_of_ok {members : Assoc Json}
    (h : request.extendObject key members = .ok next) :
    next.membersOf key = Assoc.extend (request.membersOf key) members ∧
      ∀ other, other ≠ key → Assoc.get? other next = Assoc.get? other request := by
  obtain ⟨next', hnext, -, hmembers, hframe⟩ :=
    extendObject_spec members (takes_of_extendObject h)
  obtain rfl : next' = next := Except.ok.inj (hnext.symm.trans h)
  exact ⟨hmembers, hframe⟩

/-- Members that are written in two steps could be written in one. -/
theorem extendObject_append (first second : Assoc Json) (request : Request) :
    request.extendObject key (first ++ second) =
      (request.extendObject key first).bind (extendObject key second) := by
  unfold extendObject
  cases Assoc.get? key request with
  | none =>
    simp only [Except.bind, Assoc.get?_insert_self, Assoc.insert_insert_self, Assoc.extend_append]
  | some document =>
    cases document with
    | obj existing =>
      simp only [Except.bind, Assoc.get?_insert_self, Assoc.insert_insert_self,
        Assoc.extend_append]
    | null | bool _ | int _ | float _ | str _ | arr _ => rfl

end

/-! ## Adding conditions -/

/-- Conditions of which no two are the same are all added. -/
theorem addMissing_of_pairwise {items conditions : List Json}
    (h : (items ++ conditions).Pairwise fun first second => first.sameValue second = false) :
    addMissing items conditions = items ++ conditions := by
  induction conditions generalizing items with
  | nil => exact (List.append_nil items).symm
  | cons condition rest ih =>
    have hfresh : (items.any fun item => item.sameValue condition) = false := by
      rw [List.any_eq_false]
      intro item hitem
      rw [(List.pairwise_append.1 h).2.2 item hitem condition List.mem_cons_self]
      exact Bool.false_ne_true
    rw [List.append_cons] at h
    rw [List.append_cons, ← ih h]
    unfold addMissing
    rw [List.foldl_cons, hfresh]
    rfl

end Request
end FacetedSearch
