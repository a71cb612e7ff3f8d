import Mathlib.Data.List.Forall2

/-!
# Steps that can fail, along a list

A step that can fail is taken for each item of a list in turn, and the first failure ends
it.  That it succeeds, and with what, is one relation between the items and the results.

* `Fallible.map_eq_ok_iff`, `Fallible.bind_eq_ok_iff`: using the result of a step;
* `Fallible.map_eq_error_iff`, `Fallible.bind_eq_error_iff`: where a failure comes from;
* `Fallible.guard_eq_ok_iff`, `Fallible.guard_eq_error_iff`: a step behind a guard;
* `Fallible.mapM_eq_ok_iff`: taking a step for every item;
* `Fallible.mapM_eq_ok_map`, `Fallible.exists_mapM_eq_ok`: where every step is known to
  succeed;
* `Fallible.exists_eq_ok_of_mapM`, `Fallible.exists_of_mem_of_mapM`: from items to results, and
  from results to items;
* `Fallible.map_eq_map_of_mapM`: what no step changes;
* `Fallible.forM_eq_ok_iff`, `Fallible.forM_eq_error_iff`: taking a step for every item without a
  result;
* `Fallible.exists_split_cons_iff`: where an item stands in a list;
* `Fallible.exists_foldlM_eq_ok`: an invariant that makes every step succeed;
* `Fallible.foldlM_filter`: leaving out what makes no difference.
-/

namespace FacetedSearch
namespace Fallible

variable {ε α β : Type}

theorem map_eq_ok_iff {f : α → β} {step : Except ε α} {y : β} :
    step.map f = .ok y ↔ ∃ x, step = .ok x ∧ y = f x := by
  cases step with
  | error e =>
    constructor
    · intro h
      cases h
    · rintro ⟨x, h, -⟩
      cases h
  | ok x =>
    constructor
    · intro h
      exact ⟨x, rfl, (Except.ok.inj h).symm⟩
    · rintro ⟨x', h, rfl⟩
      rw [Except.ok.inj h]
      rfl

/-- A step behind a guard succeeds exactly if the guard lets it pass and it does. -/
theorem guard_eq_ok_iff {p : Prop} [Decidable p] {e : ε} {step : Except ε α} {x : α} :
    (if p then .error e else step) = .ok x ↔ ¬p ∧ step = .ok x := by
  by_cases hp : p
  · rw [if_pos hp]
    constructor
    · intro h
      cases h
    · exact fun h => absurd hp h.1
  · rw [if_neg hp]
    exact ⟨fun h => ⟨hp, h⟩, fun h => h.2⟩

/-- A step behind a guard fails exactly if the guard stops it or it fails itself. -/
theorem guard_eq_error_iff {p : Prop} [Decidable p] {e e' : ε} {step : Except ε α} :
    (if p then .error e else step) = .error e' ↔ p ∧ e' = e ∨ ¬p ∧ step = .error e' := by
  by_cases hp : p
  · rw [if_pos hp, Except.error.injEq, eq_comm]
    exact ⟨fun h => Or.inl ⟨hp, h⟩, fun h => h.elim And.right fun h => absurd hp h.1⟩
  · rw [if_neg hp]
    exact ⟨fun h => Or.inr ⟨hp, h⟩, fun h => h.elim (fun h => absurd h.1 hp) And.right⟩

theorem map_eq_error_iff {f : α → β} {step : Except ε α} {e : ε} :
    step.map f = .error e ↔ step = .error e := by
  cases step with
  | error e' =>
    constructor
    · exact fun h => congrArg _ (Except.error.inj h)
    · exact fun h => congrArg _ (Except.error.inj h)
  | ok x => exact iff_of_false nofun nofun

/-- Taking a step for every item succeeds exactly if every step does. -/
theorem mapM_eq_ok_iff {f : α → Except ε β} {xs : List α} {ys : List β} :
    xs.mapM f = .ok ys ↔ List.Forall₂ (fun x y => f x = .ok y) xs ys := by
  induction xs generalizing ys with
  | nil =>
    rw [List.mapM_nil, List.forall₂_nil_left_iff]
    exact ⟨fun h => (Except.ok.inj h).symm, fun h => h ▸ rfl⟩
  | cons x xs ih =>
    rw [List.mapM_cons, List.forall₂_cons_left_iff]
    cases hx : f x with
    | error e =>
      constructor
      · intro h
        cases h
      · rintro ⟨y, rest, hy, -, -⟩
        cases hy
    | ok y =>
      cases hrest : xs.mapM f with
      | error e =>
        constructor
        · intro h
          cases h
        · rintro ⟨y', rest, -, hforall, -⟩
          rw [ih.2 hforall] at hrest
          cases hrest
      | ok rest =>
        constructor
        · intro h
          exact ⟨y, rest, rfl, ih.1 hrest, (Except.ok.inj h).symm⟩
        · rintro ⟨y', rest', hy, hforall, rfl⟩
          have heq : rest = rest' := Except.ok.inj (hrest.symm.trans (ih.2 hforall))
          rw [← Except.ok.inj hy, ← heq]
          rfl

/-- Where the result of every step is known, so are the results. -/
theorem mapM_eq_ok_map {f : α → Except ε β} {g : α → β} {xs : List α}
    (h : ∀ x ∈ xs, f x = .ok (g x)) : xs.mapM f = .ok (xs.map g) := by
  rw [mapM_eq_ok_iff, List.forall₂_map_right_iff, List.forall₂_same]
  exact h

/-- Where every step succeeds, so does the whole. -/
theorem exists_mapM_eq_ok {f : α → Except ε β} {xs : List α} (h : ∀ x ∈ xs, ∃ y, f x = .ok y) :
    ∃ ys, xs.mapM f = .ok ys := by
  induction xs with
  | nil => exact ⟨[], rfl⟩
  | cons x xs ih =>
    obtain ⟨y, hy⟩ := h x List.mem_cons_self
    obtain ⟨ys, hys⟩ := ih fun x' hx' => h x' (List.mem_cons_of_mem _ hx')
    refine ⟨y :: ys, ?_⟩
    rw [List.mapM_cons, hy, hys]
    rfl

/-- Where the whole succeeds, so does the step for every item. -/
theorem exists_eq_ok_of_mapM {f : α → Except ε β} {xs : List α} {ys : List β}
    (h : xs.mapM f = .ok ys) {x : α} (hx : x ∈ xs) : ∃ y ∈ ys, f x = .ok y := by
  rw [mapM_eq_ok_iff] at h
  induction h with
  | nil => exact absurd hx List.not_mem_nil
  | @cons x' y xs ys hy _ ih =>
    rcases List.mem_cons.1 hx with rfl | hx
    · exact ⟨y, List.mem_cons_self, hy⟩
    · obtain ⟨y', hy', hfx⟩ := ih hx
      exact ⟨y', List.mem_cons_of_mem _ hy', hfx⟩

/-- Every result is that of some item. -/
theorem exists_of_mem_of_mapM {f : α → Except ε β} {xs : List α} {ys : List β}
    (h : xs.mapM f = .ok ys) {y : β} (hy : y ∈ ys) : ∃ x ∈ xs, f x = .ok y := by
  rw [mapM_eq_ok_iff] at h
  induction h with
  | nil => exact absurd hy List.not_mem_nil
  | @cons x y' xs ys hx _ ih =>
    rcases List.mem_cons.1 hy with rfl | hy
    · exact ⟨x, List.mem_cons_self, hx⟩
    · obtain ⟨x', hx', hfx⟩ := ih hy
      exact ⟨x', List.mem_cons_of_mem _ hx', hfx⟩

/-- What no step changes is the same of the items and of the results. -/
theorem map_eq_map_of_mapM {γ : Type} {f : α → Except ε β} {g : α → γ} {g' : β → γ} {xs : List α}
    {ys : List β} (h : xs.mapM f = .ok ys) (hstep : ∀ x y, f x = .ok y → g' y = g x) :
    ys.map g' = xs.map g := by
  rw [mapM_eq_ok_iff] at h
  induction h with
  | nil => rfl
  | cons hx _ ih => rw [List.map_cons, List.map_cons, hstep _ _ hx, ih]

/-- Taking a step for every item without a result succeeds exactly if every step does. -/
theorem forM_eq_ok_iff {f : α → Except ε Unit} {xs : List α} :
    xs.forM f = .ok () ↔ ∀ x ∈ xs, f x = .ok () := by
  induction xs with
  | nil => exact ⟨fun _ _ hx => absurd hx List.not_mem_nil, fun _ => rfl⟩
  | cons x xs ih =>
    rw [List.forall_mem_cons, ← ih]
    show (f x).bind (fun _ => xs.forM f) = .ok () ↔ _
    cases f x with
    | error e =>
      constructor
      · intro h
        cases h
      · rintro ⟨h, -⟩
        cases h
    | ok y => exact ⟨fun h => ⟨rfl, h⟩, fun h => h.2⟩

/-- An item stands in a list either first, or later on and behind the first. -/
theorem exists_split_cons_iff {P : List α → Prop} {item first : α} {rest : List α} :
    (∃ before after, first :: rest = before ++ item :: after ∧ P before) ↔
      first = item ∧ P [] ∨
        ∃ before after, rest = before ++ item :: after ∧ P (first :: before) := by
  constructor
  · rintro ⟨before, after, hsplit, h⟩
    cases before with
    | nil => exact Or.inl ⟨(List.cons.inj hsplit).1, h⟩
    | cons _ before =>
      obtain ⟨rfl, hrest⟩ := List.cons.inj hsplit
      exact Or.inr ⟨before, after, hrest, h⟩
  · rintro (⟨rfl, h⟩ | ⟨before, after, rfl, h⟩)
    · exact ⟨[], rest, rfl, h⟩
    · exact ⟨first :: before, after, rfl, h⟩

/-- What fails when a step is taken for every item is the first step that does. -/
theorem forM_eq_error_iff {f : α → Except ε Unit} {xs : List α} {e : ε} :
    xs.forM f = .error e ↔ ∃ x before after, xs = before ++ x :: after ∧
      (∀ earlier ∈ before, f earlier = .ok ()) ∧ f x = .error e := by
  induction xs with
  | nil => exact iff_of_false nofun (by simp)
  | cons first rest ih =>
    have hstep : (first :: rest).forM f = (f first).bind fun _ => rest.forM f := rfl
    simp only [hstep, exists_split_cons_iff, exists_or, exists_eq_left', List.forall_mem_cons]
    cases f first with
    | error e' => simp [Except.bind]
    | ok _ => simp only [Except.bind, ih, reduceCtorEq, and_false, false_or, true_and]

/-- What every step preserves, and what makes it succeed, holds in the end. -/
theorem exists_foldlM_eq_ok {f : β → α → Except ε β} {P : β → Prop} {xs : List α}
    (hstep : ∀ state x, x ∈ xs → P state → ∃ next, f state x = .ok next ∧ P next) {start : β}
    (hstart : P start) : ∃ final, xs.foldlM f start = .ok final ∧ P final := by
  induction xs generalizing start with
  | nil => exact ⟨start, rfl, hstart⟩
  | cons x xs ih =>
    obtain ⟨next, hnext, hP⟩ := hstep start x List.mem_cons_self hstart
    obtain ⟨final, hfinal, hend⟩ :=
      ih (fun state y hy => hstep state y (List.mem_cons_of_mem _ hy)) hP
    refine ⟨final, ?_, hend⟩
    rw [List.foldlM_cons, hnext]
    exact hfinal

/-- Items that make no difference can be left out. -/
theorem foldlM_filter {f : β → α → Except ε β} {p : α → Bool}
    (h : ∀ x state, p x = false → f state x = .ok state) (xs : List α) (start : β) :
    (xs.filter p).foldlM f start = xs.foldlM f start := by
  induction xs generalizing start with
  | nil => rfl
  | cons x xs ih =>
    cases hx : p x with
    | true =>
      rw [List.filter_cons_of_pos hx, List.foldlM_cons, List.foldlM_cons]
      exact congrArg (f start x).bind (funext ih)
    | false =>
      rw [List.filter_cons_of_neg (by simp [hx]), List.foldlM_cons, h x start hx, ih]
      rfl

/-- The first step succeeds if both do, and the second takes up its result. -/
theorem bind_eq_ok_iff {step : Except ε α} {f : α → Except ε β} {y : β} :
    step.bind f = .ok y ↔ ∃ x, step = .ok x ∧ f x = .ok y := by
  cases step with
  | error e =>
    constructor
    · intro h
      cases h
    · rintro ⟨x, h, -⟩
      cases h
  | ok x =>
    constructor
    · exact fun h => ⟨x, rfl, h⟩
    · rintro ⟨x', h, hf⟩
      rw [Except.ok.inj h]
      exact hf

/-- One step after the other fails where the first does, or where the second does after it. -/
theorem bind_eq_error_iff {step : Except ε α} {f : α → Except ε β} {e : ε} :
    step.bind f = .error e ↔ step = .error e ∨ ∃ x, step = .ok x ∧ f x = .error e := by
  cases step with
  | error e' =>
    constructor
    · exact fun h => Or.inl (congrArg _ (Except.error.inj h))
    · rintro (h | ⟨x, h, -⟩)
      · exact congrArg _ (Except.error.inj h)
      · cases h
  | ok x =>
    constructor
    · exact fun h => Or.inr ⟨x, rfl, h⟩
    · rintro (h | ⟨x', h, hf⟩)
      · cases h
      · rw [Except.ok.inj h]
        exact hf

end Fallible
end FacetedSearch
