import FacetedSearch.Proofs.Json.Comparison
import FacetedSearch.Proofs.Request.Build

/-!
# Conditions that join those of a seed

Where several filters have a condition, the conditions join the list of those that must all
hold.  The list grows while they are added: a condition is left out if it equals an item that is
in the list by then, be it of the seed or a condition that was added before.

## What is left out

Which conditions are left out can be said without the growing list.  A condition is added
exactly if it equals nothing before it, where the conditions that were left out count as well
(`Request.newcomers`).  That is the same, since a condition is left out because of an item that
equals it, and what equals the condition equals that item: the comparison is transitive.  So the
list is that of the seed, untouched and with its repetitions, and behind it the conditions that
are new, in their order.

* `Request.hasSame`, `Request.newcomers`: what equals something before it, and what is new;
* `Request.addMissing_eq`: the list;
* `Request.newcomers_sublist`, `Request.eq_false_of_mem_newcomers`, `Request.pairwise_newcomers`,
  `Request.hasSame_of_mem`: what is new, and what is covered;
* `Request.uniteConditions_eq_ok_iff`: the section;
* `Search.conditions_united`: the pass over the conditions.
-/

namespace FacetedSearch
namespace Request

variable {items more conditions : List Json} {condition : Json}

/-- Some item of a list equals a condition. -/
def hasSame (items : List Json) (condition : Json) : Bool :=
  items.any fun item => item.sameValue condition

theorem hasSame_eq_true_iff :
    hasSame items condition = true ↔ ∃ item ∈ items, item.sameValue condition = true :=
  List.any_eq_true

theorem hasSame_eq_false_iff :
    hasSame items condition = false ↔ ∀ item ∈ items, item.sameValue condition = false := by
  simp only [hasSame, List.any_eq_false, Bool.not_eq_true]

theorem hasSame_mono (h : items ⊆ more) (hsame : hasSame items condition = true) :
    hasSame more condition = true := by
  obtain ⟨item, hitem, heq⟩ := hasSame_eq_true_iff.1 hsame
  exact hasSame_eq_true_iff.2 ⟨item, h hitem, heq⟩

theorem addMissing_cons (items : List Json) (condition : Json) (rest : List Json) :
    addMissing items (condition :: rest) =
      addMissing (if hasSame items condition then items else items ++ [condition]) rest := rfl

/-! ## What is new -/

/-- The conditions that equal nothing before them, neither what was there earlier nor another
condition. -/
def newcomers : List Json → List Json → List Json
  | _, [] => []
  | earlier, condition :: rest =>
    if hasSame earlier condition then newcomers (earlier ++ [condition]) rest
    else condition :: newcomers (earlier ++ [condition]) rest

theorem newcomers_sublist (earlier conditions : List Json) :
    (newcomers earlier conditions).Sublist conditions := by
  induction conditions generalizing earlier with
  | nil => exact .slnil
  | cons condition rest ih =>
    rw [newcomers]
    split
    · exact (ih _).cons condition
    · exact (ih _).cons_cons condition

/-- What is new equals nothing that was there earlier. -/
theorem eq_false_of_mem_newcomers {earlier : List Json}
    (h : condition ∈ newcomers earlier conditions) :
    ∀ item ∈ earlier, item.sameValue condition = false := by
  induction conditions generalizing earlier with
  | nil => cases h
  | cons first rest ih =>
    have hlater : condition ∈ newcomers (earlier ++ [first]) rest →
        ∀ item ∈ earlier, item.sameValue condition = false :=
      fun hmem item hitem => ih hmem item (List.mem_append_left _ hitem)
    rw [newcomers] at h
    split at h
    · exact hlater h
    · next hnew =>
      rcases List.mem_cons.1 h with rfl | hmem
      · exact hasSame_eq_false_iff.1 (Bool.eq_false_iff.2 hnew)
      · exact hlater hmem

/-- No two of the new conditions are equal. -/
theorem pairwise_newcomers (earlier conditions : List Json) :
    (newcomers earlier conditions).Pairwise fun first second => first.sameValue second = false := by
  induction conditions generalizing earlier with
  | nil => exact .nil
  | cons condition rest ih =>
    rw [newcomers]
    split
    · exact ih _
    · refine List.pairwise_cons.2 ⟨fun later hlater => ?_, ih _⟩
      exact eq_false_of_mem_newcomers hlater condition
        (List.mem_append_right _ (List.mem_singleton_self condition))

/-- Behind what was there earlier, nothing equals an item before it. -/
theorem eq_false_of_split {held earlier later : List Json}
    (h : held ++ newcomers held conditions = earlier ++ condition :: later)
    (hlength : held.length ≤ earlier.length) :
    ∀ item ∈ earlier, item.sameValue condition = false := by
  obtain ⟨front, rfl⟩ : held <+: earlier :=
    List.prefix_of_prefix_length_le (List.prefix_append held _) (h ▸ List.prefix_append earlier _)
      hlength
  rw [List.append_assoc, List.append_cancel_left_eq] at h
  have hpairwise := h ▸ pairwise_newcomers held conditions
  have hnew : condition ∈ newcomers held conditions := by
    rw [h]
    exact List.mem_append_right _ List.mem_cons_self
  exact List.forall_mem_append.2 ⟨eq_false_of_mem_newcomers hnew, fun item hitem =>
    (List.pairwise_append.1 hpairwise).2.2 item hitem condition List.mem_cons_self⟩

/-! ## The list -/

/-- What equals a condition that is there or was left out equals something that is there. -/
theorem hasSame_of_covered {earlier : List Json}
    (hcovered : ∀ item ∈ earlier, item ∈ items ∨ hasSame items item = true)
    (h : hasSame earlier condition = true) : hasSame items condition = true := by
  obtain ⟨item, hitem, hsame⟩ := hasSame_eq_true_iff.1 h
  rcases hcovered item hitem with hmem | hleft
  · exact hasSame_eq_true_iff.2 ⟨item, hmem, hsame⟩
  · obtain ⟨other, hother, hequal⟩ := hasSame_eq_true_iff.1 hleft
    exact hasSame_eq_true_iff.2 ⟨other, hother, Json.sameValue_trans hequal hsame⟩

/-- The growing list and all that came before: the list is part of it, and covers it. -/
theorem addMissing_eq_of_covered {earlier : List Json} (hpart : items ⊆ earlier)
    (hcovered : ∀ item ∈ earlier, item ∈ items ∨ hasSame items item = true)
    (conditions : List Json) :
    addMissing items conditions = items ++ newcomers earlier conditions := by
  induction conditions generalizing items earlier with
  | nil => exact (List.append_nil items).symm
  | cons condition rest ih =>
    have hiff : hasSame items condition = hasSame earlier condition :=
      Bool.eq_iff_iff.2 ⟨hasSame_mono hpart, hasSame_of_covered hcovered⟩
    rw [addMissing_cons, newcomers, hiff]
    split
    · next hsame =>
      refine ih (List.subset_append_of_subset_left _ hpart) ?_
      refine List.forall_mem_append.2 ⟨hcovered, List.forall_mem_singleton.2 (.inr ?_)⟩
      exact hiff.trans hsame
    · have hpart' : items ++ [condition] ⊆ earlier ++ [condition] :=
        List.append_subset.2 ⟨List.subset_append_of_subset_left _ hpart,
          List.subset_append_right _ _⟩
      have hcovered' : ∀ item ∈ earlier ++ [condition],
          item ∈ items ++ [condition] ∨ hasSame (items ++ [condition]) item = true := by
        refine List.forall_mem_append.2 ⟨fun item hitem => ?_, List.forall_mem_singleton.2 (.inl ?_)⟩
        · exact (hcovered item hitem).imp (List.mem_append_left _)
            (hasSame_mono (List.subset_append_left _ _))
        · exact List.mem_append_right _ (List.mem_singleton_self condition)
      rw [ih hpart' hcovered', List.append_assoc, List.singleton_append]

/-- **What is added is what is new.** -/
theorem addMissing_eq (items conditions : List Json) :
    addMissing items conditions = items ++ newcomers items conditions :=
  addMissing_eq_of_covered (List.Subset.refl items) (fun _ hitem => .inl hitem) conditions

/-- Every condition is in the list in the end, or equals an item of it. -/
theorem mem_or_hasSame_addMissing (items : List Json) :
    ∀ condition ∈ conditions, condition ∈ addMissing items conditions ∨
      hasSame (addMissing items conditions) condition = true := by
  induction conditions generalizing items with
  | nil => exact fun _ h => absurd h List.not_mem_nil
  | cons first rest ih =>
    rw [addMissing_cons]
    refine List.forall_mem_cons.2 ⟨?_, fun condition h => ih _ condition h⟩
    rw [addMissing_eq]
    split
    · next hsame => exact .inr (hasSame_mono (List.subset_append_left _ _) hsame)
    · exact .inl (List.mem_append_left _ (List.mem_append_right _ (List.mem_singleton_self first)))

/-! ## The section -/

/-- Conditions join a list in an object, either of which may be missing. -/
theorem uniteConditions_eq_ok_iff {request next : Request} :
    request.uniteConditions conditions = .ok next ↔ ∃ members held,
      (Assoc.get? "filter" request).getD (.obj []) = .obj members ∧
      (Assoc.get? "and" members).getD (.arr []) = .arr held ∧
      next = Assoc.insert "filter"
        (.obj (Assoc.insert "and" (.arr (addMissing held conditions)) members)) request := by
  unfold uniteConditions
  cases (Assoc.get? "filter" request).getD (.obj []) with
  | obj members =>
    dsimp only
    cases hand : (Assoc.get? "and" members).getD (.arr []) with
    | arr held =>
      constructor
      · intro h
        exact ⟨members, held, rfl, hand, (Except.ok.inj h).symm⟩
      · rintro ⟨members', held', hmembers, hheld, rfl⟩
        obtain rfl := Json.obj.inj hmembers
        obtain rfl := Json.arr.inj (hand.symm.trans hheld)
        rfl
    | null | bool _ | int _ | float _ | str _ | obj _ =>
      refine iff_of_false nofun ?_
      rintro ⟨members', held, hmembers, hheld, -⟩
      obtain rfl := Json.obj.inj hmembers
      rw [hand] at hheld
      cases hheld
  | null | bool _ | int _ | float _ | str _ | arr _ =>
    refine iff_of_false nofun ?_
    rintro ⟨members, held, hmembers, -⟩
    cases hmembers

end Request

namespace Search

variable {flags : Flags} {options : RequestOptions} {search : Search} {request next : Request}

/-- Several conditions are all added to those that must hold. -/
theorem compileConditions_of_several (hinclude : options.includeFilters = true)
    (hseveral : 2 ≤ (conditions flags search.filters.items).length) :
    search.compileConditions flags options request =
      request.uniteConditions (conditions flags search.filters.items) := by
  rw [compileConditions, if_pos hinclude]
  cases hconditions : conditions flags search.filters.items with
  | nil =>
    rw [hconditions] at hseveral
    exact absurd hseveral (by decide)
  | cons first rest =>
    cases rest with
    | nil =>
      rw [hconditions, List.length_singleton] at hseveral
      exact absurd hseveral (by decide)
    | cons second rest => cases first <;> rfl

/-- **Several conditions join the list of those that must all hold.**  If the pass runs and is not
rejected, the seed has a filter section that is an object with a list of conditions, either of
which may be missing and then counts as empty.  Afterwards the list is that of the seed and behind
it, in the order of the filters, the conditions that equal nothing before them.  So every
condition is in the list or equals an item of it, no condition that was added equals another item
before it, and nothing else in the section or in the request is different, nor comes in another
order.  A pass that is left out does nothing. -/
theorem conditions_united (hseveral : 2 ≤ (conditions flags search.filters.items).length)
    (h : search.compileConditions flags options request = .ok next) :
    (options.includeFilters = false → next = request) ∧
    (options.includeFilters = true → ∃ members held after united,
      (Assoc.get? "filter" request).getD (.obj []) = .obj members ∧
      (Assoc.get? "and" members).getD (.arr []) = .arr held ∧
      Assoc.get? "filter" next = some (.obj after) ∧
      Assoc.get? "and" after = some (.arr united) ∧
      united = held ++ Request.newcomers held (conditions flags search.filters.items) ∧
      (Request.newcomers held (conditions flags search.filters.items)).Sublist
        (conditions flags search.filters.items) ∧
      (∀ condition ∈ conditions flags search.filters.items,
        condition ∈ united ∨ ∃ item ∈ united, item.sameValue condition = true) ∧
      (∀ earlier condition later, united = earlier ++ condition :: later →
        held.length ≤ earlier.length → ∀ item ∈ earlier, item.sameValue condition = false) ∧
      Assoc.erase "and" after = Assoc.erase "and" members ∧
      Assoc.erase "filter" next = Assoc.erase "filter" request) := by
  constructor
  · intro hexclude
    rw [compileConditions, hexclude] at h
    exact (Except.ok.inj h).symm
  · intro hinclude
    rw [compileConditions_of_several hinclude hseveral, Request.uniteConditions_eq_ok_iff] at h
    obtain ⟨members, held, hmembers, hheld, rfl⟩ := h
    have hunited := Request.addMissing_eq held (conditions flags search.filters.items)
    refine ⟨members, held, _, _, hmembers, hheld, Assoc.get?_insert_self _ _ _,
      Assoc.get?_insert_self _ _ _, hunited, Request.newcomers_sublist _ _,
      fun condition hcondition => ?_, fun earlier condition later hsplit hlength => ?_,
      Assoc.erase_insert _ _ _, Assoc.erase_insert _ _ _⟩
    · exact (Request.mem_or_hasSame_addMissing held condition hcondition).imp_right
        Request.hasSame_eq_true_iff.1
    · exact Request.eq_false_of_split (hunited.symm.trans hsplit) hlength

/-- The seed has the condition for the tag twice, with its members in another order, and the
condition for a year that is a double. -/
theorem conditions_united_of_reordered :
    let tags : Filter := { Filter.ofKind "tags" (.term .default) with
      selected := [.term (.text "a")] }
    let year : Filter := { Filter.ofKind "year" (.numeric .default) with
      selected := [.term (.int 5)] }
    let search : Search := { Search.new with filters := ⟨[tags, year]⟩ }
    let phrase (name : String) (members : Assoc Json) : Json :=
      .single "query" (.single "match" (.single name (.obj members)))
    let tagged := phrase "tags" [("type", .str "phrase"), ("query", .str "a")]
    let rounded := phrase "year" [("query", .float (.ofInt 5)), ("type", .str "phrase")]
    let dated := phrase "year" [("query", .int 5), ("type", .str "phrase")]
    let seed : Request := [("filter", .obj [("and", .arr [tagged, rounded, tagged])])]
    2 ≤ (conditions (fun _ => false) search.filters.items).length ∧
      ∃ next after, search.compileConditions (fun _ => false) .all seed = .ok next ∧
        Assoc.get? "filter" next = some (.obj after) ∧
        Assoc.get? "and" after = some (.arr [tagged, rounded, tagged, dated]) := by
  intro tags year search phrase tagged rounded dated seed
  have hseveral : 2 ≤ (conditions (fun _ => false) search.filters.items).length := Nat.le_refl 2
  obtain ⟨next, hnext⟩ :
      ∃ next, search.compileConditions (fun _ => false) .all seed = .ok next := ⟨_, rfl⟩
  obtain ⟨members, held, after, united, hmembers, hheld, hafter, hand, hunited, -⟩ :=
    (conditions_united hseveral hnext).2 rfl
  obtain rfl : [("and", Json.arr [tagged, rounded, tagged])] = members := Json.obj.inj hmembers
  obtain rfl : [tagged, rounded, tagged] = held := Json.arr.inj hheld
  have hnew : Request.newcomers [tagged, rounded, tagged]
      (conditions (fun _ => false) search.filters.items) = [dated] := rfl
  rw [hunited, hnew] at hand
  exact ⟨hseveral, next, after, hnext, hafter, hand⟩

end Search
end FacetedSearch
