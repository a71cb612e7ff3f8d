import FacetedSearch.Catalog
import FacetedSearch.Proofs.Fallible
import Mathlib.Data.List.Find
import Mathlib.Data.List.Nodup

/-!
# Lemmas on catalogs

A catalog never takes in a second item of the same name, and changing items does not
change their names.  So names stay distinct, whatever is done with a catalog that starts
with distinct names.

* `Catalog.ofList?_eq_ok_iff`, `Catalog.push?_eq_ok_iff`: when items are taken in;
* `Catalog.FirstRepeat`, `Catalog.ofList?_eq_error_iff`: when they are not, and for which name;
* `Catalog.get?_eq_some_iff`, `Catalog.exists_split_without`: where names are distinct, an item
  is the one of its name, and the others stand before it and after it;
* `Catalog.remove?_eq_some`, `Catalog.exists_split_of_remove?`, `Catalog.names_of_remove?`: what
  is left when an item is taken out;
* `Catalog.without`, `Catalog.eq_without_of_remove?`, `Catalog.foldl_without_names`: leaving out
  one name, and every name of what is to go;
* `Catalog.names_map`, `Catalog.names_update`: changing items leaves the names;
* `Catalog.update_of_split`: changing one item leaves the others;
* `Catalog.mem_update`, `Catalog.get?_map`, `Catalog.get?_update`: where an item comes from after
  a change, and what is found.
-/

namespace FacetedSearch
namespace Catalog

/-! ## Taking items in and out -/

/-- No name is repeated exactly if the names are distinct and none was seen before. -/
theorem firstRepeated?_eq_none_iff {seen names : List String} :
    firstRepeated? seen names = none ↔ names.Nodup ∧ ∀ name ∈ names, name ∉ seen := by
  induction names generalizing seen with
  | nil => simp [firstRepeated?]
  | cons name rest ih =>
    rw [firstRepeated?, List.nodup_cons, List.forall_mem_cons]
    by_cases h : name ∈ seen
    · rw [if_pos h]
      constructor
      · intro hnone
        cases hnone
      · rintro ⟨-, hseen, -⟩
        exact absurd h hseen
    · rw [if_neg h, ih]
      constructor
      · rintro ⟨hnodup, hrest⟩
        refine ⟨⟨fun hname => ?_, hnodup⟩, h, fun other hother hseen => ?_⟩
        · exact hrest name hname List.mem_cons_self
        · exact hrest other hother (List.mem_cons_of_mem _ hseen)
      · rintro ⟨⟨hname, hnodup⟩, -, hrest⟩
        refine ⟨hnodup, fun other hother hseen => ?_⟩
        rcases List.mem_cons.1 hseen with rfl | hold
        · exact hname hother
        · exact hrest other hother hold

/-- The name is the first in a list that stood in it before. -/
def FirstRepeat (names : List String) (name : String) : Prop :=
  ∃ before after, names = before ++ name :: after ∧ before.Nodup ∧ name ∈ before

/-- A name is found exactly if it was seen before where it stands, and none in front of it. -/
theorem firstRepeated?_eq_some_iff {seen names : List String} {name : String} :
    firstRepeated? seen names = some name ↔ ∃ before after, names = before ++ name :: after ∧
      before.Nodup ∧ (∀ earlier ∈ before, earlier ∉ seen) ∧ (name ∈ seen ∨ name ∈ before) := by
  induction names generalizing seen with
  | nil => exact iff_of_false nofun (by simp)
  | cons first rest ih =>
    rw [firstRepeated?, Fallible.exists_split_cons_iff (P := fun before => before.Nodup ∧
      (∀ earlier ∈ before, earlier ∉ seen) ∧ (name ∈ seen ∨ name ∈ before))]
    by_cases h : first ∈ seen
    · rw [if_pos h, Option.some.injEq]
      constructor
      · rintro rfl
        exact Or.inl ⟨rfl, List.nodup_nil, fun _ hnone => absurd hnone List.not_mem_nil, .inl h⟩
      · rintro (⟨rfl, -⟩ | ⟨before, after, -, -, hfresh, -⟩)
        · rfl
        · exact absurd h (hfresh first List.mem_cons_self)
    · -- it makes no difference whether the first was seen before or stands in front
      have hmoved : ∀ before : List String,
          (before.Nodup ∧ (∀ earlier ∈ before, earlier ∉ first :: seen) ∧
              (name ∈ first :: seen ∨ name ∈ before)) ↔
            (first :: before).Nodup ∧ (∀ earlier ∈ first :: before, earlier ∉ seen) ∧
              (name ∈ seen ∨ name ∈ first :: before) := by
        grind
      rw [if_neg h, ih]
      simp only [hmoved]
      refine ⟨Or.inr, ?_⟩
      rintro (⟨rfl, -, -, hseen | hnone⟩ | hlater)
      · exact absurd hseen h
      · exact absurd hnone List.not_mem_nil
      · exact hlater

theorem FirstRepeat.not_nodup {names : List String} {name : String} (h : FirstRepeat names name) :
    ¬names.Nodup := by
  obtain ⟨before, after, rfl, -, hname⟩ := h
  intro hnodup
  exact (List.nodup_append.1 hnodup).2.2 name hname name List.mem_cons_self rfl

variable {α : Type} [Named α] {catalog next : Catalog α} {item : α} {name : String}

theorem ofList?_eq_ok_iff {items : List α} :
    ofList? items = .ok next ↔ (items.map Named.name).Nodup ∧ next = ⟨items⟩ := by
  unfold ofList?
  cases h : firstRepeated? [] (items.map Named.name) with
  | some repeated =>
    constructor
    · intro hok
      cases hok
    · rintro ⟨hnodup, -⟩
      rw [firstRepeated?_eq_none_iff.2 ⟨hnodup, fun _ _ => List.not_mem_nil⟩] at h
      cases h
  | none =>
    constructor
    · intro hok
      exact ⟨(firstRepeated?_eq_none_iff.1 h).1, (Except.ok.inj hok).symm⟩
    · rintro ⟨-, rfl⟩
      rfl

/-- A list is refused for the first name that is repeated in it. -/
theorem ofList?_eq_error_iff {items : List α} {error : SearchError} :
    ofList? items = .error error ↔
      ∃ name, FirstRepeat (items.map Named.name) name ∧ error = .duplicateName name := by
  have hfirst : ∀ name, firstRepeated? [] (items.map Named.name) = some name ↔
      FirstRepeat (items.map Named.name) name := by
    simp [firstRepeated?_eq_some_iff, FirstRepeat]
  simp only [← hfirst]
  unfold ofList?
  cases firstRepeated? [] (items.map Named.name) with
  | none => simp
  | some repeated => simp [eq_comm]

theorem contains_iff : catalog.contains name = true ↔ name ∈ catalog.names := by
  rw [contains, List.any_eq_true, names, List.mem_map]
  exact exists_congr fun item => and_congr_right fun _ => beq_iff_eq

theorem push?_eq_ok_iff :
    catalog.push? item = .ok next ↔
      Named.name item ∉ catalog.names ∧ next = ⟨catalog.items ++ [item]⟩ := by
  unfold push?
  by_cases h : catalog.contains (Named.name item) = true
  · rw [if_pos h]
    constructor
    · intro hok
      cases hok
    · rintro ⟨hfresh, -⟩
      exact absurd (contains_iff.1 h) hfresh
  · rw [if_neg h]
    constructor
    · intro hok
      exact ⟨fun hmem => h (contains_iff.2 hmem), (Except.ok.inj hok).symm⟩
    · rintro ⟨-, rfl⟩
      rfl

theorem nodup_names_of_push? (h : catalog.names.Nodup) (hpush : catalog.push? item = .ok next) :
    next.names.Nodup := by
  obtain ⟨hfresh, rfl⟩ := push?_eq_ok_iff.1 hpush
  rw [names, List.map_append, List.map_singleton]
  refine List.nodup_append.2 ⟨h, List.nodup_singleton _, ?_⟩
  intro a ha b hb
  rw [List.mem_singleton.1 hb]
  rintro rfl
  exact hfresh ha

theorem mem_of_get? (h : catalog.get? name = some item) :
    item ∈ catalog.items ∧ Named.name item = name := by
  refine ⟨List.mem_of_find?_eq_some h, ?_⟩
  have hfound : (Named.name item == name) = true :=
    List.find?_some (p := fun other : α => Named.name other == name) h
  exact beq_iff_eq.1 hfound

/-- Names being distinct, an item is found under its name, and under no other. -/
theorem get?_eq_some_iff (hnames : catalog.names.Nodup) :
    catalog.get? name = some item ↔ item ∈ catalog.items ∧ Named.name item = name := by
  refine ⟨mem_of_get?, ?_⟩
  rintro ⟨hitem, rfl⟩
  obtain ⟨found, hfound⟩ : ∃ found, catalog.get? (Named.name item) = some found :=
    Option.isSome_iff_exists.1 (List.find?_isSome.2 ⟨item, hitem, beq_self_eq_true _⟩)
  obtain ⟨hmem, hname⟩ := mem_of_get? hfound
  rw [hfound, List.inj_on_of_nodup_map hnames hmem hitem hname]

/-- The index of an item that is taken out says where its name stood. -/
theorem remove?_eq_some {index : Nat} (h : catalog.remove? name = some (index, item, next)) :
    catalog.names[index]? = some name ∧ next.items = catalog.items.eraseIdx index := by
  unfold remove? at h
  split at h
  · next hposition _ =>
    cases h
    obtain ⟨hindex, hname, -⟩ := List.findIdx?_eq_some_iff_getElem.1 hposition
    refine ⟨?_, rfl⟩
    rw [names, List.getElem?_map, List.getElem?_eq_getElem hindex, Option.map_some,
      beq_iff_eq.1 hname]
  · cases h

/-- What is left when an item is taken out are the other items in their order. -/
theorem sublist_of_remove? {index : Nat} (h : catalog.remove? name = some (index, item, next)) :
    next.items.Sublist catalog.items := by
  rw [(remove?_eq_some h).2]
  exact List.eraseIdx_sublist _ _

/-- An item that is taken out leaves those before it and those after it. -/
theorem exists_split_of_remove? {index : Nat}
    (h : catalog.remove? name = some (index, item, next)) :
    ∃ before after, catalog.items = before ++ item :: after ∧ next.items = before ++ after ∧
      Named.name item = name := by
  unfold remove? at h
  split at h
  · next position found hposition hfound =>
    cases h
    obtain ⟨hitem, before, after, hsplit, hbefore⟩ := List.find?_eq_some_iff_append.1 hfound
    have hlength : before.length = index := by
      have hnone : before.findIdx? (fun other => Named.name other == name) = none :=
        List.findIdx?_eq_none_iff.2 fun other hother => by simpa using hbefore other hother
      simpa [position?, hsplit, List.findIdx?_append, hnone, List.findIdx?_cons, hitem]
        using hposition
    refine ⟨before, after, hsplit, ?_, beq_iff_eq.1 hitem⟩
    show catalog.items.eraseIdx index = before ++ after
    rw [hsplit, ← hlength, List.eraseIdx_append_of_length_le (Nat.le_refl _), Nat.sub_self]
    rfl
  · cases h

/-- Names being distinct, no other item goes with the one that is taken out. -/
theorem names_of_remove? {index : Nat} (hnames : catalog.names.Nodup)
    (h : catalog.remove? name = some (index, item, next)) :
    next.names.Nodup ∧ ∀ other, other ∈ next.names ↔ other ∈ catalog.names ∧ other ≠ name := by
  obtain ⟨before, after, hitems, hnext, hname⟩ := exists_split_of_remove? h
  have hbefore : catalog.names = before.map Named.name ++ name :: after.map Named.name := by
    rw [names, hitems, List.map_append, List.map_cons, hname]
  have hafter : next.names = before.map Named.name ++ after.map Named.name := by
    rw [names, hnext, List.map_append]
  rw [hbefore, List.nodup_middle, ← hafter, List.nodup_cons] at hnames
  refine ⟨hnames.2, fun other => ?_⟩
  have hmem : other ∈ catalog.names ↔ other = name ∨ other ∈ next.names := by
    rw [hbefore, hafter, List.perm_middle.mem_iff, List.mem_cons]
  rw [hmem]
  constructor
  · intro hother
    exact ⟨Or.inr hother, fun heq => hnames.1 (heq ▸ hother)⟩
  · rintro ⟨heq | hother, hne⟩
    · exact absurd heq hne
    · exact hother

/-- The items of other names. -/
def without (catalog : Catalog α) (name : String) : Catalog α :=
  ⟨catalog.items.filter fun other => Named.name other ≠ name⟩

/-- Names being distinct, taking an item out leaves the items of other names. -/
theorem eq_without_of_remove? {index : Nat} (hnames : catalog.names.Nodup)
    (h : catalog.remove? name = some (index, item, next)) : next = catalog.without name := by
  obtain ⟨before, after, hitems, hnext, hname⟩ := exists_split_of_remove? h
  have hapart : ∀ other ∈ before ++ after, Named.name other ≠ name := by
    intro other hother
    have hmem : Named.name other ∈ next.names := List.mem_map_of_mem (hnext ▸ hother)
    exact (((names_of_remove? hnames h).2 _).1 hmem).2
  have hkept : (before ++ after).filter (fun other => Named.name other ≠ name) = before ++ after :=
    List.filter_eq_self.2 fun other hother => decide_eq_true (hapart other hother)
  have heq : next.items = (catalog.without name).items := by
    rw [without, hnext, hitems, ← hkept, List.filter_append, List.filter_append,
      List.filter_cons_of_neg (by simp [hname])]
  exact congrArg Catalog.mk heq

theorem without_of_notMem (h : name ∉ catalog.names) : catalog.without name = catalog := by
  have hkept : ∀ item ∈ catalog.items, Named.name item ≠ name :=
    fun item hitem heq => h (heq ▸ List.mem_map_of_mem hitem)
  exact congrArg Catalog.mk <|
    List.filter_eq_self.2 fun item hitem => decide_eq_true (hkept item hitem)

theorem nodup_names_without (hnames : catalog.names.Nodup) (name : String) :
    (catalog.without name).names.Nodup :=
  hnames.sublist (List.filter_sublist.map _)

/-- Taking out one name after the other is taking out all of them. -/
theorem foldl_without (catalog : Catalog α) (gone : List String) :
    gone.foldl without catalog = ⟨catalog.items.filter fun item => Named.name item ∉ gone⟩ := by
  induction gone generalizing catalog with
  | nil => simp
  | cons name rest ih =>
    rw [List.foldl_cons, ih, without, List.filter_filter]
    simp [Bool.and_comm]

/-- Taking out an item that does not count changes nothing among those that do. -/
theorem filter_of_remove? {index : Nat} {p : α → Bool}
    (h : catalog.remove? name = some (index, item, next)) (hitem : p item = false) :
    next.items.filter p = catalog.items.filter p := by
  obtain ⟨before, after, hitems, hnext, -⟩ := exists_split_of_remove? h
  rw [hitems, hnext, List.filter_append, List.filter_append,
    List.filter_cons_of_neg (by simp [hitem])]

/-- Names being distinct, taking out the names of all items that do not count leaves those that
do. -/
theorem foldl_without_names (hnames : catalog.names.Nodup) (p : α → Bool) :
    ((catalog.items.filter fun item => !p item).map Named.name).foldl without catalog =
      ⟨catalog.items.filter p⟩ := by
  rw [foldl_without]
  refine congrArg Catalog.mk (List.filter_congr fun item hitem => ?_)
  have hmem : Named.name item ∈ (catalog.items.filter fun other => !p other).map Named.name ↔
      p item = false := by
    constructor
    · intro hname
      obtain ⟨other, hother, hsame⟩ := List.mem_map.1 hname
      obtain ⟨hmem, hcounts⟩ := List.mem_filter.1 hother
      rw [← List.inj_on_of_nodup_map hnames hmem hitem hsame]
      simpa using hcounts
    · intro hcounts
      exact List.mem_map_of_mem (List.mem_filter.2 ⟨hitem, by simp [hcounts]⟩)
  cases hcounts : p item with
  | true => simp [hmem, hcounts]
  | false => simp [hmem, hcounts]

/-- An item that is found can be taken out. -/
theorem exists_remove?_of_get? (h : catalog.get? name = some item) :
    ∃ index next, catalog.remove? name = some (index, item, next) := by
  have hfound : (catalog.position? name).isSome = true := by
    rw [position?, List.findIdx?_isSome, List.any_eq_true]
    obtain ⟨hmem, hname⟩ := mem_of_get? h
    exact ⟨item, hmem, beq_iff_eq.2 hname⟩
  obtain ⟨index, hindex⟩ := Option.isSome_iff_exists.1 hfound
  refine ⟨index, ⟨catalog.items.eraseIdx index⟩, ?_⟩
  rw [remove?, hindex, h]

/-- Names being distinct, the items of other names are those before an item and those after
it. -/
theorem exists_split_without (hnames : catalog.names.Nodup) (h : item ∈ catalog.items) :
    ∃ before after, catalog.items = before ++ item :: after ∧
      (catalog.without (Named.name item)).items = before ++ after := by
  obtain ⟨index, next, hremove⟩ := exists_remove?_of_get? ((get?_eq_some_iff hnames).2 ⟨h, rfl⟩)
  obtain ⟨before, after, hitems, hnext, -⟩ := exists_split_of_remove? hremove
  refine ⟨before, after, hitems, ?_⟩
  rw [← eq_without_of_remove? hnames hremove, hnext]

/-- Nothing is taken out exactly if no item has the name. -/
theorem remove?_eq_none_iff : catalog.remove? name = none ↔ name ∉ catalog.names := by
  constructor
  · intro hnone hname
    obtain ⟨item, hitem, hsame⟩ := List.mem_map.1 hname
    cases hget : catalog.get? name with
    | none => exact List.find?_eq_none.1 hget item hitem (beq_iff_eq.2 hsame)
    | some found =>
      obtain ⟨index, next, hremove⟩ := exists_remove?_of_get? hget
      rw [hnone] at hremove
      cases hremove
  · intro hname
    cases hremove : catalog.remove? name with
    | none => rfl
    | some taken =>
      obtain ⟨index, item, next⟩ := taken
      have hindex := (remove?_eq_some hremove).1
      exact absurd (List.mem_of_getElem? hindex) hname

/-- Where only the item of one name comes to something, so does the whole catalog. -/
theorem filterMap_of_name {β : Type} {f : α → Option β} (hnames : catalog.names.Nodup)
    (h : ∀ item ∈ catalog.items, Named.name item ≠ name → f item = none) :
    catalog.items.filterMap f = ((catalog.get? name).bind f).toList := by
  obtain ⟨items⟩ := catalog
  show items.filterMap f = ((items.find? fun item => Named.name item == name).bind f).toList
  induction items with
  | nil => rfl
  | cons item rest ih =>
    obtain ⟨hfresh, hrest⟩ := List.nodup_cons.1 hnames
    obtain ⟨hitem, hothers⟩ := List.forall_mem_cons.1 h
    by_cases hname : Named.name item = name
    · have hnone : rest.filterMap f = [] := by
        refine List.filterMap_eq_nil_iff.2 fun other hother => hothers other hother ?_
        intro hsame
        exact hfresh (List.mem_map.2 ⟨other, hother, hsame.trans hname.symm⟩)
      rw [List.find?_cons_of_pos (by simpa using hname), Option.bind_some, List.filterMap_cons,
        hnone]
      cases f item <;> rfl
    · rw [List.find?_cons_of_neg (by simpa using hname), List.filterMap_cons_none (hitem hname)]
      exact ih hrest hothers

/-! ## Changing items -/

theorem names_map {f : α → α} (h : ∀ item ∈ catalog.items, Named.name (f item) = Named.name item) :
    (catalog.map f).names = catalog.names := by
  rw [names, map, List.map_map]
  exact List.map_congr_left h

/-- Changing the item of a name leaves every name where that item keeps its own. -/
theorem name_ite {f : α → α}
    (h : ∀ item ∈ catalog.items, Named.name item = name → Named.name (f item) = name) :
    ∀ item ∈ catalog.items,
      Named.name (if Named.name item = name then f item else item) = Named.name item := by
  intro item hitem
  split
  · next hname => rw [hname, h item hitem hname]
  · rfl

theorem names_update {f : α → α}
    (h : ∀ item ∈ catalog.items, Named.name item = name → Named.name (f item) = name) :
    (catalog.update name f).names = catalog.names :=
  names_map (name_ite h)

/-- After one item was changed, an item is one of those before or the changed one. -/
theorem mem_update {f : α → α} (h : item ∈ (catalog.update name f).items) :
    item ∈ catalog.items ∨ ∃ old ∈ catalog.items, Named.name old = name ∧ item = f old := by
  obtain ⟨old, hold, rfl⟩ := List.mem_map.1 h
  by_cases hname : Named.name old = name
  · rw [if_pos hname]
    exact Or.inr ⟨old, hold, hname, rfl⟩
  · rw [if_neg hname]
    exact Or.inl hold

/-- Putting an item in its own place changes nothing. -/
theorem update_self (hnames : catalog.names.Nodup) (h : item ∈ catalog.items) :
    (catalog.update (Named.name item) fun _ => item) = catalog := by
  have hkept : ∀ other ∈ catalog.items,
      (if Named.name other = Named.name item then item else other) = other := by
    intro other hother
    split
    · next hname => exact (List.inj_on_of_nodup_map hnames hother h hname).symm
    · rfl
  exact congrArg Catalog.mk ((List.map_congr_left hkept).trans (List.map_id' _))

/-- Names being distinct, a change of one item leaves those before it and those after it. -/
theorem update_of_split {before after : List α} {f : α → α} (hnames : catalog.names.Nodup)
    (hitems : catalog.items = before ++ item :: after) :
    catalog.update (Named.name item) f = ⟨before ++ f item :: after⟩ := by
  have hnodup : ((before ++ item :: after).map Named.name).Nodup := hitems ▸ hnames
  rw [List.map_append, List.map_cons, List.nodup_middle, List.nodup_cons, List.mem_append,
    not_or] at hnodup
  have hothers : ∀ others : List α, Named.name item ∉ others.map Named.name →
      (others.map fun other => if Named.name other = Named.name item then f other else other) =
        others := by
    intro others hname
    refine (List.map_congr_left fun other hother => if_neg fun heq => hname ?_).trans (List.map_id' _)
    rw [← heq]
    exact List.mem_map_of_mem hother
  refine congrArg Catalog.mk ?_
  rw [hitems, List.map_append, List.map_cons, if_pos rfl, hothers before hnodup.1.1,
    hothers after hnodup.1.2]

/-- Where no name changes, what is found is the changed item. -/
theorem get?_map {f : α → α} (h : ∀ item ∈ catalog.items, Named.name (f item) = Named.name item) :
    (catalog.map f).get? name = (catalog.get? name).map f := by
  have hkept : ∀ item ∈ catalog.items, (Named.name (f item) == name) = (Named.name item == name) :=
    fun item hitem => congrArg (· == name) (h item hitem)
  exact List.find?_map.trans (congrArg _ (List.find?_congr hkept))

/-- Where the changed item keeps its name, it is found under that name. -/
theorem get?_update {f : α → α}
    (h : ∀ item ∈ catalog.items, Named.name item = name → Named.name (f item) = name) :
    (catalog.update name f).get? name = (catalog.get? name).map f := by
  rw [update, get?_map (name_ite h)]
  cases hget : catalog.get? name with
  | none => rfl
  | some item => exact congrArg some (if_pos (mem_of_get? hget).2)

/-- Changing one item does not show where the changed item looks like the old one. -/
theorem map_update {f g : α → α}
    (h : ∀ item ∈ catalog.items, Named.name item = name → g (f item) = g item) :
    (catalog.update name f).map g = catalog.map g := by
  unfold update map
  rw [List.map_map]
  refine congrArg Catalog.mk (List.map_congr_left fun item hitem => ?_)
  rw [Function.comp_apply]
  split
  · next hname => exact h item hitem hname
  · rfl

end Catalog
end FacetedSearch
