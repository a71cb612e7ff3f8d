import FacetedSearch.Assoc
import Mathlib.Data.List.Induction
import Mathlib.Data.List.Nodup

/-!
# Lemmas on ordered association lists

Writing a key that is there changes no key and no order; writing a new one appends it.  So
writing entries one after the other keeps keys distinct, and where the written keys are
distinct too, looking a key up finds what was written, and what was there before otherwise.

* `Assoc.keys_insert`, `Assoc.mem_keys_extend`, `Assoc.nodup_keys_extend`: the keys;
* `Assoc.mem_of_mem_extend`: where an entry comes from;
* `Assoc.insert_of_get?`, `Assoc.extend_of_nodup`: writing what is there, and what is new;
* `Assoc.get?_extend`, `Assoc.get?_extend_of_forall`: looking a key up after distinct keys were
  written, and after it was written with one value;
* `Assoc.keys_extend`, `Assoc.getElem?_extend`: what stays in place;
* `Assoc.extend_append`, `Assoc.extend_extend_self`: writing twice;
* `Assoc.mapValues`, `Assoc.erase`: seeing less of the values, or of the keys.
-/

namespace FacetedSearch
namespace Assoc

variable {α : Type}

@[simp] theorem keys_nil : keys ([] : Assoc α) = [] := rfl

@[simp] theorem keys_cons (entry : String × α) (rest : Assoc α) :
    keys (entry :: rest) = entry.1 :: keys rest := rfl

/-! ## Looking up -/

theorem get?_eq_none_iff {key : String} {entries : Assoc α} :
    get? key entries = none ↔ key ∉ keys entries := by
  induction entries with
  | nil => simp
  | cons entry rest ih =>
    obtain ⟨k, v⟩ := entry
    rw [get?_cons, keys_cons, List.mem_cons, not_or]
    by_cases h : k = key
    · simp [h]
    · rw [if_neg h, ih]
      exact ⟨fun hrest => ⟨fun hk => h hk.symm, hrest⟩, fun hboth => hboth.2⟩

theorem exists_get?_of_mem_keys {key : String} {entries : Assoc α} (h : key ∈ keys entries) :
    ∃ value, get? key entries = some value := by
  cases hget : get? key entries with
  | none => exact absurd h (get?_eq_none_iff.1 hget)
  | some value => exact ⟨value, rfl⟩

theorem mem_of_get? {key : String} {value : α} {entries : Assoc α}
    (h : get? key entries = some value) : (key, value) ∈ entries := by
  induction entries with
  | nil => simp at h
  | cons entry rest ih =>
    obtain ⟨k, v⟩ := entry
    rw [get?_cons] at h
    by_cases hk : k = key
    · rw [if_pos hk, Option.some.injEq] at h
      rw [hk, h]
      exact List.mem_cons_self
    · rw [if_neg hk] at h
      exact List.mem_cons_of_mem _ (ih h)

/-- Where keys are distinct, every entry is found. -/
theorem get?_of_mem {key : String} {value : α} {entries : Assoc α} (hnodup : (keys entries).Nodup)
    (h : (key, value) ∈ entries) : get? key entries = some value := by
  induction entries with
  | nil => exact absurd h List.not_mem_nil
  | cons entry rest ih =>
    obtain ⟨k, v⟩ := entry
    rw [keys_cons, List.nodup_cons] at hnodup
    rw [get?_cons]
    rcases List.mem_cons.1 h with heq | hrest
    · rw [Prod.mk.injEq] at heq
      rw [if_pos heq.1.symm, heq.2]
    · have hk : k ≠ key := by
        rintro rfl
        exact hnodup.1 (List.mem_map.2 ⟨(k, value), hrest, rfl⟩)
      rw [if_neg hk]
      exact ih hnodup.2 hrest

/-! ## Writing one key -/

theorem keys_insert (key : String) (value : α) (entries : Assoc α) :
    keys (insert key value entries) =
      if key ∈ keys entries then keys entries else keys entries ++ [key] := by
  induction entries with
  | nil => rfl
  | cons entry rest ih =>
    obtain ⟨k, v⟩ := entry
    rw [insert_cons]
    by_cases hk : k = key
    · rw [if_pos hk, if_pos (by rw [keys_cons, hk]; exact List.mem_cons_self)]
      rfl
    · rw [if_neg hk, keys_cons, keys_cons, ih]
      have hmem : key ∈ k :: keys rest ↔ key ∈ keys rest := by
        rw [List.mem_cons]
        exact or_iff_right fun h => hk h.symm
      by_cases hrest : key ∈ keys rest
      · rw [if_pos hrest, if_pos (hmem.2 hrest)]
      · rw [if_neg hrest, if_neg fun h => hrest (hmem.1 h), List.cons_append]

theorem mem_keys_insert {key other : String} {value : α} {entries : Assoc α} :
    other ∈ keys (insert key value entries) ↔ other = key ∨ other ∈ keys entries := by
  rw [keys_insert]
  split
  · next h =>
    constructor
    · exact Or.inr
    · rintro (rfl | hmem)
      · exact h
      · exact hmem
  · rw [List.mem_append, List.mem_singleton]
    exact Or.comm

theorem nodup_keys_insert {key : String} {value : α} {entries : Assoc α}
    (h : (keys entries).Nodup) : (keys (insert key value entries)).Nodup := by
  rw [keys_insert]
  split
  · exact h
  · next hkey => exact List.nodup_append.2 ⟨h, List.nodup_singleton key, by
      intro a ha b hb
      rw [List.mem_singleton.1 hb]
      rintro rfl
      exact hkey ha⟩

theorem mem_of_mem_insert {key : String} {value : α} {entries : Assoc α} {entry : String × α}
    (h : entry ∈ insert key value entries) : entry = (key, value) ∨ entry ∈ entries := by
  induction entries with
  | nil => exact Or.inl (List.mem_singleton.1 h)
  | cons first rest ih =>
    obtain ⟨k, v⟩ := first
    rw [insert_cons] at h
    by_cases hk : k = key
    · rw [if_pos hk] at h
      rcases List.mem_cons.1 h with rfl | hrest
      · rw [hk]
        exact Or.inl rfl
      · exact Or.inr (List.mem_cons_of_mem _ hrest)
    · rw [if_neg hk] at h
      rcases List.mem_cons.1 h with rfl | hrest
      · exact Or.inr List.mem_cons_self
      · rcases ih hrest with heq | hmem
        · exact Or.inl heq
        · exact Or.inr (List.mem_cons_of_mem _ hmem)

/-- Writing what is there changes nothing. -/
theorem insert_of_get? {key : String} {value : α} {entries : Assoc α}
    (h : get? key entries = some value) : insert key value entries = entries := by
  induction entries with
  | nil => cases h
  | cons entry rest ih =>
    obtain ⟨k, v⟩ := entry
    rw [get?_cons] at h
    rw [insert_cons]
    by_cases hk : k = key
    · rw [if_pos hk, Option.some.injEq] at h
      rw [if_pos hk, h]
    · rw [if_neg hk] at h
      rw [if_neg hk, ih h]

/-- A key that is not there is written behind the others. -/
theorem insert_of_notMem {key : String} {value : α} {entries : Assoc α}
    (h : key ∉ keys entries) : insert key value entries = entries ++ [(key, value)] := by
  induction entries with
  | nil => rfl
  | cons entry rest ih =>
    obtain ⟨k, v⟩ := entry
    rw [keys_cons, List.mem_cons, not_or] at h
    rw [insert_cons, if_neg (Ne.symm h.1), ih h.2]
    rfl

/-- What is written to a key again is all that is left of what was written to it. -/
theorem insert_insert_self (key : String) (value old : α) (entries : Assoc α) :
    insert key value (insert key old entries) = insert key value entries := by
  induction entries with
  | nil => rw [insert_nil, insert_cons, if_pos rfl, insert_nil]
  | cons entry rest ih =>
    obtain ⟨k, v⟩ := entry
    rw [insert_cons, insert_cons]
    by_cases hk : k = key
    · rw [if_pos hk, if_pos hk, insert_cons, if_pos hk]
    · rw [if_neg hk, if_neg hk, insert_cons, if_neg hk, ih]

/-- A key that is there can be written before or after another one. -/
theorem insert_insert_of_ne {key other : String} {value : α} {entries : Assoc α}
    (hkey : key ∈ keys entries) (hne : key ≠ other) (written : α) :
    insert key value (insert other written entries) =
      insert other written (insert key value entries) := by
  induction entries with
  | nil => exact absurd hkey List.not_mem_nil
  | cons entry rest ih =>
    obtain ⟨k, v⟩ := entry
    rw [insert_cons, insert_cons]
    by_cases hk : k = key
    · have hother : k ≠ other := fun heq => hne (hk.symm.trans heq)
      rw [if_neg hother, if_pos hk, insert_cons, insert_cons, if_pos hk, if_neg hother]
    · have hrest : key ∈ keys rest := (List.mem_cons.1 hkey).resolve_left (Ne.symm hk)
      by_cases hother : k = other
      · rw [if_pos hother, if_neg hk, insert_cons, insert_cons, if_neg hk, if_pos hother]
      · rw [if_neg hother, if_neg hk, insert_cons, insert_cons, if_neg hk, if_neg hother, ih hrest]

/-- A key that is there is written where it is, whatever follows. -/
theorem insert_append_of_mem {key : String} {value : α} {entries : Assoc α}
    (hkey : key ∈ keys entries) (more : Assoc α) :
    insert key value (entries ++ more) = insert key value entries ++ more := by
  induction entries with
  | nil => exact absurd hkey List.not_mem_nil
  | cons entry rest ih =>
    obtain ⟨k, v⟩ := entry
    rw [List.cons_append, insert_cons, insert_cons]
    by_cases hk : k = key
    · rw [if_pos hk, if_pos hk, List.cons_append]
    · have hrest : key ∈ keys rest := (List.mem_cons.1 hkey).resolve_left (Ne.symm hk)
      rw [if_neg hk, if_neg hk, ih hrest, List.cons_append]

/-- Entries of other keys stay in place. -/
theorem getElem?_insert_of_ne {key : String} {value : α} {entries : Assoc α} {i : Nat}
    {entry : String × α} (hentry : entries[i]? = some entry) (hne : entry.1 ≠ key) :
    (insert key value entries)[i]? = some entry := by
  induction entries generalizing i with
  | nil => cases hentry
  | cons first rest ih =>
    obtain ⟨k, v⟩ := first
    rw [insert_cons]
    cases i with
    | zero =>
      obtain rfl : (k, v) = entry := Option.some.inj hentry
      rw [if_neg hne]
      rfl
    | succ i =>
      rw [List.getElem?_cons_succ] at hentry
      split
      · exact hentry
      · exact ih hentry

/-! ## Writing several keys -/

/-- Distinct keys are written one behind the other. -/
theorem extend_of_nodup {entries more : Assoc α} (h : (keys (entries ++ more)).Nodup) :
    extend entries more = entries ++ more := by
  induction more generalizing entries with
  | nil => exact (List.append_nil entries).symm
  | cons entry rest ih =>
    have hfresh : entry.1 ∉ keys entries := by
      rw [keys, List.map_append, List.map_cons] at h
      exact fun hmem => (List.nodup_append.1 h).2.2 _ hmem _ List.mem_cons_self rfl
    rw [List.append_cons] at h ⊢
    rw [extend_cons, insert_of_notMem hfresh, ih h]

/-- Writing several entries that are there changes nothing. -/
theorem extend_of_forall_get? {entries more : Assoc α}
    (h : ∀ entry ∈ more, get? entry.1 entries = some entry.2) : extend entries more = entries := by
  induction more with
  | nil => rfl
  | cons entry rest ih =>
    obtain ⟨hentry, hrest⟩ := List.forall_mem_cons.1 h
    rw [extend_cons, insert_of_get? hentry]
    exact ih hrest

theorem extend_append (entries first second : Assoc α) :
    extend entries (first ++ second) = extend (extend entries first) second := by
  simp only [extend, List.foldl_append]

theorem mem_keys_extend {key : String} {entries more : Assoc α} :
    key ∈ keys (extend entries more) ↔ key ∈ keys entries ∨ key ∈ keys more := by
  induction more generalizing entries with
  | nil => simp
  | cons entry rest ih =>
    rw [extend_cons, ih, mem_keys_insert, keys_cons, List.mem_cons]
    tauto

/-- New keys come behind those that are there, in the order in which they are written. -/
theorem keys_extend {entries more : Assoc α} (h : (keys more).Nodup) :
    keys (extend entries more) =
      keys entries ++ (keys more).filter fun key => key ∉ keys entries := by
  induction more generalizing entries with
  | nil => exact (List.append_nil _).symm
  | cons entry rest ih =>
    obtain ⟨k, v⟩ := entry
    obtain ⟨hk, hrest⟩ := List.nodup_cons.1 h
    rw [extend_cons, ih hrest, keys_insert, keys_cons]
    by_cases hthere : k ∈ keys entries
    · rw [if_pos hthere, List.filter_cons_of_neg (by simp [hthere])]
    · rw [if_neg hthere, List.filter_cons_of_pos (by simp [hthere]), List.append_assoc,
        List.singleton_append]
      congr 2
      refine List.filter_congr fun key hkey => ?_
      have hne : key ≠ k := by
        rintro rfl
        exact hk hkey
      simp [hne]

/-- Entries of keys that are not written stay in place. -/
theorem getElem?_extend {entries more : Assoc α} {i : Nat} {entry : String × α}
    (hentry : entries[i]? = some entry) (hkey : entry.1 ∉ keys more) :
    (extend entries more)[i]? = some entry := by
  induction more generalizing entries with
  | nil => exact hentry
  | cons first rest ih =>
    rw [keys_cons, List.mem_cons, not_or] at hkey
    exact ih (getElem?_insert_of_ne hentry hkey.1) hkey.2

theorem extend_append_of_subset {entries more : Assoc α} (h : keys more ⊆ keys entries)
    (behind : Assoc α) : extend (entries ++ behind) more = extend entries more ++ behind := by
  induction more generalizing entries with
  | nil => rfl
  | cons entry rest ih =>
    obtain ⟨hentry, hrest⟩ := List.cons_subset.1 h
    rw [extend_cons, extend_cons, insert_append_of_mem hentry]
    exact ih fun key hkey => mem_keys_insert.2 (.inr (hrest hkey))

/-- A key that is written in the end may just as well not be written before. -/
theorem insert_extend_insert {key : String} {value old : α} {entries : Assoc α}
    (hkey : key ∈ keys entries) (more : Assoc α) :
    insert key value (extend (insert key old entries) more) =
      insert key value (extend entries more) := by
  induction more generalizing entries with
  | nil => exact insert_insert_self key value old entries
  | cons entry rest ih =>
    rw [extend_cons, extend_cons]
    by_cases hsame : entry.1 = key
    · rw [hsame, insert_insert_self]
    · rw [← insert_insert_of_ne hkey (Ne.symm hsame)]
      exact ih (mem_keys_insert.2 (.inr hkey))

/-- **Writing the same entries again changes nothing**, be keys written more than once or not. -/
theorem extend_extend_self (entries more : Assoc α) :
    extend (extend entries more) more = extend entries more := by
  -- from the back, because the last entry of a key is the one that stays
  induction more using List.reverseRecOn with
  | nil => rfl
  | append_singleton more entry ih =>
    have hlast : ∀ held, extend held (more ++ [entry]) = insert entry.1 entry.2 (extend held more) :=
      fun held => extend_append held more [entry]
    rw [hlast, hlast]
    by_cases hthere : entry.1 ∈ keys (extend entries more)
    · rw [insert_extend_insert hthere, ih]
    · have hsubset : keys more ⊆ keys (extend entries more) :=
        fun key hkey => mem_keys_extend.2 (.inr hkey)
      rw [insert_of_notMem hthere, extend_append_of_subset hsubset, ih, ← insert_of_notMem hthere,
        insert_insert_self]

theorem nodup_keys_extend {entries : Assoc α} (more : Assoc α) (h : (keys entries).Nodup) :
    (keys (extend entries more)).Nodup := by
  induction more generalizing entries with
  | nil => exact h
  | cons entry rest ih => exact ih (nodup_keys_insert h)

theorem mem_of_mem_extend {entries more : Assoc α} {entry : String × α}
    (h : entry ∈ extend entries more) : entry ∈ entries ∨ entry ∈ more := by
  induction more generalizing entries with
  | nil => exact Or.inl h
  | cons first rest ih =>
    rcases ih h with hinsert | hrest
    · rcases mem_of_mem_insert hinsert with rfl | hmem
      · exact Or.inr List.mem_cons_self
      · exact Or.inl hmem
    · exact Or.inr (List.mem_cons_of_mem _ hrest)

/-- After distinct keys were written, a key reads as what was written to it, and as what
it was before if nothing was. -/
theorem get?_extend {key : String} {entries more : Assoc α} (h : (keys more).Nodup) :
    get? key (extend entries more) = (get? key more).or (get? key entries) := by
  induction more generalizing entries with
  | nil => rfl
  | cons entry rest ih =>
    obtain ⟨k, v⟩ := entry
    rw [keys_cons, List.nodup_cons] at h
    rw [extend_cons, ih h.2, get?_cons]
    by_cases hk : k = key
    · subst hk
      rw [get?_eq_none_iff.2 h.1, get?_insert_self, if_pos rfl]
      rfl
    · rw [if_neg hk, get?_insert_of_ne v entries fun heq => hk heq.symm]

/-- A key that is written with one value only, be it more than once, reads as that value. -/
theorem get?_extend_of_forall {key : String} {value : α} {entries more : Assoc α}
    (hkey : key ∈ keys more) (h : ∀ entry ∈ more, entry.1 = key → entry.2 = value) :
    get? key (extend entries more) = some value := by
  -- from the back, because the last entry of a key is the one that is read
  induction more using List.reverseRecOn with
  | nil => exact absurd hkey List.not_mem_nil
  | append_singleton more entry ih =>
    rw [extend_append]
    show get? key (insert entry.1 entry.2 (extend entries more)) = some value
    by_cases hlast : entry.1 = key
    · rw [← hlast, get?_insert_self]
      exact congrArg some (h entry (List.mem_append_right _ (List.mem_singleton_self _)) hlast)
    · rw [get?_insert_of_ne _ _ (Ne.symm hlast)]
      refine ih ?_ fun other hother => h other (List.mem_append_left _ hother)
      rw [keys, List.map_append, List.mem_append] at hkey
      exact hkey.resolve_right fun hsame => hlast (List.mem_singleton.1 hsame).symm

/-! ## Seeing less -/

/-- Changes every value, as its key says. -/
def mapValues {β : Type} (f : String → α → β) (entries : Assoc α) : Assoc β :=
  List.map (fun entry => (entry.1, f entry.1 entry.2)) entries

/-- Leaves out the entries of one key. -/
def erase (key : String) (entries : Assoc α) : Assoc α :=
  List.filter (fun entry => entry.1 ≠ key) entries

section

variable {β : Type} (f : String → α → β)

theorem get?_mapValues (key : String) (entries : Assoc α) :
    get? key (mapValues f entries) = (get? key entries).map (f key) := by
  induction entries with
  | nil => rfl
  | cons entry rest ih =>
    obtain ⟨k, v⟩ := entry
    have hcons : mapValues f ((k, v) :: rest) = (k, f k v) :: mapValues f rest := rfl
    rw [hcons, get?_cons, get?_cons, ih]
    by_cases hk : k = key
    · rw [if_pos hk, if_pos hk, hk]
      rfl
    · rw [if_neg hk, if_neg hk]

theorem keys_mapValues (entries : Assoc α) : keys (mapValues f entries) = keys entries := by
  rw [keys, mapValues, List.map_map]
  rfl

theorem mapValues_mapValues {γ : Type} (g : String → β → γ) (entries : Assoc α) :
    mapValues g (mapValues f entries) = mapValues (fun key value => g key (f key value)) entries := by
  rw [mapValues, mapValues, List.map_map]
  rfl

theorem mapValues_insert (key : String) (value : α) (entries : Assoc α) :
    mapValues f (insert key value entries) = insert key (f key value) (mapValues f entries) := by
  induction entries with
  | nil => rfl
  | cons entry rest ih =>
    obtain ⟨k, v⟩ := entry
    have hcons : mapValues f ((k, v) :: rest) = (k, f k v) :: mapValues f rest := rfl
    rw [hcons, insert_cons, insert_cons, ← ih]
    by_cases hk : k = key
    · rw [if_pos hk, if_pos hk, ← hk]
      rfl
    · rw [if_neg hk, if_neg hk]
      rfl

theorem mapValues_extend (entries more : Assoc α) :
    mapValues f (extend entries more) = extend (mapValues f entries) (mapValues f more) := by
  induction more generalizing entries with
  | nil => rfl
  | cons entry rest ih =>
    rw [extend_cons, ih, mapValues_insert]
    rfl

end

/-- What is written to a key does not show where that key is left out. -/
theorem erase_insert (key : String) (value : α) (entries : Assoc α) :
    erase key (insert key value entries) = erase key entries := by
  induction entries with
  | nil => simp [erase]
  | cons entry rest ih =>
    obtain ⟨k, v⟩ := entry
    rw [insert_cons]
    by_cases hk : k = key
    · rw [if_pos hk]
      simp [erase, hk]
    · rw [if_neg hk]
      unfold erase at ih ⊢
      rw [List.filter_cons, List.filter_cons, ih]

end Assoc
end FacetedSearch
