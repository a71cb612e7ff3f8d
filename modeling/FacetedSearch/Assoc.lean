/-!
# Ordered association lists

Request documents, facet sections and selection caches are maps whose key order
shows in what is written.  `Assoc α` keeps its entries in the order in which their
keys first came.  Writing a key that is already there replaces the value in place,
writing a new key appends it.

## Main definitions

* `Assoc.get?`, `Assoc.contains`: looking a key up, first entry wins;
* `Assoc.insert`, `Assoc.extend`: writing one key, or all entries of another list.
-/

namespace FacetedSearch

/-- Entries by key, in the order in which the keys were first written. -/
abbrev Assoc (α : Type) := List (String × α)

namespace Assoc

variable {α : Type}

/-- The value of the first entry with the given key. -/
def get? (key : String) : Assoc α → Option α
  | [] => none
  | (k, v) :: rest => if k = key then some v else get? key rest

/-- Whether some entry has the given key. -/
def contains (key : String) (entries : Assoc α) : Bool :=
  (get? key entries).isSome

/-- The keys in order. -/
def keys (entries : Assoc α) : List String :=
  List.map Prod.fst entries

/-- Writes one entry: in place when the key is there, at the end otherwise. -/
def insert (key : String) (value : α) : Assoc α → Assoc α
  | [] => [(key, value)]
  | (k, v) :: rest => if k = key then (k, value) :: rest else (k, v) :: insert key value rest

/-- Writes every entry of the second list into the first, in order. -/
def extend (entries more : Assoc α) : Assoc α :=
  List.foldl (fun acc entry => insert entry.1 entry.2 acc) entries more

@[simp] theorem get?_nil (key : String) : get? key ([] : Assoc α) = none := rfl

theorem get?_cons (key k : String) (v : α) (rest : Assoc α) :
    get? key ((k, v) :: rest) = if k = key then some v else get? key rest := rfl

@[simp] theorem insert_nil (key : String) (value : α) :
    insert key value ([] : Assoc α) = [(key, value)] := rfl

theorem insert_cons (key k : String) (value v : α) (rest : Assoc α) :
    insert key value ((k, v) :: rest) =
      if k = key then (k, value) :: rest else (k, v) :: insert key value rest := rfl

@[simp] theorem extend_nil (entries : Assoc α) : extend entries [] = entries := rfl

@[simp] theorem extend_cons (entries more : Assoc α) (entry : String × α) :
    extend entries (entry :: more) = extend (insert entry.1 entry.2 entries) more := rfl

/-- A key reads as what was last written to it. -/
@[simp] theorem get?_insert_self (key : String) (value : α) (entries : Assoc α) :
    get? key (insert key value entries) = some value := by
  induction entries with
  | nil => simp [insert, get?]
  | cons entry rest ih =>
    obtain ⟨k, v⟩ := entry
    by_cases h : k = key <;> simp [insert, get?, h, ih]

/-- Writing one key leaves every other key as it was. -/
theorem get?_insert_of_ne {key other : String} (value : α) (entries : Assoc α)
    (h : other ≠ key) : get? other (insert key value entries) = get? other entries := by
  induction entries with
  | nil => simp [insert, get?, h.symm]
  | cons entry rest ih =>
    obtain ⟨k, v⟩ := entry
    by_cases hk : k = key
    · subst hk
      simp [insert, get?, h.symm]
    · by_cases ho : k = other
      · subst ho
        simp [insert, get?, hk]
      · simp [insert, get?, hk, ho, ih]

end Assoc

end FacetedSearch
