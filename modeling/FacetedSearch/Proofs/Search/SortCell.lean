import FacetedSearch.Proofs.Request.SortSection
import FacetedSearch.Proofs.Search.Fields
import FacetedSearch.Proofs.Session.Replay

/-!
# The sort as a single cell

What results are sorted by is not stored.  Each field says for itself how it is sorted, and the
operations on fields see to it that at most one field says anything.  Seen from outside this is
a cell that is empty or holds one name with one direction, and the operations write to it.

## Why the cell is enough

`SortedBy` says that a catalog of fields looks as the cell says: the field that the cell names is
there and sorted so, and no other field is sorted.  Then the cell can be read off the fields, so
there is only one.  Each operation on fields that succeeds leaves fields that look as the cell
says after the operation has written to it (`Call.sortAfter`), and one that fails leaves both.
A field that arrives sorted, or that a sort is set on, empties the other fields; a field that is
removed takes the sort along if it held it, because no other field has its name.

A request then has at most one sort key, and has none if the field in the cell is switched off.

* `SortedBy`, `SortedBy.firstSort?_eq`: fields that look as a cell says;
* `getElem?_keepFirstSort`, `sortedBy_keepFirstSort`: fields that arrive together;
* `Call.sortAfter`, `sortedBy_reply`, `Session.sortedBy_run`: one operation, and every run;
* `Search.SortHeard`, `Call.sortHeard_of_sortTarget?`: what is heard when a sort is set;
* `Search.filterMap_sortRequest?`, `Search.exists_sort_section`: the sort section of a request;
* `Search.sort_is_single_cell`: all of it, for every search that comes about.
-/

namespace FacetedSearch

/-! ## The cell -/

/-- How the field of a name is sorted while the cell is as given. -/
def sortUnder : Option SortKey → String → Option Direction
  | none, _ => none
  | some held, name => if held.field = name then some held.direction else none

@[simp] theorem sortUnder_none (name : String) : sortUnder none name = none := rfl

@[simp] theorem sortUnder_some (held : SortKey) (name : String) :
    sortUnder (some held) name = if held.field = name then some held.direction else none := rfl

theorem sortUnder_eq_some_iff {key : Option SortKey} {name : String} {direction : Direction} :
    sortUnder key name = some direction ↔ key = some ⟨name, direction⟩ := by
  cases key with
  | none => simp
  | some held =>
    obtain ⟨field, held⟩ := held
    simp

/-- Emptying the cell of one field changes nothing for the others. -/
theorem sortUnder_filter_of_ne (key : Option SortKey) {name other : String} (h : other ≠ name) :
    sortUnder (key.filter fun held => held.field ≠ name) other = sortUnder key other := by
  cases key with
  | none => rfl
  | some held =>
    by_cases hheld : held.field = name
    · simp [Option.filter, hheld, Ne.symm h]
    · simp [Option.filter, hheld]

/-- The cell that a field fills by itself. -/
def Field.sortKey? (field : Field) : Option SortKey :=
  field.sort.map fun direction => ⟨field.name, direction⟩

/-- The cell that the first sorted field of a list fills. -/
def firstSort? (fields : List Field) : Option SortKey := fields.findSome? Field.sortKey?

theorem Field.sortKey?_eq_some_iff {field : Field} {key : SortKey} :
    field.sortKey? = some key ↔ field.name = key.field ∧ field.sort = some key.direction := by
  constructor
  · intro h
    obtain ⟨direction, hsort, rfl⟩ := Option.map_eq_some_iff.1 h
    exact ⟨rfl, hsort⟩
  · rintro ⟨hname, hsort⟩
    rw [sortKey?, hsort, Option.map_some, hname]

/-- What a list is sorted by is one of its fields. -/
theorem exists_of_firstSort? {fields : List Field} {key : SortKey}
    (h : firstSort? fields = some key) :
    ∃ field ∈ fields, field.name = key.field ∧ field.sort = some key.direction := by
  obtain ⟨field, hfield, hkey⟩ := List.exists_of_findSome?_eq_some h
  exact ⟨field, hfield, Field.sortKey?_eq_some_iff.1 hkey⟩

/-- The fields look as the cell says. -/
structure SortedBy (fields : Catalog Field) (key : Option SortKey) : Prop where
  names : fields.names.Nodup
  held : ∀ held, key = some held → held.field ∈ fields.names
  sort : ∀ field ∈ fields.items, field.sort = sortUnder key field.name

namespace SortedBy

variable {fields next : Catalog Field} {key : Option SortKey} {name : String}

theorem of_none (hnames : fields.names.Nodup) (h : ∀ field ∈ fields.items, field.sort = none) :
    SortedBy fields none where
  names := hnames
  held := fun _ hheld => nomatch hheld
  sort := h

/-- The cell can be read off the fields. -/
theorem firstSort?_eq (h : SortedBy fields key) : firstSort? fields.items = key := by
  cases hfirst : firstSort? fields.items with
  | some found =>
    obtain ⟨field, hfield, hname, hsort⟩ := exists_of_firstSort? hfirst
    have hunder : sortUnder key found.field = some found.direction := by
      rw [← hname, ← h.sort field hfield, hsort]
    exact (sortUnder_eq_some_iff.1 hunder).symm
  | none =>
    cases key with
    | none => rfl
    | some held =>
      obtain ⟨field, hfield, hname⟩ := List.mem_map.1 (h.held held rfl)
      have hsort : field.sort = some held.direction := by
        have hfield' : field.name = held.field := hname
        rw [h.sort field hfield, hfield', sortUnder_some, if_pos rfl]
      have hnone : field.sortKey? = none := List.findSome?_eq_none_iff.1 hfirst field hfield
      rw [Field.sortKey?_eq_some_iff.2 ⟨hname, hsort⟩] at hnone
      cases hnone

/-- The field of a name is sorted as the cell says. -/
theorem sort_of_get? (h : SortedBy fields key) {field : Field}
    (hget : fields.get? name = some field) :
    field.name = name ∧ field.sort = sortUnder key name := by
  obtain ⟨hfield, hname⟩ := Catalog.mem_of_get? hget
  have hsort : field.sort = sortUnder key field.name := h.sort field hfield
  exact ⟨hname, hname ▸ hsort⟩

/-- The field that the cell names is there, and sorted so. -/
theorem exists_get? (h : SortedBy fields key) {held : SortKey} (hheld : key = some held) :
    ∃ field, fields.get? held.field = some field ∧ field.sort = some held.direction := by
  obtain ⟨other, hother, hname⟩ := List.mem_map.1 (h.held held hheld)
  cases hget : fields.get? held.field with
  | none =>
    have hmissing := List.find?_eq_none.1 hget other hother
    exact absurd (beq_iff_eq.2 hname) hmissing
  | some field =>
    refine ⟨field, rfl, ?_⟩
    rw [(h.sort_of_get? hget).2, hheld, sortUnder_some, if_pos rfl]

/-- Taking a field out empties the cell if that field held it. -/
theorem remove? (h : SortedBy fields key) {index : Nat} {field : Field}
    (hremove : fields.remove? name = some (index, field, next)) :
    SortedBy next (key.filter fun held => held.field ≠ name) := by
  obtain ⟨hnames, hmem⟩ := Catalog.names_of_remove? h.names hremove
  refine ⟨hnames, fun held hheld => ?_, fun other hother => ?_⟩
  · obtain ⟨hkey, hne⟩ := Option.filter_eq_some_iff.1 hheld
    exact (hmem _).2 ⟨h.held held hkey, of_decide_eq_true hne⟩
  · have hold : other ∈ fields.items := (Catalog.sublist_of_remove? hremove).subset hother
    have hne : other.name ≠ name := ((hmem _).1 (List.mem_map_of_mem hother)).2
    rw [h.sort other hold, sortUnder_filter_of_ne key hne]

/-- The cell says nothing about a field that is not there. -/
theorem sortUnder_of_notMem (h : SortedBy fields key) (hname : name ∉ fields.names) :
    sortUnder key name = none := by
  cases key with
  | none => rfl
  | some held =>
    have hne : held.field ≠ name := fun heq => hname (heq ▸ h.held held rfl)
    rw [sortUnder_some, if_neg hne]

/-- A field that arrives unsorted finds the cell as it was. -/
theorem push_unsorted (h : SortedBy fields key) {field : Field}
    (hpush : fields.push? field = .ok next) (hsort : field.sort = none) : SortedBy next key := by
  have hnames : next.names.Nodup := Catalog.nodup_names_of_push? h.names hpush
  obtain ⟨hfresh, rfl⟩ := Catalog.push?_eq_ok_iff.1 hpush
  refine ⟨hnames, fun held hheld => ?_, fun other hother => ?_⟩
  · rw [Catalog.names, List.map_append]
    exact List.mem_append_left _ (h.held held hheld)
  · rcases List.mem_append.1 hother with hold | hnew
    · exact h.sort other hold
    · rw [List.mem_singleton.1 hnew, hsort]
      exact (h.sortUnder_of_notMem hfresh).symm

/-- A field that arrives sorted takes the cell. -/
theorem push_sorted (h : SortedBy fields key) {field : Field} {direction : Direction}
    (hpush : fields.push? field = .ok next) (hsort : field.sort = some direction) :
    SortedBy (next.map (clearSortExcept field.name)) (some ⟨field.name, direction⟩) := by
  have hnames : next.names.Nodup := Catalog.nodup_names_of_push? h.names hpush
  have hkept : (next.map (clearSortExcept field.name)).names = next.names :=
    Catalog.names_map fun other _ => Search.name_clearSortExcept field.name other
  obtain ⟨hfresh, rfl⟩ := Catalog.push?_eq_ok_iff.1 hpush
  refine ⟨hkept ▸ hnames, fun held hheld => ?_, fun other hother => ?_⟩
  · rw [← Option.some.inj hheld, hkept, Catalog.names, List.map_append]
    exact List.mem_append_right _ List.mem_cons_self
  · obtain ⟨before, hbefore, rfl⟩ := List.mem_map.1 hother
    rw [Search.name_clearSortExcept, sortUnder_some]
    rcases List.mem_append.1 hbefore with hold | hnew
    · have hne : before.name ≠ field.name := by
        intro heq
        have hmem : Named.name before ∈ fields.names := List.mem_map_of_mem hold
        exact hfresh (show field.name ∈ fields.names from heq ▸ hmem)
      simp [clearSortExcept, hne, Ne.symm hne]
    · rw [List.mem_singleton.1 hnew]
      simp [clearSortExcept, hsort]

/-- Sorting by a field that is there writes it to the cell, whatever was in it. -/
theorem map_sortOnly (hnames : fields.names.Nodup) (hname : name ∈ fields.names)
    (direction : Direction) :
    SortedBy (fields.map (sortOnly name direction)) (some ⟨name, direction⟩) := by
  have hkept : (fields.map (sortOnly name direction)).names = fields.names :=
    Catalog.names_map fun _ _ => rfl
  refine ⟨hkept ▸ hnames, fun held hheld => ?_, fun other hother => ?_⟩
  · rw [hkept, ← Option.some.inj hheld]
    exact hname
  · obtain ⟨before, -, rfl⟩ := List.mem_map.1 hother
    simp only [sortOnly, Field.sort_withSort, Field.name_withSort, sortUnder_some, eq_comm]

end SortedBy

/-! ## Fields that arrive together -/

theorem names_keepFirstSort (fields : List Field) :
    (keepFirstSort fields).map Field.name = fields.map Field.name := by
  induction fields with
  | nil => rfl
  | cons field rest ih =>
    rw [keepFirstSort]
    split
    · simp [Function.comp_def]
    · rw [List.map_cons, List.map_cons, ih]

/-- Nothing but the sort of a field is touched. -/
theorem forall₂_keepFirstSort (fields : List Field) :
    List.Forall₂ (fun field kept => kept = field.withSort kept.sort) fields
      (keepFirstSort fields) := by
  induction fields with
  | nil => exact .nil
  | cons field rest ih =>
    rw [keepFirstSort]
    split
    · refine .cons rfl ?_
      rw [List.forall₂_map_right_iff, List.forall₂_same]
      exact fun _ _ => rfl
    · exact .cons rfl ih

/-- A field stays sorted as it is exactly if none before it is sorted. -/
theorem getElem?_keepFirstSort (before : List Field) (field : Field) (after : List Field) :
    (keepFirstSort (before ++ field :: after))[before.length]? =
      some (field.withSort
        (if ∀ earlier ∈ before, earlier.sort = none then field.sort else none)) := by
  induction before with
  | nil =>
    rw [List.nil_append, keepFirstSort, if_pos fun _ hnone => absurd hnone List.not_mem_nil]
    split <;> rfl
  | cons first rest ih =>
    rw [List.cons_append, keepFirstSort]
    cases hsort : first.sort with
    | some direction =>
      have hsorted : first.isSorted = true := by rw [Field.isSorted, hsort]; rfl
      simp [hsorted, hsort]
    | none =>
      have hsorted : ¬first.isSorted = true := by rw [Field.isSorted, hsort]; simp
      simpa [hsorted, hsort] using ih

/-- **Of fields that arrive together the first sorted one takes the cell.** -/
theorem sortedBy_keepFirstSort {fields : List Field} (hnames : (fields.map Field.name).Nodup) :
    SortedBy ⟨keepFirstSort fields⟩ (firstSort? fields) := by
  have hkept : Catalog.names ⟨keepFirstSort fields⟩ = fields.map Field.name :=
    names_keepFirstSort fields
  refine ⟨hkept ▸ hnames, fun held hheld => ?_, ?_⟩
  · obtain ⟨field, hfield, hname, -⟩ := exists_of_firstSort? hheld
    rw [hkept, ← hname]
    exact List.mem_map_of_mem hfield
  · clear hkept
    induction fields with
    | nil => exact fun _ h => nomatch h
    | cons field rest ih =>
      obtain ⟨hfresh, hrest⟩ := List.nodup_cons.1 hnames
      have hapart : ∀ other ∈ rest, field.name ≠ other.name :=
        fun other hother heq => hfresh (heq ▸ List.mem_map_of_mem hother)
      rw [firstSort?, List.findSome?_cons, keepFirstSort]
      cases hsort : field.sort with
      | some direction =>
        have hkey : field.sortKey? = some ⟨field.name, direction⟩ :=
          Field.sortKey?_eq_some_iff.2 ⟨rfl, hsort⟩
        have hsorted : field.isSorted = true := by rw [Field.isSorted, hsort]; rfl
        rw [hkey, if_pos hsorted]
        refine List.forall_mem_cons.2 ⟨by simp [hsort], fun other hother => ?_⟩
        obtain ⟨before, hbefore, rfl⟩ := List.mem_map.1 hother
        simp [hapart before hbefore]
      | none =>
        have hkey : field.sortKey? = none := by rw [Field.sortKey?, hsort]; rfl
        have hsorted : ¬field.isSorted = true := by rw [Field.isSorted, hsort]; simp
        rw [hkey, if_neg hsorted]
        refine List.forall_mem_cons.2 ⟨?_, ih hrest⟩
        show field.sort = sortUnder (firstSort? rest) field.name
        cases hfirst : firstSort? rest with
        | none => simp [hsort]
        | some held =>
          obtain ⟨other, hother, hname, -⟩ := exists_of_firstSort? hfirst
          simp [hsort, ← hname, Ne.symm (hapart other hother)]

/-! ## Operations on fields -/

namespace Reply

variable {α : Type} {search : Search} {P : Search → Prop}

/-- If the operation succeeds, what it leaves behind is as said. -/
def Leaves (P : Search → Prop) (reply : Reply α) : Prop :=
  ∀ answer, reply.answer = .ok answer → P reply.search

theorem leaves_refuse (error : SearchError) : (refuse search error : Reply α).Leaves P :=
  fun _ hanswer => nomatch hanswer

theorem leaves_of {reply : Reply α} (h : P reply.search) : reply.Leaves P := fun _ _ => h

end Reply

namespace Search

open Reply

variable {search : Search} {key : Option SortKey}

theorem leaves_replaceFields (search : Search) (fields : List Field) :
    (search.replaceFields fields).Leaves fun after =>
      SortedBy after.fields (firstSort? fields) := by
  unfold replaceFields
  split
  · exact leaves_refuse _
  · split
    · exact leaves_refuse _
    · next catalog hcatalog =>
      obtain ⟨hnames, rfl⟩ := Catalog.ofList?_eq_ok_iff.1 hcatalog
      have hgiven : (fields.map Field.name).Nodup := names_keepFirstSort fields ▸ hnames
      exact leaves_of (sortedBy_keepFirstSort hgiven)

theorem leaves_pushField (h : SortedBy search.fields key) (field : Field) :
    (search.pushField field).Leaves fun after =>
      SortedBy after.fields (field.sortKey?.or key) := by
  unfold pushField
  split
  · exact leaves_refuse _
  · split
    · exact leaves_refuse _
    · next fields hpush =>
      refine leaves_of ?_
      cases hsort : field.sort with
      | none =>
        simpa [Reply.announce, Field.isSorted, Field.sortKey?, hsort] using
          h.push_unsorted hpush hsort
      | some direction =>
        simpa [Reply.announce, Field.isSorted, Field.sortKey?, hsort] using
          h.push_sorted hpush hsort

theorem leaves_eraseField (h : SortedBy search.fields key) (name : String) :
    (search.eraseField name).Leaves fun after =>
      SortedBy after.fields (key.filter fun held => held.field ≠ name) := by
  unfold eraseField
  split
  · exact leaves_refuse _
  · next hremove => exact leaves_of (h.remove? hremove)

theorem fields_sortOn (search : Search) (field : Field) (direction : Direction) :
    (search.sortOn field direction).search.fields =
      search.fields.map (sortOnly field.name direction) := by
  unfold sortOn
  dsimp only
  split <;> rfl

theorem leaves_sort (h : SortedBy search.fields key) (name : String) (direction : Direction) :
    (search.sort name direction).Leaves fun after =>
      SortedBy after.fields (some ⟨name, direction⟩) := by
  unfold sort
  split
  · exact leaves_refuse _
  · next field hget =>
    obtain ⟨hfield, rfl⟩ := Catalog.mem_of_get? hget
    refine leaves_of ?_
    rw [fields_sortOn]
    exact SortedBy.map_sortOnly h.names (List.mem_map_of_mem hfield) direction

end Search

/-- A toggle turns to descending exactly from ascending. -/
theorem Field.nextSort_eq (field : Field) :
    field.nextSort = if field.sort = some .asc then .desc else .asc := by
  rw [nextSort]
  rcases field.sort with - | - | - <;> rfl

/-- What a toggle writes to the cell: which field it is about, and the direction to turn to. -/
def flipAfter (names : List String) (key : Option SortKey) : Option String → Option SortKey
  | some name => some ⟨name, if key = some ⟨name, .asc⟩ then .desc else .asc⟩
  | none => match key with
    | some held => some ⟨held.field, held.direction.flip⟩
    | none => names.head?.map fun name => ⟨name, .asc⟩

namespace Search

open Reply

variable {search : Search} {key : Option SortKey}

/-- A toggle sorts by its field. -/
theorem flipSort_of_get? {name : Option String} {target : String} {field : Field}
    (htarget : search.flipTarget? name = some target)
    (hget : search.fields.get? target = some field) :
    search.flipSort name =
      ⟨(search.sortOn field field.nextSort).answer.map some,
        (search.sortOn field field.nextSort).search,
        (search.sortOn field field.nextSort).events⟩ := by
  unfold flipSort
  simp only [htarget, hget]

/-- Without a field to be about, a toggle does nothing. -/
theorem flipSort_of_none {name : Option String} (htarget : search.flipTarget? name = none) :
    search.flipSort name = .quiet search none := by
  unfold flipSort
  simp only [htarget]

/-- A toggle of a field that is not there is refused. -/
theorem flipSort_of_missing {name : Option String} {target : String}
    (htarget : search.flipTarget? name = some target) (hget : search.fields.get? target = none) :
    search.flipSort name = .refuse search (.unknownField target) := by
  unfold flipSort
  simp only [htarget, hget]

/-- A toggle of a field that is there writes that field and its next direction to the cell. -/
theorem leaves_flipSort_of_target (h : SortedBy search.fields key) {name : Option String}
    {target : String} (htarget : search.flipTarget? name = some target) :
    (search.flipSort name).Leaves fun after =>
      SortedBy after.fields (some ⟨target, if key = some ⟨target, .asc⟩ then .desc else .asc⟩) := by
  cases hget : search.fields.get? target with
  | none =>
    rw [flipSort_of_missing htarget hget]
    exact leaves_refuse _
  | some field =>
    obtain ⟨rfl, hsort⟩ := h.sort_of_get? hget
    have hnext : field.nextSort = if key = some ⟨field.name, .asc⟩ then .desc else .asc := by
      simp only [Field.nextSort_eq, hsort, sortUnder_eq_some_iff]
    rw [flipSort_of_get? htarget hget]
    refine leaves_of ?_
    dsimp only
    rw [fields_sortOn, hnext]
    exact SortedBy.map_sortOnly h.names (List.mem_map_of_mem (Catalog.mem_of_get? hget).1) _

theorem leaves_flipSort (h : SortedBy search.fields key) (name : Option String) :
    (search.flipSort name).Leaves fun after =>
      SortedBy after.fields (flipAfter search.fields.names key name) := by
  have hkey : search.sortKey? = key := h.firstSort?_eq
  cases name with
  | some name => exact leaves_flipSort_of_target h rfl
  | none =>
    cases key with
    | some held =>
      obtain ⟨target, direction⟩ := held
      have htarget : search.flipTarget? none = some target := by
        rw [flipTarget?, hkey]
        rfl
      have hwritten := leaves_flipSort_of_target h htarget
      cases direction with
      | asc => simpa [flipAfter, Direction.flip] using hwritten
      | desc => simpa [flipAfter, Direction.flip] using hwritten
    | none =>
      have hnone : search.flipTarget? none = search.fields.names.head? := by
        rw [flipTarget?, hkey, Catalog.names, List.head?_map]
        rfl
      cases hfirst : search.fields.names.head? with
      | some first =>
        have hwritten := leaves_flipSort_of_target h (hnone.trans hfirst)
        simpa [flipAfter, hfirst] using hwritten
      | none =>
        rw [flipSort_of_none (hnone.trans hfirst)]
        refine leaves_of ?_
        show SortedBy search.fields _
        simpa [flipAfter, hfirst] using h

end Search

/-! ## Every run -/

/-- What an operation that succeeds writes to the cell.  A toggle of no field in particular needs
to know which field is the first, so the names of the fields are given. -/
def Call.sortAfter (names : List String) (key : Option SortKey) : Call → Option SortKey
  | .replaceFields fields => firstSort? fields
  | .pushField field => field.sortKey?.or key
  | .eraseField name => key.filter fun held => held.field ≠ name
  | .sort name direction => some ⟨name, direction⟩
  | .sortAscending name => some ⟨name, .asc⟩
  | .flipSort name => flipAfter names key name
  | _ => key

/-- What becomes of the cell.  An operation that fails leaves it as it was, and so does whatever
is no operation. -/
def Happening.sortAfter (search : Search) (key : Option SortKey) : Happening → Option SortKey
  | .call operation =>
    match (operation.reply search).answer with
    | .ok _ => operation.sortAfter search.fields.names key
    | .error _ => key
  | _ => key

/-- What becomes of the cell when one thing happens after the other. -/
def Session.sortAfter : Search → Option SortKey → List Happening → Option SortKey
  | _, key, [] => key
  | search, key, happening :: rest =>
    sortAfter (happening.search search) (happening.sortAfter search key) rest

variable {search : Search} {key : Option SortKey}

/-- **An operation that succeeds leaves fields that look as the cell says** after the operation
wrote to it. -/
theorem Call.leaves_sortAfter (h : SortedBy search.fields key) (call : Call) :
    (call.reply search).Leaves fun after =>
      SortedBy after.fields (call.sortAfter search.fields.names key) := by
  have hkept : ∀ {α : Type} {reply : Reply α}, reply.search.fields = search.fields →
      reply.Leaves fun after => SortedBy after.fields key :=
    fun heq => Reply.leaves_of (heq ▸ h)
  cases call with
  | replaceFields fields => exact search.leaves_replaceFields fields
  | pushField field => exact Search.leaves_pushField h field
  | eraseField name => exact Search.leaves_eraseField h name
  | sort name direction => exact Search.leaves_sort h name direction
  | sortAscending name => exact Search.leaves_sort h name .asc
  | flipSort name => exact Search.leaves_flipSort h name
  | resizePages pageLength => exact hkept (search.fields_resizePages pageLength)
  | withOptions options => exact hkept rfl
  | ask query => exact hkept (search.fields_ask query)
  | askJson document => exact hkept (search.fields_askJson document)
  | replaceFilters filters => exact hkept (search.fields_replaceFilters filters)
  | pushFilter filter => exact hkept (search.fields_pushFilter filter)
  | eraseFilter name => exact hkept (search.fields_eraseFilter name)
  | select name values silent => exact hkept (search.fields_select name values silent)
  | selectIds name ids silent => exact hkept (search.fields_selectIds name ids silent)
  | clearSelection name silent => exact hkept (search.fields_clearSelection name silent)
  | replaceResults results => exact hkept rfl
  | addResults results => exact hkept rfl
  | readResults response => exact hkept rfl
  | absorb flags document mode => exact hkept (search.fields_absorb flags document mode)

/-- **The cell follows every step.** -/
theorem Happening.sortedBy_search (h : SortedBy search.fields key) (happening : Happening) :
    SortedBy (happening.search search).fields (happening.sortAfter search key) := by
  cases happening with
  | call operation =>
    show SortedBy (operation.reply search).search.fields _
    cases hanswer : (operation.reply search).answer with
    | ok answer =>
      simpa only [Happening.sortAfter, hanswer] using operation.leaves_sortAfter h answer hanswer
    | error error =>
      rw [operation.atomic_reply search error hanswer]
      show SortedBy search.fields _
      simpa only [Happening.sortAfter, hanswer] using h
  | fetch flags later transport window mode =>
    exact (search.fields_fetch flags later transport window mode) ▸ h
  | recount flags later transport name =>
    exact (search.fields_recount flags later transport name) ▸ h
  | subscribe => exact h
  | unsubscribe id => exact h

/-- **The cell follows every run.** -/
theorem Session.sortedBy_run {session : Session} (h : SortedBy session.search.fields key)
    (happenings : List Happening) :
    SortedBy (session.run happenings).search.fields
      (sortAfter session.search key happenings) := by
  induction happenings generalizing session key with
  | nil => exact h
  | cons happening rest ih =>
    have hstep : SortedBy (session.step happening).search.fields
        (happening.sortAfter session.search key) := by
      rw [search_step]
      exact happening.sortedBy_search h
    rw [run_cons, sortAfter, ← search_step]
    exact ih hstep

/-- In every search that comes about at most one field is sorted. -/
theorem Search.Reachable.sortedBy (h : search.Reachable) :
    SortedBy search.fields search.sortKey? := by
  have hheld : ∀ {fields : Catalog Field} {key : Option SortKey}, SortedBy fields key →
      SortedBy fields (firstSort? fields.items) := fun hsorted => by
    rw [hsorted.firstSort?_eq]
    exact hsorted
  show SortedBy search.fields (firstSort? search.fields.items)
  induction h with
  | new => exact .of_none List.nodup_nil fun _ hnone => nomatch hnone
  | call operation _ _ ih => exact hheld ((Happening.call operation).sortedBy_search ih)
  | fetch flags later transport window mode _ _ ih =>
    exact hheld ((Happening.fetch flags later transport window mode).sortedBy_search ih)
  | recount flags later transport name _ ih =>
    exact hheld ((Happening.recount flags later transport name).sortedBy_search ih)

/-! ## What is heard -/

/-- The field that an operation sorts by, if it is one that sets the sort. -/
def Call.sortTarget? (search : Search) : Call → Option String
  | .sort name _ | .sortAscending name => some name
  | .flipSort name => search.flipTarget? name
  | _ => none

namespace Search

/-- The field of a name is sorted in the end, and what is heard is that its direction changed,
with the one before, if it did. -/
def SortHeard (search : Search) (name : String) (after : Search) (events : List Event) : Prop :=
  ∃ before direction, search.directionOf name = .ok before ∧
    after.directionOf name = .ok (some direction) ∧
    events = if before = some direction then []
      else [.specific (.sortChanged name before direction), .changed (.sort name)]

theorem sortHeard_sortOn {name : String} {field : Field}
    (hget : search.fields.get? name = some field) (direction : Direction) :
    search.SortHeard name (search.sortOn field direction).search
      (search.sortOn field direction).events := by
  have hname : field.name = name := (Catalog.mem_of_get? hget).2
  have hafter : (search.fields.map (sortOnly field.name direction)).get? name =
      some (sortOnly field.name direction field) := by
    have hkept : ∀ other ∈ search.fields.items,
        (sortOnly field.name direction other).name = other.name := fun _ _ => rfl
    rw [Catalog.get?_map (f := sortOnly field.name direction) hkept, hget, Option.map_some]
  refine ⟨field.sort, direction, ?_, ?_, ?_⟩
  · simp only [directionOf, hget]
  · simp only [directionOf, fields_sortOn, hafter]
    simp [sortOnly]
  · subst hname
    unfold sortOn
    dsimp only
    split
    · rfl
    · rfl

theorem sortHeard_sort {name : String} {direction answer : Direction}
    (hanswer : (search.sort name direction).answer = .ok answer) :
    search.SortHeard name (search.sort name direction).search
      (search.sort name direction).events := by
  cases hget : search.fields.get? name with
  | none =>
    unfold sort at hanswer
    rw [hget] at hanswer
    cases hanswer
  | some field =>
    have hsort : search.sort name direction = search.sortOn field direction := by
      unfold sort
      rw [hget]
    rw [hsort]
    exact sortHeard_sortOn hget direction

theorem sortHeard_flipSort {name : Option String} {target : String} {answer : Option Direction}
    (htarget : search.flipTarget? name = some target)
    (hanswer : (search.flipSort name).answer = .ok answer) :
    search.SortHeard target (search.flipSort name).search (search.flipSort name).events := by
  cases hget : search.fields.get? target with
  | none =>
    rw [flipSort_of_missing htarget hget] at hanswer
    cases hanswer
  | some field =>
    rw [flipSort_of_get? htarget hget]
    exact sortHeard_sortOn hget field.nextSort

end Search

/-- **Setting the sort is heard exactly if the direction of its field changes.** -/
theorem Call.sortHeard_of_sortTarget? {call : Call} {name : String}
    (htarget : call.sortTarget? search = some name) {answer : call.Answer}
    (hanswer : (call.reply search).answer = .ok answer) :
    search.SortHeard name (call.reply search).search (call.reply search).events := by
  cases call with
  | sort other direction =>
    obtain rfl := Option.some.inj htarget
    exact Search.sortHeard_sort hanswer
  | sortAscending other =>
    obtain rfl := Option.some.inj htarget
    exact Search.sortHeard_sort hanswer
  | flipSort other => exact Search.sortHeard_flipSort htarget hanswer
  | _ => cases htarget

/-! ## The request -/

namespace Search

variable {flags : Flags}

/-- Of the fields at most the one that the cell names asks for a sort key. -/
theorem filterMap_sortRequest? {fields : Catalog Field} (h : SortedBy fields key) :
    fields.items.filterMap (fun field => field.sortRequest? flags) =
      (key.bind fun held =>
        (fields.get? held.field).bind fun field => field.sortRequest? flags).toList := by
  cases key with
  | none =>
    rw [Option.bind_none, Option.toList_none, List.filterMap_eq_nil_iff]
    intro field hfield
    simp [Field.sortRequest?, h.sort field hfield]
  | some held =>
    refine Catalog.filterMap_of_name h.names fun field hfield hname => ?_
    have hne : held.field ≠ field.name := Ne.symm hname
    have hunsorted : field.sort = none := by
      rw [h.sort field hfield, sortUnder_some, if_neg hne]
    simp [Field.sortRequest?, hunsorted]

/-- A request that nothing was seeded into has a sort section exactly if fields are included and
the field in the cell is switched on, and then it is the one sort key. -/
theorem exists_sort_section (h : search.Reachable) (flags : Flags) (options : RequestOptions) :
    ∃ request, search.compile flags options [] = .ok request ∧
      ∀ document, Assoc.get? "sort" request = some document ↔
        options.includeFields = true ∧ ∃ held field, search.sortKey? = some held ∧
          search.fields.get? held.field = some field ∧ field.enabled.isOn flags = true ∧
          document = .arr [.single held.field held.direction.toJson] := by
  have hseed : ∀ key ∈ sectionKeys, Assoc.get? key ([] : Request) = none :=
    fun _ _ => Assoc.get?_nil _
  obtain ⟨request, hrequest, -⟩ := compile_spec flags options search hseed
  refine ⟨request, hrequest, fun document => ?_⟩
  rw [get?_sort_of_compile (Assoc.get?_nil _) hrequest, filterMap_sortRequest? h.sortedBy]
  by_cases hinclude : options.includeFields = true
  · rw [if_pos hinclude]
    cases hkey : search.sortKey? with
    | none => simp [listSection?]
    | some held =>
      have hsorted : SortedBy search.fields (some held) := hkey ▸ h.sortedBy
      obtain ⟨field, hget, hsort⟩ := hsorted.exists_get? rfl
      have hname : field.name = held.field := (Catalog.mem_of_get? hget).2
      rw [Option.bind_some, hget, Option.bind_some]
      by_cases hon : field.enabled.isOn flags = true
      · have hasked : field.sortRequest? flags =
            some (.single held.field held.direction.toJson) := by
          rw [Field.sortRequest?, if_pos hon, hsort, hname, Option.map_some]
        rw [hasked]
        constructor
        · intro hdocument
          exact ⟨hinclude, held, field, rfl, hget, hon, (Option.some.inj hdocument).symm⟩
        · rintro ⟨-, _, _, hheld, -, -, rfl⟩
          rw [Option.some.inj hheld]
          rfl
      · have hnone : field.sortRequest? flags = none := by rw [Field.sortRequest?, if_neg hon]
        rw [hnone]
        constructor
        · intro hdocument
          cases hdocument
        · rintro ⟨-, _, other, hheld, hother, hotherOn, -⟩
          rw [← Option.some.inj hheld, hget] at hother
          exact absurd (Option.some.inj hother ▸ hotherOn) hon
  · simp [hinclude]

end Search
end FacetedSearch
