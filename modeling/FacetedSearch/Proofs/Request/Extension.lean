import FacetedSearch.Proofs.Request.Growth
import FacetedSearch.Proofs.Request.Meaning
import FacetedSearch.Proofs.Search.SortCell

/-!
# What a request leaves of its seed

A request is compiled onto a seed that may hold anything, also sections that are compiled and
names that the search has.  What the seed holds stays where it is.  New sections come behind those
of the seed, new items behind the items of a list, and new names behind the names of an object; a
name that is there already keeps its place and gets the new entry.  A section that nothing is added
to is not touched, and not made if it is not there.

* `Search.fieldsAsked`, `Search.sortAsked`, `Search.scriptsAsked`: what the fields add;
* `Search.facetAsked`: what a filter adds;
* `Search.Extends`: a request, seen from its seed;
* `Search.compile_extends_seed`: what has become of the seed.
-/

namespace FacetedSearch

open Request

namespace Search

variable {flags : Flags} {options : RequestOptions} {search : Search} {seed request : Request}

/-- The fields that are on, if fields are included. -/
def fieldsOn (flags : Flags) (options : RequestOptions) (search : Search) : List Field :=
  if options.includeFields then search.fields.items.filter fun field => field.enabled.isOn flags
  else []

/-- The names of the fields that are read off the document. -/
def fieldsAsked (flags : Flags) (options : RequestOptions) (search : Search) : List Json :=
  (search.fieldsOn flags options).filterMap fun field => match field.script with
    | none => some (.str field.name)
    | some _ => none

/-- The directions of the fields that are sorted, each by the name of its field. -/
def sortAsked (flags : Flags) (options : RequestOptions) (search : Search) : List Json :=
  (search.fieldsOn flags options).filterMap fun field =>
    field.sort.map fun direction => .obj [(field.name, direction.toJson)]

/-- The scripts of the fields that are computed, by the names of the fields. -/
def scriptsAsked (flags : Flags) (options : RequestOptions) (search : Search) : Assoc Json :=
  (search.fieldsOn flags options).filterMap fun field =>
    field.script.map fun script => (field.name, .obj [("script", .str script)])

/-- What a filter that is on asks for: what its kind asks for, confined by the conditions of the
others.  There is nothing to confine if that is no object. -/
def facetAsked (flags : Flags) (search : Search) (filter : Filter) : Json :=
  match filter.kind.aggregation filter.name,
    allOf? (conditions flags
      (search.filters.items.filter fun other => other.name ≠ filter.name)) with
  | .obj members, some condition => .obj (Assoc.insert "facet_filter" condition members)
  | asked, _ => asked

/-- What the fields that are on make of something that each field may ask for. -/
theorem filterMap_fieldsOn {α : Type} (asked : Field → Option α) :
    (search.fieldsOn flags options).filterMap asked =
      if options.includeFields then
        search.fields.items.filterMap fun field =>
          if field.enabled.isOn flags then asked field else none
      else [] := by
  unfold fieldsOn
  split
  · exact List.filterMap_filter
  · rfl

theorem fieldsAsked_eq : search.fieldsAsked flags options =
    if options.includeFields then
      search.fields.items.filterMap fun field => field.fieldRequest? flags
    else [] := by
  have hasked : ∀ field : Field, (if field.enabled.isOn flags then
      match field.script with
      | none => some (Json.str field.name)
      | some _ => none
    else none) = field.fieldRequest? flags := by
    intro field
    unfold Field.fieldRequest? Field.isScripted
    cases field.enabled.isOn flags <;> cases field.script <;> rfl
  rw [fieldsAsked, filterMap_fieldsOn]
  simp only [hasked]

theorem sortAsked_eq : search.sortAsked flags options =
    if options.includeFields then
      search.fields.items.filterMap fun field => field.sortRequest? flags
    else [] :=
  filterMap_fieldsOn _

theorem scriptsAsked_eq : search.scriptsAsked flags options =
    if options.includeFields then
      search.fields.items.filterMap fun field =>
        (field.scriptRequest? flags).map fun script => (field.name, script)
    else [] := by
  have hasked : ∀ field : Field, (if field.enabled.isOn flags then
      field.script.map fun script => (field.name, Json.obj [("script", .str script)])
    else none) = (field.scriptRequest? flags).map fun script => (field.name, script) := by
    intro field
    unfold Field.scriptRequest?
    cases field.enabled.isOn flags <;> cases field.script <;> rfl
  rw [scriptsAsked, filterMap_fieldsOn]
  simp only [hasked]

theorem keys_scriptsAsked : Assoc.keys (search.scriptsAsked flags options) =
    ((search.fieldsOn flags options).filter fun field => field.script.isSome).map Field.name := by
  rw [Assoc.keys, scriptsAsked, List.map_filterMap, ← List.filterMap_eq_map,
    List.filterMap_filter]
  refine List.filterMap_congr fun field _ => ?_
  cases field.script <;> rfl

/-- A filter asks for a facet exactly if it is on. -/
theorem facetRequest?_eq (filter : Filter) :
    filter.facetRequest? flags (conditionOfOthers? flags search.filters.items filter.name) =
      if filter.enabled.isOn flags then some (search.facetAsked flags filter) else none := by
  unfold Filter.facetRequest? facetAsked conditionOfOthers?
  refine if_congr Iff.rfl ?_ rfl
  cases filter.kind.aggregation filter.name <;>
    cases allOf? (conditions flags
      (search.filters.items.filter fun other => other.name ≠ filter.name)) <;> rfl

theorem facetsAsked_eq : search.facetsAsked flags options =
    if options.includeFacets then
      (search.filters.items.filter fun filter => filter.enabled.isOn flags).map fun filter =>
        (filter.name, search.facetAsked flags filter)
    else [] := by
  unfold facetsAsked facetEntries
  refine if_congr Iff.rfl ?_ rfl
  rw [← List.filterMap_eq_map, List.filterMap_filter]
  refine List.filterMap_congr fun filter _ => ?_
  rw [facetRequest?_eq]
  split <;> rfl

/-- A field that is sorted is the only one. -/
theorem Reachable.sortAsked_of_mem (h : search.Reachable) {field : Field}
    (hfield : field ∈ search.fields.items) {direction : Direction}
    (hsort : field.sort = some direction) :
    search.sortAsked flags options =
      if options.includeFields && field.enabled.isOn flags then
        [.obj [(field.name, direction.toJson)]]
      else [] := by
  have hkey : search.sortKey? = some ⟨field.name, direction⟩ :=
    sortUnder_eq_some_iff.1 ((h.sortedBy.sort field hfield).symm.trans hsort)
  have hget : search.fields.get? field.name = some field :=
    (Catalog.get?_eq_some_iff h.sortedBy.names).2 ⟨hfield, rfl⟩
  rw [sortAsked_eq, filterMap_sortRequest? h.sortedBy, hkey, Option.bind_some, hget,
    Option.bind_some, Field.sortRequest?, hsort]
  cases options.includeFields <;> cases field.enabled.isOn flags <;> rfl

theorem sortAsked_of_unsorted (h : ∀ field ∈ search.fields.items, field.sort = none) :
    search.sortAsked flags options = [] := by
  rw [sortAsked, List.filterMap_eq_nil_iff]
  intro field hfield
  have hmem : field ∈ search.fields.items := by
    unfold fieldsOn at hfield
    split at hfield
    · exact List.mem_of_mem_filter hfield
    · cases hfield
  rw [h field hmem, Option.map_none]

/-- Without conditions, or where they are left out, the filter section is not looked at. -/
theorem compileConditions_of_none
    (h : options.includeFilters = false ∨ conditions flags search.filters.items = []) :
    search.compileConditions flags options seed = .ok seed := by
  unfold compileConditions
  split
  · next hinclude =>
    rw [h.resolve_left fun hexclude => Bool.false_ne_true (hexclude.symm.trans hinclude)]
  · rfl

/-! ## The seed -/

/-- What a request is, seen from the seed onto which it was compiled. -/
structure Extends (flags : Flags) (options : RequestOptions) (search : Search)
    (seed request : Request) : Prop where
  /-- New sections come behind those of the seed, which stay in their order. -/
  keys : ∃ added, Assoc.keys request = Assoc.keys seed ++ added ∧ added.Nodup ∧
    ∀ key ∈ added, key ∈ sectionKeys ∧ key ∉ Assoc.keys seed
  kept : ∀ key, key ∉ sectionKeys → Assoc.get? key request = Assoc.get? key seed
  fields : Appended "fields" (search.fieldsAsked flags options) seed request
  sort : Appended "sort" (search.sortAsked flags options) seed request
  scripts : Overwritten "script_fields" (search.scriptsAsked flags options) seed request
  facets : Overwritten "facets" (search.facetsAsked flags options) seed request
  conditions : options.includeFilters = false ∨
    FacetedSearch.conditions flags search.filters.items = [] →
      Assoc.get? "filter" request = Assoc.get? "filter" seed

theorem Reachable.nodup_keys_scriptsAsked (h : search.Reachable) :
    (Assoc.keys (search.scriptsAsked flags options)).Nodup := by
  rw [keys_scriptsAsked]
  refine List.Nodup.sublist (List.filter_sublist.map Field.name) ?_
  unfold fieldsOn
  split
  · exact h.sortedBy.names.sublist (List.filter_sublist.map Field.name)
  · exact .nil

theorem Reachable.nodup_keys_facetsAsked (h : search.Reachable) :
    (Assoc.keys (search.facetsAsked flags options)).Nodup := by
  unfold facetsAsked
  split
  · exact h.coherent.names.sublist (keys_facetEntries_sublist _)
  · exact .nil

/-- **A request extends its seed and does not disturb it.**  Let a search that comes about be
compiled onto a seed, and not rejected.  The keys of the seed stay in their order and in front of
those that are new, and what is under other keys than those of the sections stays as it is.  The
list of fields is that of the seed and behind it the names of the fields that are on and read off
the document, in their order; the list of sort keys is that of the seed and behind it the name of
the sorted field with its direction, if it is on.  Into the scripts and the facets one entry is
written for each field that is on and computed, and for each filter that is on: entries of the seed
under other names stay in place, and new names come behind, in the order of the fields or filters.
A section to which nothing is added, because it is left out or because no field or filter asks for
anything, is that of the seed, or is not there if the seed has none; so are the conditions. -/
theorem compile_extends_seed (h : search.Reachable)
    (hrequest : search.compile flags options seed = .ok request) :
    search.Extends flags options seed request ∧
      (∀ field ∈ search.fields.items, ∀ direction, field.sort = some direction →
        search.sortAsked flags options =
          if options.includeFields && field.enabled.isOn flags then
            [.obj [(field.name, direction.toJson)]]
          else []) ∧
      ((∀ field ∈ search.fields.items, field.sort = none) →
        search.sortAsked flags options = []) ∧
      Assoc.keys (search.scriptsAsked flags options) =
        ((search.fieldsOn flags options).filter fun field => field.script.isSome).map Field.name ∧
      search.facetsAsked flags options =
        if options.includeFacets then
          (search.filters.items.filter fun filter => filter.enabled.isOn flags).map fun filter =>
            (filter.name, search.facetAsked flags filter)
        else [] := by
  have hpasses : search.runPasses flags options Pass.all seed = .ok request :=
    (compile_eq_runPasses flags options search seed).symm.trans hrequest
  obtain ⟨fielded, hfielded, hfieldKeys⟩ := exists_run_of_runPasses (.refl _) hpasses .fields
  obtain ⟨faceted, hfaceted, hfacetKeys⟩ := exists_run_of_runPasses (.refl _) hpasses .facets
  obtain ⟨filtered, hfiltered, hfilterKeys⟩ :=
    exists_run_of_runPasses (.refl _) hpasses .conditions
  have hkept : ∀ key, key ∉ sectionKeys → Assoc.get? key request = Assoc.get? key seed :=
    fun key hkey => (get?_of_runPasses (.refl _) hpasses key).trans (sectionAfter?_of_notMem hkey)
  have hscripts := (grown_compileFields hfielded).of_same (hfieldKeys "script_fields" (by decide))
  rw [flatMap_fieldAdditions fun field => (Field.flatMap_additions flags field).2.2,
    ← scriptsAsked_eq] at hscripts
  have hfacets := (grown_compileFacets hfaceted).of_same (hfacetKeys "facets" (by decide))
  refine ⟨⟨?_, hkept, ?_, ?_, hscripts.overwritten h.nodup_keys_scriptsAsked,
    hfacets.overwritten h.nodup_keys_facetsAsked, fun hnone => ?_⟩, ?_, sortAsked_of_unsorted,
    keys_scriptsAsked, facetsAsked_eq⟩
  · rw [compile_eq_inTurn] at hrequest
    obtain ⟨added, hkeys, hnodup, hnew⟩ := exists_keys_inTurn hrequest
    refine ⟨added, hkeys, hnodup, fun key hkey => ⟨?_, hnew key hkey⟩⟩
    by_contra hother
    have habsent : Assoc.get? key request = none :=
      (hkept key hother).trans (Assoc.get?_eq_none_iff.2 (hnew key hkey))
    refine Assoc.get?_eq_none_iff.1 habsent ?_
    rw [hkeys]
    exact List.mem_append_right _ hkey
  · have hfields := appended_compileFields "fields" (by decide) hfielded
    rw [flatMap_fieldAdditions fun field => (Field.flatMap_additions flags field).1,
      ← fieldsAsked_eq] at hfields
    exact hfields.of_same (hfieldKeys "fields" (by decide))
  · have hsort := appended_sort_compile hrequest
    rwa [← sortAsked_eq] at hsort
  · have hsame : filtered = seed :=
      Except.ok.inj (hfiltered.symm.trans (compileConditions_of_none hnone))
    rw [hfilterKeys "filter" (by decide), hsame]
  · exact fun field hfield direction => h.sortAsked_of_mem hfield

/-- The seed has one of the fields, a sort key, a facet of one of the two filters between others,
and a filter section of the wrong shape, which nothing is added to. -/
theorem compile_extends_seed_of_own_names :
    let price : Field := { Field.ofName "price" with script := some "p" }
    let search : Search :=
      { Search.new with
        fields := ⟨[(Field.ofName "title").withSort (some .asc), price, .ofName "year"]⟩
        filters := ⟨[.ofKind "tags" (.term .default), .ofKind "lang" (.term .default)]⟩ }
    let seed : Request := [("size", .int 5),
      ("facets", .obj [("size", .null), ("lang", .null), ("age", .int 1)]),
      ("fields", .arr [.str "year"]), ("sort", .arr [.str "_score"]), ("filter", .null)]
    search.Reachable ∧ ∃ request added members scripts,
      search.compile (fun _ => true) .all seed = .ok request ∧
        Assoc.keys request = ["size", "facets", "fields", "sort", "filter"] ++ added ∧
        Assoc.get? "fields" request = some (.arr [.str "year", .str "title", .str "year"]) ∧
        Assoc.get? "sort" request =
          some (.arr [.str "_score", .obj [("title", .str "asc")]]) ∧
        Assoc.get? "script_fields" request = some (.obj scripts) ∧
        Assoc.get? "price" scripts = some (.obj [("script", .str "p")]) ∧
        Assoc.get? "facets" request = some (.obj members) ∧
        Assoc.keys members = ["size", "lang", "age", "tags"] ∧
        members[2]? = some ("age", .int 1) ∧
        Assoc.get? "filter" request = some .null := by
  intro price search seed
  have hfields : ({ Search.new with fields := search.fields } : Search).Reachable :=
    Reachable.new.call_of_filters_eq_nil
      (.replaceFields [(Field.ofName "title").withSort (some .asc), price, .ofName "year"]) rfl
  have hreach : search.Reachable :=
    .call (.replaceFilters search.filters.items)
      (List.forall_mem_cons.2 ⟨.ofKind _ _, List.forall_mem_singleton.2 (.ofKind _ _)⟩) hfields
  obtain ⟨request, hrequest⟩ :
      ∃ request, search.compile (fun _ => true) .all seed = .ok request := ⟨_, rfl⟩
  obtain ⟨hextends, hsorted, -⟩ := compile_extends_seed hreach hrequest
  obtain ⟨added, hkeys, -⟩ := hextends.keys
  obtain ⟨names, hnames, hlisted⟩ := hextends.fields.grew (List.cons_ne_nil _ _)
  obtain rfl : [Json.str "year"] = names := Json.arr.inj hnames
  have htitle : search.sortAsked (fun _ => true) .all = [.obj [("title", .str "asc")]] :=
    hsorted _ List.mem_cons_self .asc rfl
  obtain ⟨keys, hheldKeys, hsort⟩ := hextends.sort.grew (htitle ▸ List.cons_ne_nil _ _)
  obtain rfl : [Json.str "_score"] = keys := Json.arr.inj hheldKeys
  rw [htitle] at hsort
  obtain ⟨-, scripts, -, hscripts, -, -, hscript⟩ :=
    hextends.scripts.written (List.cons_ne_nil _ _)
  obtain ⟨held, members, hheld, hmembers, hmemberKeys, hplaces, -⟩ :=
    hextends.facets.written (List.cons_ne_nil _ _)
  obtain rfl : [("size", Json.null), ("lang", .null), ("age", .int 1)] = held := Json.obj.inj hheld
  exact ⟨hreach, request, added, members, scripts, hrequest, hkeys, hlisted, hsort, hscripts,
    hscript _ _ List.mem_cons_self, hmembers, hmemberKeys,
    hplaces 2 ("age", .int 1) rfl (by decide), hextends.conditions (.inr rfl)⟩

end Search
end FacetedSearch
