import FacetedSearch.Definition.Search
import FacetedSearch.Proofs.Json.Record
import FacetedSearch.Proofs.Json.Text

/-!
# Definitions have texts

The document of a definition is flat: five arrays and objects are open where it is deepest, around
a configured interval.  Its integers are counts, and no object in it repeats a key.  So its text is
read back as the document, as far as the bounds of the configured intervals are.

* `Json.spelled_written`, `Json.spelled_ofOption`: documents put together from others;
* `Bounds.IsSpelled`, `KindDefinition.IsSpelled`, `SearchDefinition.IsSpelled`: every bound is read
  back from its numeral;
* `SearchDefinition.spelled_toJson`: the document of a definition.
-/

namespace FacetedSearch

namespace Json

variable {room : Nat}

theorem spelled_ofUInt64 (n : UInt64) : (ofUInt64 n).Spelled room := by
  have hbound : n.toNat < 2 ^ 64 := n.toNat_lt
  exact .int room (by omega) (by omega)

theorem spelled_ofBinary64 {x : Binary64} (h : ofNumeral? (floatChars x) = some (.float x)) :
    (ofBinary64 x).Spelled room := by
  unfold ofBinary64
  split
  · exact .float room h
  · exact .null room

theorem spelled_ofOption {α : Type} {write : α → Json} {value : Option α}
    (h : ∀ x, (write x).Spelled room) : (ofOption write value).Spelled room := by
  cases value with
  | none => exact .null room
  | some x => exact h x

theorem spelled_arr_map {α : Type} {write : α → Json} {xs : List α}
    (h : ∀ x ∈ xs, (write x).Spelled room) : (Json.arr (xs.map write)).Spelled (room + 1) := by
  refine .arr fun item hitem => ?_
  obtain ⟨x, hx, rfl⟩ := List.mem_map.1 hitem
  exact h x hx

/-- What is written of a field that may be absent. -/
theorem spelled_of_map {α : Type} {write : α → Json} {value : Option α}
    (h : ∀ x, value = some x → (write x).Spelled room) :
    ∀ document, value.map write = some document → document.Spelled room := by
  intro document hdocument
  obtain ⟨x, hx, rfl⟩ := Option.map_eq_some_iff.1 hdocument
  exact h x hx

theorem spelled_of_some {document : Json} (h : document.Spelled room) :
    ∀ other, some document = some other → other.Spelled room := by
  intro other hother
  rwa [← Option.some.inj hother]

/-- The object of the members that are there. -/
theorem spelled_written {fields : List (String × Option Json)} (hkeys : (fields.map Prod.fst).Nodup)
    (h : ∀ field ∈ fields, ∀ document, field.2 = some document → document.Spelled room) :
    (Json.obj (written fields)).Spelled (room + 1) := by
  refine .obj (hkeys.sublist (keys_written_sublist fields)) fun member hmember => ?_
  obtain ⟨field, hfield, hwritten⟩ := List.mem_filterMap.1 hmember
  obtain ⟨document, hdocument, rfl⟩ := Option.map_eq_some_iff.1 hwritten
  exact h field hfield document hdocument

end Json

open Json

variable {room : Nat}

/-! ## Fields and request options -/

theorem FieldDefinition.spelled_toJson (definition : FieldDefinition) :
    definition.toJson.Spelled (room + 1) := by
  refine spelled_written (show ["fieldname", "title", "script_field", "order_by", "enabled",
    "display"].Nodup by decide) ?_
  simp only [List.forall_mem_cons]
  exact ⟨spelled_of_some (.str room _), spelled_of_map fun s _ => .str room s,
    spelled_of_map fun s _ => .str room s,
    spelled_of_map fun direction _ => .str room direction.word, spelled_of_some (.bool room _),
    spelled_of_some (.bool room _), fun _ hnone => absurd hnone List.not_mem_nil⟩

theorem RequestOptions.spelled_toJson (options : RequestOptions) :
    options.toJson.Spelled (room + 1) := by
  refine .obj (show ["include_fields", "include_facets", "include_filters"].Nodup by decide) ?_
  simp only [List.forall_mem_cons]
  exact ⟨.bool room _, .bool room _, .bool room _, fun _ hnone => absurd hnone List.not_mem_nil⟩

/-! ## Options of a kind -/

theorem TermsOptions.spelled_members (options : TermsOptions) :
    ∀ member ∈ options.members, member.2.Spelled (room + 1) := by
  have hsize : ∀ n : UInt32, (Json.int n.toNat).Spelled (room + 1) := by
    intro n
    have hbound : n.toNat < 2 ^ 32 := n.toNat_lt
    exact .int _ (by omega) (by omega)
  simp only [TermsOptions.members, List.forall_mem_cons]
  exact ⟨spelled_ofOption fun s => .str _ s,
    spelled_ofOption fun fields => spelled_arr_map fun s _ => .str room s, spelled_ofOption hsize,
    spelled_ofOption fun b => .bool _ b, spelled_ofOption fun order => .str _ order.word,
    spelled_ofOption fun s => .str _ s, fun _ hnone => absurd hnone List.not_mem_nil⟩

/-- The bounds that are there are read back from their numerals. -/
structure Bounds.IsSpelled (bounds : Bounds) : Prop where
  lower : ∀ x, bounds.lower = some x → ofNumeral? (floatChars x) = some (.float x)
  upper : ∀ x, bounds.upper = some x → ofNumeral? (floatChars x) = some (.float x)

theorem Bucket.spelled_toJson {bucket : Bucket} (h : bucket.bounds.IsSpelled) :
    bucket.toJson.Spelled (room + 1) := by
  refine spelled_written (show ["from", "to", "display_from", "display_to"].Nodup by decide) ?_
  simp only [List.forall_mem_cons]
  exact ⟨spelled_of_map fun x hx => spelled_ofBinary64 (h.lower x hx),
    spelled_of_map fun x hx => spelled_ofBinary64 (h.upper x hx),
    spelled_of_map fun s _ => .str room s, spelled_of_map fun s _ => .str room s,
    fun _ hnone => absurd hnone List.not_mem_nil⟩

theorem RangeOptions.spelled_members {options : RangeOptions}
    (h : ∀ bucket ∈ options.ranges, bucket.bounds.IsSpelled) :
    ∀ member ∈ options.members, member.2.Spelled (room + 2) := by
  simp only [RangeOptions.members, List.forall_mem_cons]
  exact ⟨spelled_ofOption fun s => .str _ s, spelled_ofOption fun s => .str _ s,
    spelled_ofOption fun s => .str _ s, spelled_ofOption fun s => .str _ s,
    spelled_arr_map fun bucket hbucket => Bucket.spelled_toJson (h bucket hbucket),
    fun _ hnone => absurd hnone List.not_mem_nil⟩

/-! ## Filters -/

namespace KindDefinition

/-- The bounds of the configured intervals are read back from their numerals. -/
def IsSpelled : KindDefinition → Prop
  | .range options => ∀ bucket ∈ options.ranges, bucket.bounds.IsSpelled
  | .term _ | .numeric _ => True

theorem spelled_members {kind : KindDefinition} (h : kind.IsSpelled) :
    ∀ member ∈ kind.members, member.2.Spelled (room + 2) := by
  cases kind with
  | term options | numeric options =>
    exact List.forall_mem_cons.2 ⟨.str _ _, options.spelled_members⟩
  | range options => exact List.forall_mem_cons.2 ⟨.str _ _, RangeOptions.spelled_members h⟩

end KindDefinition

namespace FilterDefinition

/-- The members of a definition and those of its kind, which share one object. -/
def fields (definition : FilterDefinition) : List (String × Option Json) :=
  definition.ownMembers ++ definition.kind.members.map fun member => (member.1, some member.2)

/-- No key of the one is a key of the other. -/
theorem nodup_keys_fields (definition : FilterDefinition) :
    (definition.fields.map Prod.fst).Nodup := by
  have hterms : ["fieldname", "label", "enabled", "multiple", "operator", "prefix", "suffix",
      "expandable", "collapsible", "type", "script_field", "fields", "size", "all_terms", "order",
      "script"].Nodup := by decide
  have hranges : ["fieldname", "label", "enabled", "multiple", "operator", "prefix", "suffix",
      "expandable", "collapsible", "type", "key_field", "value_field", "key_script",
      "value_script", "ranges"].Nodup := by decide
  unfold fields
  cases definition.kind with
  | term options | numeric options => exact hterms
  | range options => exact hranges

theorem spelled_toJson {definition : FilterDefinition} (h : definition.kind.IsSpelled) :
    definition.toJson.Spelled (room + 3) := by
  refine spelled_written definition.nodup_keys_fields ?_
  rw [List.forall_mem_append]
  refine ⟨?_, fun field hfield => ?_⟩
  · simp only [ownMembers, List.forall_mem_cons]
    exact ⟨spelled_of_some (.str _ _), spelled_of_map fun s _ => .str _ s,
      spelled_of_some (.bool _ _), spelled_of_some (.bool _ _),
      spelled_of_some (.str _ definition.combination.word), spelled_of_some (.str _ _),
      spelled_of_some (.str _ _), spelled_of_some (.bool _ _), spelled_of_some (.bool _ _),
      fun _ hnone => absurd hnone List.not_mem_nil⟩
  · obtain ⟨member, hmember, rfl⟩ := List.mem_map.1 hfield
    exact spelled_of_some (KindDefinition.spelled_members h member hmember)

end FilterDefinition

/-! ## The whole definition -/

namespace SearchDefinition

/-- The bounds of the configured intervals are read back from their numerals. -/
def IsSpelled (definition : SearchDefinition) : Prop :=
  ∀ filter ∈ definition.filters, filter.kind.IsSpelled

/-- **The document of a definition has a text.** -/
theorem spelled_toJson {definition : SearchDefinition} (h : definition.IsSpelled) :
    definition.toJson.Spelled (room + 5) := by
  refine .obj (show ["page_length", "compiler", "fields", "filters"].Nodup by decide) ?_
  simp only [List.forall_mem_cons]
  exact ⟨spelled_ofUInt64 _, definition.options.spelled_toJson,
    spelled_arr_map fun field _ => field.spelled_toJson,
    spelled_arr_map fun filter hfilter => FilterDefinition.spelled_toJson (h filter hfilter),
    fun _ hnone => absurd hnone List.not_mem_nil⟩

end SearchDefinition

end FacetedSearch
