import FacetedSearch.Proofs.Request.Additions
import FacetedSearch.Proofs.Request.Passes

/-!
# Sections that grow

A section that is a list or an object *grows* by what is added to it.  There is nothing to say about
how it looked before, other than that it was of the right shape or not there, and nothing changes
if nothing is added.  A section that grows twice grows by both together.  So what all additions
make of one section is read off the list of the additions, where those to other sections count for
nothing.  The fields need this three times, as each of them may add to three sections.

* `Request.Grown`, `Request.grown_inTurn`: one section, over one step and over all;
* `Request.Appended`, `Request.Overwritten`: what has become of a list, and of an object;
* `Request.exists_keys_inTurn`: the keys, over all additions;
* `Request.Addition.itemsUnder`, `Request.Addition.membersUnder`: what an addition adds to a section;
* `Search.appended_compileFields`, `Search.grown_compileFields`, `Search.grown_compileFacets`: the
  sections of a request.
-/

namespace FacetedSearch
namespace Request

/-! ## Sections that grow -/

/-- A section of a shape grew by what was added to it.  If that is nothing, it is as it was. -/
structure Grown {α : Type} (shape : List α → Json) (grow : List α → List α → List α)
    (key : String) (added : List α) (before after : Request) : Prop where
  kept : added = [] → Assoc.get? key after = Assoc.get? key before
  grew : added ≠ [] → ∃ held, (Assoc.get? key before).getD (shape []) = shape held ∧
    Assoc.get? key after = some (shape (grow held added))

section

variable {α : Type} {shape : List α → Json} {grow : List α → List α → List α} {key : String}
  {request next : Request}

theorem grown_of_same (h : Assoc.get? key next = Assoc.get? key request) :
    Grown shape grow key [] request next where
  kept _ := h
  grew hne := absurd rfl hne

theorem Grown.of_same {added : List α} {before after later : Request}
    (h : Grown shape grow key added before after)
    (hsame : Assoc.get? key later = Assoc.get? key after) :
    Grown shape grow key added before later :=
  ⟨fun hnone => hsame.trans (h.kept hnone), fun hsome => hsame ▸ h.grew hsome⟩

/-- A section that grows twice grows by both together. -/
theorem Grown.trans {first second : List α} {before middle after : Request}
    (hshape : Function.Injective shape)
    (hgrow : ∀ held first second, grow held (first ++ second) = grow (grow held first) second)
    (h : Grown shape grow key first before middle)
    (h' : Grown shape grow key second middle after) :
    Grown shape grow key (first ++ second) before after := by
  by_cases hfirst : first = []
  · rw [hfirst, List.nil_append]
    have hsame := h.kept hfirst
    exact ⟨fun hnone => (h'.kept hnone).trans hsame, fun hsome => hsame ▸ h'.grew hsome⟩
  · refine ⟨fun hnone => absurd (List.append_eq_nil_iff.1 hnone).1 hfirst, fun _ => ?_⟩
    obtain ⟨held, hheld, hmiddle⟩ := h.grew hfirst
    by_cases hsecond : second = []
    · rw [hsecond, List.append_nil]
      exact ⟨held, hheld, (h'.kept hsecond).trans hmiddle⟩
    · obtain ⟨more, hmore, hafter⟩ := h'.grew hsecond
      rw [hmiddle, Option.getD_some] at hmore
      obtain rfl := hshape hmore
      exact ⟨held, hheld, by rw [hafter, hgrow]⟩

/-- **A section grows by what each of the steps adds to it**, in their order. -/
theorem grown_inTurn {ι : Type} {steps : ι → Request → Except Rejection Request}
    (content : ι → List α) {order : List ι} (hshape : Function.Injective shape)
    (hgrow : ∀ held first second, grow held (first ++ second) = grow (grow held first) second)
    (hstep : ∀ item ∈ order, ∀ request next, steps item request = .ok next →
      Grown shape grow key (content item) request next)
    {seed final : Request} (h : inTurn steps order seed = .ok final) :
    Grown shape grow key (order.flatMap content) seed final := by
  induction order generalizing seed with
  | nil =>
    obtain rfl := Except.ok.inj h
    exact grown_of_same rfl
  | cons item rest ih =>
    obtain ⟨hitem, hrest⟩ := List.forall_mem_cons.1 hstep
    rw [inTurn_cons] at h
    obtain ⟨middle, hmiddle, hlast⟩ := Fallible.bind_eq_ok_iff.1 h
    rw [List.flatMap_cons]
    exact (hitem seed middle hmiddle).trans hshape hgrow (ih hrest hlast)

end

section

variable {key : String} {request next : Request}

/-- Items were appended to a list. -/
def Appended (key : String) (items : List Json) (before after : Request) : Prop :=
  Grown Json.arr (· ++ ·) key items before after

theorem appended_pushItem {item : Json} (h : request.pushItem key item = .ok next) :
    Appended key [item] request next := by
  refine ⟨fun hnone => absurd hnone (List.cons_ne_nil _ _), fun _ => ?_⟩
  unfold pushItem at h
  split at h
  · next habsent =>
    rw [habsent, ← Except.ok.inj h]
    exact ⟨[], rfl, Assoc.get?_insert_self _ _ _⟩
  · next held hheld =>
    rw [hheld, ← Except.ok.inj h]
    exact ⟨held, rfl, Assoc.get?_insert_self _ _ _⟩
  · cases h

theorem grown_extendObject {members : Assoc Json} (hmembers : members ≠ [])
    (h : request.extendObject key members = .ok next) :
    Grown Json.obj Assoc.extend key members request next := by
  refine ⟨fun hnone => absurd hnone hmembers, fun _ => ?_⟩
  unfold extendObject at h
  split at h
  · next habsent =>
    rw [habsent, ← Except.ok.inj h]
    exact ⟨[], rfl, Assoc.get?_insert_self _ _ _⟩
  · next held hheld =>
    rw [hheld, ← Except.ok.inj h]
    exact ⟨held, rfl, Assoc.get?_insert_self _ _ _⟩
  · cases h

/-- Entries were written into an object: those of other names stay in place, those of the same
name are replaced, and new names come behind. -/
structure Overwritten (key : String) (entries : Assoc Json) (before after : Request) : Prop where
  kept : entries = [] → Assoc.get? key after = Assoc.get? key before
  written : entries ≠ [] → ∃ held members,
    (Assoc.get? key before).getD (.obj []) = .obj held ∧
    Assoc.get? key after = some (.obj members) ∧
    Assoc.keys members =
      Assoc.keys held ++ (Assoc.keys entries).filter (fun name => name ∉ Assoc.keys held) ∧
    (∀ (i : Nat) (entry : String × Json), held[i]? = some entry →
      entry.1 ∉ Assoc.keys entries → members[i]? = some entry) ∧
    ∀ name document, (name, document) ∈ entries → Assoc.get? name members = some document

/-- An object that grows by entries of distinct names has them written into it. -/
theorem Grown.overwritten {entries : Assoc Json} {before after : Request}
    (h : Grown Json.obj Assoc.extend key entries before after)
    (hnames : (Assoc.keys entries).Nodup) : Overwritten key entries before after := by
  refine ⟨h.kept, fun hsome => ?_⟩
  obtain ⟨held, hheld, hafter⟩ := h.grew hsome
  refine ⟨held, _, hheld, hafter, Assoc.keys_extend hnames, fun i entry hentry hother =>
    Assoc.getElem?_extend hentry hother, fun name document hmem => ?_⟩
  rw [Assoc.get?_extend hnames, Assoc.get?_of_mem hnames hmem]
  rfl

end

/-! ## The keys -/

theorem exists_insert_of_rewriteSection {key : String} {request next : Request}
    {rewrite : Option Json → Except ConfigurationFault Json}
    (h : rewriteSection key rewrite request = .ok next) :
    ∃ document, next = Assoc.insert key document request := by
  unfold rewriteSection at h
  split at h
  · next written _ => exact ⟨written, (Except.ok.inj h).symm⟩
  · cases h

/-- An addition that was made is a section that was written. -/
theorem Addition.exists_insert {addition : Addition} {request next : Request}
    (h : addition.make request = .ok next) :
    ∃ document, next = Assoc.insert addition.key document request := by
  cases addition with
  | members key added =>
    rw [make, extendObject_eq_rewriteSection] at h
    exact exists_insert_of_rewriteSection h
  | item key added =>
    rw [make, pushItem_eq_rewriteSection] at h
    exact exists_insert_of_rewriteSection h
  | conditions several =>
    rw [make, uniteConditions_eq_rewriteSection] at h
    exact exists_insert_of_rewriteSection h
  | whole key document => exact ⟨document, (Except.ok.inj h).symm⟩

/-- Additions leave the keys of a seed in their order, and put new ones behind. -/
theorem exists_keys_inTurn {order : List Addition} {seed final : Request}
    (h : inTurn Addition.make order seed = .ok final) :
    ∃ added, Assoc.keys final = Assoc.keys seed ++ added ∧ added.Nodup ∧
      ∀ key ∈ added, key ∉ Assoc.keys seed := by
  induction order generalizing seed with
  | nil =>
    obtain rfl := Except.ok.inj h
    exact ⟨[], (List.append_nil _).symm, .nil, fun _ hmem => absurd hmem List.not_mem_nil⟩
  | cons addition rest ih =>
    rw [inTurn_cons] at h
    obtain ⟨middle, hmiddle, hlast⟩ := Fallible.bind_eq_ok_iff.1 h
    obtain ⟨document, rfl⟩ := Addition.exists_insert hmiddle
    obtain ⟨added, hkeys, hnodup, hnew⟩ := ih hlast
    rw [Assoc.keys_insert] at hkeys hnew
    split at hkeys
    · next hthere =>
      rw [if_pos hthere] at hnew
      exact ⟨added, hkeys, hnodup, hnew⟩
    · next habsent =>
      rw [if_neg habsent] at hnew
      refine ⟨addition.key :: added, hkeys.trans (List.append_cons _ _ _).symm, ?_, ?_⟩
      · exact List.nodup_cons.2 ⟨fun hmem => hnew _ hmem (List.mem_append_right _
          (List.mem_singleton_self _)), hnodup⟩
      · exact List.forall_mem_cons.2 ⟨habsent, fun key hkey hmem =>
          hnew key hkey (List.mem_append_left _ hmem)⟩

/-! ## What additions come to under one key -/

namespace Addition

/-- The items that an addition appends to the list under a key. -/
def itemsUnder (key : String) : Addition → List Json
  | .item other added => if other = key then [added] else []
  | .members _ _ | .conditions _ | .whole _ _ => []

/-- The members that an addition writes into the object under a key. -/
def membersUnder (key : String) : Addition → Assoc Json
  | .members other added => if other = key then added else []
  | .item _ _ | .conditions _ | .whole _ _ => []

variable {addition : Addition} {key : String} {request next : Request}

/-- Additions under other keys leave a section as it is. -/
theorem grown_of_key_ne {α : Type} {shape : List α → Json} {grow : List α → List α → List α}
    (hkey : addition.key ≠ key) (h : addition.make request = .ok next) :
    Grown shape grow key [] request next :=
  grown_of_same (addition.keepsTo_make.get?_of_ok h (mt List.mem_singleton.1 hkey.symm))

theorem appended_make (hitem : addition.key = key → ∃ item, addition = .item key item)
    (h : addition.make request = .ok next) :
    Appended key (addition.itemsUnder key) request next := by
  by_cases hkey : addition.key = key
  · obtain ⟨item, rfl⟩ := hitem hkey
    rw [itemsUnder, if_pos rfl]
    exact appended_pushItem h
  · have hnone : addition.itemsUnder key = [] := by
      cases addition with
      | item other added => exact if_neg hkey
      | members _ _ | conditions _ | whole _ _ => rfl
    rw [hnone]
    exact grown_of_key_ne hkey h

theorem grown_make (hmember : addition.key = key → ∃ member, addition = .members key [member])
    (h : addition.make request = .ok next) :
    Grown Json.obj Assoc.extend key (addition.membersUnder key) request next := by
  by_cases hkey : addition.key = key
  · obtain ⟨member, rfl⟩ := hmember hkey
    rw [membersUnder, if_pos rfl]
    exact grown_extendObject (List.cons_ne_nil _ _) h
  · have hnone : addition.membersUnder key = [] := by
      cases addition with
      | members other added => exact if_neg hkey
      | item _ _ | conditions _ | whole _ _ => rfl
    rw [hnone]
    exact grown_of_key_ne hkey h

end Addition
end Request

open Request

/-! ## What the fields add -/

namespace Field

/-- Under the key of each of its sections a field adds what it asks for there. -/
theorem flatMap_additions (flags : Flags) (field : Field) :
    (field.additions flags).flatMap (Addition.itemsUnder "fields") =
        (field.fieldRequest? flags).toList ∧
      (field.additions flags).flatMap (Addition.itemsUnder "sort") =
        (field.sortRequest? flags).toList ∧
      (field.additions flags).flatMap (Addition.membersUnder "script_fields") =
        ((field.scriptRequest? flags).map fun script => (field.name, script)).toList := by
  unfold additions scriptRequest? fieldRequest? sortRequest? isScripted
  cases field.enabled.isOn flags with
  | false => exact ⟨rfl, rfl, rfl⟩
  | true => cases field.script <;> cases field.sort <;> exact ⟨rfl, rfl, rfl⟩

end Field

namespace Search

variable {flags : Flags} {options : RequestOptions} {search : Search} {seed request : Request}

/-- What the fields add under a key is what each of them adds there. -/
theorem flatMap_fieldAdditions {α : Type} {content : Addition → List α} {asked : Field → Option α}
    (h : ∀ field, (Field.additions flags field).flatMap content = (asked field).toList) :
    (search.fieldAdditions flags options).flatMap content =
      if options.includeFields then search.fields.items.filterMap asked else [] := by
  unfold fieldAdditions
  split
  · rw [List.flatMap_assoc, List.filterMap_eq_flatMap_toList]
    exact congrArg (List.flatMap · search.fields.items) (funext h)
  · rfl

/-- The lists that the fields append to grow by their items. -/
theorem appended_compileFields (key : String) (hkey : key ∈ ["fields", "sort"])
    (h : search.compileFields flags options seed = .ok request) :
    Appended key ((search.fieldAdditions flags options).flatMap (Addition.itemsUnder key)) seed
      request := by
  rw [compileFields_eq_inTurn] at h
  refine grown_inTurn (Addition.itemsUnder key) (fun _ _ => Json.arr.inj)
    (fun held first second => (List.append_assoc held first second).symm)
    (fun addition hmem request next => Addition.appended_make fun hsame => ?_) h
  rcases mem_fieldAdditions_cases hmem with ⟨other, -, item, rfl⟩ | ⟨member, rfl⟩
  · obtain rfl : other = key := hsame
    exact ⟨item, rfl⟩
  · obtain rfl : "script_fields" = key := hsame
    exact absurd hkey (by decide)

/-- The scripts grow by those of the fields. -/
theorem grown_compileFields (h : search.compileFields flags options seed = .ok request) :
    Grown Json.obj Assoc.extend "script_fields"
      ((search.fieldAdditions flags options).flatMap (Addition.membersUnder "script_fields")) seed
      request := by
  rw [compileFields_eq_inTurn] at h
  refine grown_inTurn (Addition.membersUnder "script_fields") (fun _ _ => Json.obj.inj)
    (fun held first second => Assoc.extend_append held first second)
    (fun addition hmem request next => Addition.grown_make fun hsame => ?_) h
  rcases mem_fieldAdditions_cases hmem with ⟨other, hother, item, rfl⟩ | ⟨member, rfl⟩
  · obtain rfl : other = "script_fields" := hsame
    exact absurd hother (by decide)
  · exact ⟨member, rfl⟩

/-- The facets grow by those of the filters. -/
theorem grown_compileFacets (h : search.compileFacets flags options seed = .ok request) :
    Grown Json.obj Assoc.extend "facets" (search.facetsAsked flags options) seed request := by
  unfold compileFacets at h
  unfold facetsAsked
  split at h
  · next hinclude =>
    rw [foldlM_compileFacet] at h
    rw [if_pos hinclude]
    split at h
    · next hnone =>
      rw [hnone, ← Except.ok.inj h]
      exact grown_of_same rfl
    · next hsome => exact grown_extendObject hsome h
  · next hexclude =>
    rw [if_neg hexclude, ← Except.ok.inj h]
    exact grown_of_same rfl

end Search
end FacetedSearch
