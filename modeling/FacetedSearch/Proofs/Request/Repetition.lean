import FacetedSearch.Proofs.Json.Record
import FacetedSearch.Proofs.Request.Condition
import FacetedSearch.Proofs.Request.Passes
import FacetedSearch.Proofs.Request.Union

/-!
# Passes that can be repeated

The query, the facets and the conditions can be compiled onto a request into which they were
compiled before, and nothing happens.  For the fields this is not so: their names would be
listed twice.

## Why nothing happens

Each of these passes writes one section, as it is computed from what the section was before.  If
what was written would be computed from itself again, a later run writes what is there, and
writing what is there changes nothing, also not the order.  Each of the three ways of writing is
of this kind.  Members are written over those of the same key; a section that is put in place is
the same one; and conditions that were added are found when they are looked for.  The last needs
that a condition equals itself, which is so for everything that can be written down as a
document.

What a pass needs is that its own section is as it left it, not that the whole request is.  So it
also finds nothing to do after the passes behind it, and a request that was compiled once can be
compiled once more, without the fields, and stays what it is.

* `Request.Settles`: steps that find nothing to do where their sections are as they left them;
* `Request.settles_rewriteSection`: sections that are computed from themselves;
* `FilterKind.WritesDocuments`, `FilterKind.writesDocuments_of_isBuiltIn`: what conditions are;
* `Pass.settles_run`: the passes;
* `Search.passes_repeatable`: what follows for requests.
-/

namespace FacetedSearch
namespace Request

/-- A step changes nothing where its sections are as it left them once. -/
def Settles (keys : List String) (step : Request → Except Rejection Request) : Prop :=
  ∀ request next later, step request = .ok next → AgreeOn keys later next → step later = .ok later

theorem settles_ok (keys : List String) : Settles keys .ok := fun _ _ _ _ _ => rfl

/-- Steps that all find nothing to do find nothing to do one after the other. -/
theorem inTurn_eq_ok_self {ι : Type} {steps : ι → Request → Except Rejection Request}
    {order : List ι} {request : Request} (h : ∀ item ∈ order, steps item request = .ok request) :
    inTurn steps order request = .ok request := by
  induction order with
  | nil => rfl
  | cons item rest ih =>
    obtain ⟨hitem, hrest⟩ := List.forall_mem_cons.1 h
    rw [inTurn_cons, hitem]
    exact ih hrest

/-- A section that would be computed from itself is not written anew. -/
theorem settles_rewriteSection {key : String}
    {rewrite : Option Json → Except ConfigurationFault Json}
    (h : ∀ before written, rewrite before = .ok written → rewrite (some written) = .ok written) :
    Settles [key] (rewriteSection key rewrite) := by
  intro request next later hstep hlater
  unfold rewriteSection at hstep
  cases hwritten : rewrite (Assoc.get? key request) with
  | error fault =>
    rw [hwritten] at hstep
    cases hstep
  | ok written =>
    rw [hwritten] at hstep
    have hsection : Assoc.get? key later = some written := by
      rw [hlater key List.mem_cons_self, ← Except.ok.inj hstep, Assoc.get?_insert_self]
    rw [rewriteSection, hsection, h _ _ hwritten]
    exact congrArg Except.ok (Assoc.insert_of_get? hsection)

theorem settles_extendObject (key : String) (members : Assoc Json) :
    Settles [key] (extendObject key members) := by
  rw [extendObject_eq_rewriteSection]
  refine settles_rewriteSection fun before written hwritten => ?_
  have hagain : ∀ existing : Assoc Json, Json.obj (Assoc.extend existing members) = written →
      extendedSection key members (some written) = .ok written := by
    rintro existing rfl
    rw [extendedSection, Assoc.extend_extend_self]
  cases before with
  | none => exact hagain [] (Except.ok.inj hwritten)
  | some document =>
    cases document with
    | obj existing => exact hagain existing (Except.ok.inj hwritten)
    | null | bool _ | int _ | float _ | str _ | arr _ => cases hwritten

theorem settles_insert (key : String) (document : Json) :
    Settles [key] fun request => .ok (Assoc.insert key document request) := by
  show Settles [key] (rewriteSection key fun _ => .ok document)
  exact settles_rewriteSection fun _ _ hwritten => hwritten

/-- Conditions that are found are not added. -/
theorem addMissing_of_forall {items conditions : List Json}
    (h : ∀ condition ∈ conditions, hasSame items condition = true) :
    addMissing items conditions = items := by
  induction conditions with
  | nil => rfl
  | cons condition rest ih =>
    obtain ⟨hcondition, hrest⟩ := List.forall_mem_cons.1 h
    rw [addMissing_cons, if_pos hcondition]
    exact ih hrest

/-- Conditions that equal themselves are found when they were added. -/
theorem addMissing_addMissing_self {conditions : List Json}
    (h : ∀ condition ∈ conditions, condition.sameValue condition = true) (items : List Json) :
    addMissing (addMissing items conditions) conditions = addMissing items conditions := by
  refine addMissing_of_forall fun condition hcondition => ?_
  rcases mem_or_hasSame_addMissing items condition hcondition with hmem | hsame
  · exact hasSame_eq_true_iff.2 ⟨condition, hmem, h condition hcondition⟩
  · exact hsame

theorem settles_uniteConditions {conditions : List Json}
    (h : ∀ condition ∈ conditions, condition.sameValue condition = true) :
    Settles ["filter"] (uniteConditions conditions) := by
  rw [uniteConditions_eq_rewriteSection]
  refine settles_rewriteSection fun before written hwritten => ?_
  unfold unitedSection at hwritten
  split at hwritten
  · next existing _ =>
    split at hwritten
    · next items _ =>
      rw [← Except.ok.inj hwritten]
      simp only [unitedSection, Option.getD_some, Assoc.get?_insert_self,
        addMissing_addMissing_self h, Assoc.insert_insert_self]
    · cases hwritten
  · cases hwritten

end Request

/-! ## What conditions are -/

/-- What a kind asks for can be written down: no object has a key twice, and numbers are finite.
For a kind that is supplied from outside, this is a matter of what its conditions are made of. -/
def FilterKind.WritesDocuments (kind : FilterKind) : Prop :=
  ∀ name value condition, kind.condition? name value = some condition → condition.IsDocument

theorem Term.isDocument_toJson (term : Term) : term.toJson.IsDocument := by
  cases term with
  | int value => exact .int _
  | float value => exact Json.isDocument_ofBinary64 value
  | text value => exact .str value

/-- The object of the members that are there can be written down if they can. -/
theorem Json.isDocument_ofFields {fields : List (String × Option Json)}
    (hkeys : (fields.map Prod.fst).Nodup)
    (h : ∀ field ∈ fields, ∀ document ∈ field.2, document.IsDocument) :
    (ofFields fields).IsDocument := by
  refine .obj (hkeys.sublist (keys_written_sublist fields)) fun member hmember => ?_
  obtain ⟨field, hfield, hwritten⟩ := List.mem_filterMap.1 hmember
  obtain ⟨document, hdocument, rfl⟩ := Option.map_eq_some_iff.1 hwritten
  exact h field hfield document hdocument

/-- **The kinds that are built in write documents.** -/
theorem FilterKind.writesDocuments_of_isBuiltIn {kind : FilterKind}
    (hkind : kind.isBuiltIn = true) : kind.WritesDocuments := by
  intro name value condition h
  cases kind with
  | custom other => exact absurd hkind Bool.false_ne_true
  | term options | numeric options =>
    cases value with
    | range bounds => cases h
    | term t =>
      obtain rfl := Option.some.inj h
      have hkeys : ["query", "type"].Nodup := by decide
      exact Json.isDocument_single (Json.isDocument_single (Json.isDocument_single
        (.obj hkeys (List.forall_mem_cons.2 ⟨t.isDocument_toJson,
          List.forall_mem_singleton.2 (.str _)⟩))))
  | range options =>
    cases value with
    | term t => cases h
    | range bounds =>
      obtain rfl := Option.some.inj h
      have hkeys : ["from", "to", "include_lower", "include_upper"].Nodup := by decide
      have hbound : ∀ bound : Option Binary64, ∀ document ∈ bound.map Json.ofBinary64,
          document.IsDocument := by
        intro bound document hdocument
        obtain ⟨x, -, rfl⟩ := Option.map_eq_some_iff.1 hdocument
        exact Json.isDocument_ofBinary64 x
      have hflag : ∀ flag : Bool, ∀ document ∈ some (Json.bool flag), document.IsDocument := by
        rintro flag document ⟨⟩
        exact .bool flag
      refine Json.isDocument_single (Json.isDocument_single (Json.isDocument_ofFields hkeys ?_))
      exact List.forall_mem_cons.2 ⟨hbound _, List.forall_mem_cons.2 ⟨hbound _,
        List.forall_mem_cons.2 ⟨hflag true, List.forall_mem_singleton.2 (hflag false)⟩⟩⟩

/-- So are the conditions of a filter, be it for one value or for several. -/
theorem Filter.isDocument_of_condition? {flags : Flags} {filter : Filter} {condition : Json}
    (hkind : filter.kind.WritesDocuments) (h : filter.condition? flags = some condition) :
    condition.IsDocument := by
  unfold condition? at h
  split at h
  · split at h
    · cases h
    · exact hkind _ _ _ h
    · split at h
      · cases h
      · obtain rfl := Option.some.inj h
        refine Json.isDocument_single (.arr fun item hitem => ?_)
        obtain ⟨value, -, hvalue⟩ := List.mem_filterMap.1 hitem
        exact hkind _ _ _ hvalue
  · cases h

/-! ## The passes -/

section

variable {flags : Flags} {options : RequestOptions} {search : Search}

theorem Search.settles_compileFacets :
    Request.Settles ["facets"] (search.compileFacets flags options) := by
  unfold compileFacets
  split
  · simp only [foldlM_compileFacet]
    split
    · exact Request.settles_ok _
    · exact Request.settles_extendObject _ _
  · exact Request.settles_ok _

theorem Search.settles_compileConditions
    (h : ∀ filter ∈ search.filters.items, filter.kind.WritesDocuments) :
    Request.Settles ["filter"] (search.compileConditions flags options) := by
  have hself : ∀ condition ∈ FacetedSearch.conditions flags search.filters.items,
      condition.sameValue condition = true := by
    intro condition hcondition
    obtain ⟨filter, hfilter, hsome⟩ := List.mem_filterMap.1 hcondition
    exact Json.sameValue_self (Filter.isDocument_of_condition? (h filter hfilter) hsome)
  unfold compileConditions
  split
  · split
    · exact Request.settles_ok _
    · exact Request.settles_extendObject _ _
    · exact Request.settles_insert _ _
    · exact Request.settles_uniteConditions hself
  · exact Request.settles_ok _

/-- **Every pass but that over the fields finds nothing to do where it was before.** -/
theorem Pass.settles_run (h : ∀ filter ∈ search.filters.items, filter.kind.WritesDocuments)
    {pass : Pass} (hpass : pass ≠ .fields) :
    Request.Settles pass.keys (pass.run flags options search) := by
  cases pass with
  | query => exact Request.settles_extendObject _ _
  | fields => exact absurd rfl hpass
  | facets => exact Search.settles_compileFacets
  | conditions => exact Search.settles_compileConditions h

/-- A pass finds nothing to do where all of them were, in whatever order. -/
theorem Search.run_of_runPasses
    (h : ∀ filter ∈ search.filters.items, filter.kind.WritesDocuments) {order : List Pass}
    (horder : order.Perm Pass.all) {seed request : Request}
    (hrequest : search.runPasses flags options order seed = .ok request) {pass : Pass}
    (hpass : pass ≠ .fields) : pass.run flags options search request = .ok request := by
  obtain ⟨next, hnext, hown⟩ := exists_run_of_runPasses horder hrequest pass
  exact Pass.settles_run h hpass seed next request hnext hown

end

/-- **The query, the facets and the conditions can be compiled again.**  For every search, as long
as its kinds write documents, and whatever is included: where one of these passes was not rejected,
it is not rejected on the request that it gave, and gives that request again, with the same
sections in the same order.  So a request that was compiled, onto whatever seed, is one that
compiling once more changes nothing about, if the fields are left out. -/
theorem Search.passes_repeatable (flags : Flags) (options : RequestOptions) {search : Search}
    (h : ∀ filter ∈ search.filters.items, filter.kind.WritesDocuments) :
    (∀ pass : Pass, pass ≠ .fields → ∀ request next,
        pass.run flags options search request = .ok next →
        pass.run flags options search next = .ok next) ∧
      ∀ seed request, search.compile flags options seed = .ok request →
        search.compile flags (options.without .fields) request = .ok request := by
  constructor
  · intro pass hpass request next hnext
    exact Pass.settles_run h hpass request next next hnext fun _ _ => rfl
  · intro seed request hrequest
    rw [compile_eq_runPasses] at hrequest ⊢
    refine Request.inTurn_eq_ok_self fun pass _ => ?_
    by_cases hpass : pass = .fields
    · rw [hpass]
      rfl
    · rw [Pass.run_without_of_ne hpass]
      exact Search.run_of_runPasses h (.refl _) hrequest hpass

/-- A kind that is not built in, beside one that is.  The seed has the condition of the first
already, and another one twice. -/
theorem Search.passes_repeatable_of_custom_kind :
    let marked : CustomKind :=
      { word := "marked"
        condition? := fun name _ => some (.single "marked" (.str name))
        aggregation := fun _ => .obj []
        readSection := fun _ _ => .ok ([], 0)
        label := fun _ facet => facet.id }
    let tags : Filter := { Filter.ofKind "tags" (.custom marked) with
      selected := [.term (.text "a")] }
    let year : Filter := { Filter.ofKind "year" (.numeric .default) with
      selected := [.term (.int 5)] }
    let search : Search := { Search.new with filters := ⟨[tags, year]⟩ }
    let seed : Request := [("filter", .obj [("and", .arr [.null, .null,
      .single "marked" (.str "tags")])])]
    (∀ filter ∈ search.filters.items, filter.kind.WritesDocuments) ∧
      ∃ next request, Pass.run (fun _ => true) .all search .conditions seed = .ok next ∧
        Pass.run (fun _ => true) .all search .conditions next = .ok next ∧
        search.compile (fun _ => true) .all seed = .ok request ∧
        search.compile (fun _ => true) (RequestOptions.all.without .fields) request =
          .ok request := by
  intro marked tags year search seed
  have hkinds : ∀ filter ∈ search.filters.items, filter.kind.WritesDocuments := by
    refine List.forall_mem_cons.2 ⟨?_, List.forall_mem_singleton.2 ?_⟩
    · rintro name value condition ⟨⟩
      exact Json.isDocument_single (.str name)
    · exact FilterKind.writesDocuments_of_isBuiltIn rfl
  obtain ⟨next, hnext⟩ :
      ∃ next, Pass.run (fun _ => true) .all search .conditions seed = .ok next := ⟨_, rfl⟩
  obtain ⟨request, hrequest⟩ :
      ∃ request, search.compile (fun _ => true) .all seed = .ok request := ⟨_, rfl⟩
  obtain ⟨hpasses, hcompile⟩ := Search.passes_repeatable (fun _ => true) .all hkinds
  exact ⟨hkinds, next, request, hnext, hpasses .conditions nofun seed next hnext, hrequest,
    hcompile seed request hrequest⟩

end FacetedSearch
