import FacetedSearch.Proofs.Definition.Spelling
import FacetedSearch.Proofs.Facet.Document

/-!
# Definitions are read as they were written

What a definition leaves out is read as its default, and a default need not be the absent value.
So a definition survives being written and read only because nothing that matters is left out: an
option that is not set is written as `null`, and members are left out only where absence is their
default.  The definition of a filter shares one object with the options of its kind.  No key of
the one is a key of the other, so neither overwrites the other, and the member that names the
kind is read first.

A definition is a document, and the document has a text.  The text is read back as the document
where the bounds of the configured intervals are read back from their numerals.

* `FieldDefinition.ofJson?_toJson`, `RequestOptions.ofJson?_toJson`: fields and options;
* `TermsOptions.ofJsonWith?_obj`, `RangeOptions.ofJson?_obj`: the options of a kind, among other
  members;
* `KindDefinition.IsWritable`, `FilterDefinition.ofJson?_toJson`: filters;
* `SearchDefinition.reads_back`: the whole definition.
-/

namespace FacetedSearch

/-- A text is read as it was written, and is not written as `null`. -/
theorem Json.toText?_str (s : String) : toText? (.str s) = some s ∧ Json.str s ≠ .null :=
  ⟨rfl, Json.noConfusion⟩

/-! ## Fields and request options -/

theorem Direction.ofJson?_toJson (direction : Direction) :
    Direction.ofJson? direction.toJson = some direction ∧ direction.toJson ≠ .null :=
  ⟨ofWord?_word direction, Json.noConfusion⟩

theorem FieldDefinition.ofJson?_toJson (definition : FieldDefinition) :
    FieldDefinition.ofJson? definition.toJson = some definition := by
  have hkeys : ["fieldname", "title", "script_field", "order_by", "enabled", "display"].Nodup := by
    decide
  have hfound := Json.get?_written (show ([("fieldname", some (Json.str definition.name)),
    ("title", definition.title.map .str), ("script_field", definition.script.map .str),
    ("order_by", definition.orderBy.map Direction.toJson),
    ("enabled", some (.bool definition.enabled)),
    ("display", some (.bool definition.display))].map Prod.fst).Nodup from hkeys)
  simp only [List.forall_mem_cons] at hfound
  obtain ⟨hname, htitle, hscript, horder, henabled, hdisplay, -⟩ := hfound
  show FieldDefinition.ofJson? (.obj (Json.written _)) = some definition
  simp only [FieldDefinition.ofJson?, Record.ofJson?, bind, Option.bind, pure,
    Record.required?_byKey _ hname, Record.withDefault?_byKey _ _ henabled,
    Record.withDefault?_byKey _ _ hdisplay,
    Record.optional?_byKey_map htitle fun s _ => Json.toText?_str s,
    Record.optional?_byKey_map hscript fun s _ => Json.toText?_str s,
    Record.optional?_byKey_map horder fun direction _ => direction.ofJson?_toJson,
    Json.toText?, Json.toBool?]

theorem RequestOptions.ofJson?_toJson (options : RequestOptions) :
    RequestOptions.ofJson? options.toJson = some options := rfl

/-! ## Options of a kind -/

theorem TermOrder.ofJson?_toJson (order : TermOrder) :
    TermOrder.ofJson? order.toJson = some order := ofWord?_word order

/-- The options are read off an object that has their members, whatever others it has.  What is
not set is `null` there, and is not set again. -/
theorem TermsOptions.ofJsonWith?_obj {readOrder : Json → Option TermOrder}
    (horder : ∀ order : TermOrder, readOrder order.toJson = some order) {options : TermsOptions}
    {members : Assoc Json}
    (h : ∀ member ∈ options.members, Assoc.get? member.1 members = some member.2) :
    ofJsonWith? readOrder (.obj members) = some options := by
  simp only [TermsOptions.members, List.forall_mem_cons] at h
  obtain ⟨hscriptField, hfields, hsize, hallTerms, hordered, hscript, -⟩ := h
  have htexts : ∀ texts : List String,
      Json.toList? Json.toText? (.arr (texts.map .str)) = some texts :=
    fun _ => Json.toList?_arr_map fun _ _ => rfl
  simp only [ofJsonWith?, Record.ofJson?, bind, Option.bind, pure,
    Record.optional?_byKey _ hscriptField, Record.optional?_byKey _ hfields,
    Record.withDefault?_byKey _ _ hsize, Record.withDefault?_byKey _ _ hallTerms,
    Record.withDefault?_byKey _ _ hordered, Record.optional?_byKey _ hscript,
    Json.toOption?_ofOption fun s _ => Json.toText?_str s,
    Json.toOption?_ofOption fun texts _ => ⟨htexts texts, Json.noConfusion⟩,
    Json.toOption?_ofOption fun n _ => ⟨Json.toUInt32?_natCast n, Json.noConfusion⟩,
    Json.toOption?_ofOption fun b _ => ⟨(rfl : Json.toBool? (.bool b) = some b), Json.noConfusion⟩,
    Json.toOption?_ofOption fun order _ => ⟨horder order, Json.noConfusion⟩]

theorem Bucket.ofJson?_toJson {bucket : Bucket} (h : bucket.bounds.IsWritable) :
    Bucket.ofJson? bucket.toJson = some bucket := by
  have hkeys : ["from", "to", "display_from", "display_to"].Nodup := by decide
  have hfound := Json.get?_written (show ([("from", bucket.bounds.lower.map Json.ofBinary64),
    ("to", bucket.bounds.upper.map .ofBinary64), ("display_from", bucket.displayLower.map .str),
    ("display_to", bucket.displayUpper.map .str)].map Prod.fst).Nodup from hkeys)
  simp only [List.forall_mem_cons] at hfound
  obtain ⟨hlower, hupper, hdisplayLower, hdisplayUpper, -⟩ := hfound
  show Bucket.ofJson? (.obj (Json.written _)) = some bucket
  simp only [Bucket.ofJson?, Record.ofJson?, bind, Option.bind, pure,
    Record.optional?_byKey_map hlower fun x hx => Json.toBinary64?_ofBinary64 (h.lower x hx),
    Record.optional?_byKey_map hupper fun x hx => Json.toBinary64?_ofBinary64 (h.upper x hx),
    Record.optional?_byKey_map hdisplayLower fun s _ => Json.toText?_str s,
    Record.optional?_byKey_map hdisplayUpper fun s _ => Json.toText?_str s]

theorem RangeOptions.ofJson?_obj {options : RangeOptions}
    (hwritable : ∀ bucket ∈ options.ranges, bucket.bounds.IsWritable) {members : Assoc Json}
    (h : ∀ member ∈ options.members, Assoc.get? member.1 members = some member.2) :
    RangeOptions.ofJson? (.obj members) = some options := by
  simp only [RangeOptions.members, List.forall_mem_cons] at h
  obtain ⟨hkeyField, hvalueField, hkeyScript, hvalueScript, hranges, -⟩ := h
  have hbuckets : Json.toList? Bucket.ofJson? (.arr (options.ranges.map Bucket.toJson)) =
      some options.ranges :=
    Json.toList?_arr_map fun bucket hbucket => Bucket.ofJson?_toJson (hwritable bucket hbucket)
  simp only [RangeOptions.ofJson?, Record.ofJson?, bind, Option.bind, pure,
    Record.optional?_byKey _ hkeyField, Record.optional?_byKey _ hvalueField,
    Record.optional?_byKey _ hkeyScript, Record.optional?_byKey _ hvalueScript,
    Record.withDefault?_byKey _ _ hranges, hbuckets,
    Json.toOption?_ofOption fun s _ => Json.toText?_str s]

/-! ## Filters -/

namespace KindDefinition

/-- The bounds of the configured intervals can be written down. -/
def IsWritable : KindDefinition → Prop
  | .range options => ∀ bucket ∈ options.ranges, bucket.bounds.IsWritable
  | .term _ | .numeric _ => True

/-- The plain spelling of an order is read among the members of a definition too. -/
theorem orderOfJson?_toJson (order : TermOrder) : orderOfJson? order.toJson = some order :=
  order.ofJson?_toJson

/-- The kind is read off an object that has its members, whatever others it has. -/
theorem ofMembers?_of_get? {kind : KindDefinition} (hwritable : kind.IsWritable)
    {members : Assoc Json}
    (h : ∀ member ∈ kind.members, Assoc.get? member.1 members = some member.2) :
    ofMembers? members = some kind := by
  cases kind with
  | term options =>
    obtain ⟨htype, hoptions⟩ := List.forall_mem_cons.1 h
    simp only [ofMembers?, htype, TermsOptions.ofJsonWith?_obj orderOfJson?_toJson hoptions,
      Option.map_some]
  | numeric options =>
    obtain ⟨htype, hoptions⟩ := List.forall_mem_cons.1 h
    simp only [ofMembers?, htype, TermsOptions.ofJsonWith?_obj orderOfJson?_toJson hoptions,
      Option.map_some]
  | range options =>
    obtain ⟨htype, hoptions⟩ := List.forall_mem_cons.1 h
    simp only [ofMembers?, htype, RangeOptions.ofJson?_obj hwritable hoptions, Option.map_some]

end KindDefinition

theorem Combination.ofJson?_toJson (combination : Combination) :
    Combination.ofJson? combination.toJson = some combination := ofWord?_word combination

namespace FilterDefinition

theorem ofJson?_toJson {definition : FilterDefinition} (h : definition.kind.IsWritable) :
    FilterDefinition.ofJson? definition.toJson = some definition := by
  have hfound := Json.get?_written definition.nodup_keys_fields
  show FilterDefinition.ofJson? (.obj (Json.written definition.fields)) = some definition
  generalize Json.written definition.fields = members at hfound ⊢
  rw [fields, List.forall_mem_append] at hfound
  obtain ⟨hown, hkind⟩ := hfound
  have hmembers : KindDefinition.ofMembers? members = some definition.kind :=
    KindDefinition.ofMembers?_of_get? h fun member hmember =>
      hkind (member.1, some member.2) (List.mem_map_of_mem hmember)
  simp only [ownMembers, List.forall_mem_cons] at hown
  obtain ⟨hname, hlabel, henabled, hmultiple, hcombination, hlead, htrail, hexpandable,
    hcollapsible, -⟩ := hown
  simp only [FilterDefinition.ofJson?, Json.members?_obj, bind, Option.bind, pure,
    Record.required?_byKey _ hname, Record.withDefault?_byKey _ _ henabled,
    Record.withDefault?_byKey _ _ hmultiple, Record.withDefault?_byKey _ _ hcombination,
    Record.withDefault?_byKey _ _ hlead, Record.withDefault?_byKey _ _ htrail,
    Record.withDefault?_byKey _ _ hexpandable, Record.withDefault?_byKey _ _ hcollapsible,
    Record.optional?_byKey_map hlabel fun s _ => Json.toText?_str s, hmembers,
    Combination.ofJson?_toJson, Json.toText?, Json.toBool?]

end FilterDefinition

/-! ## The whole definition -/

namespace SearchDefinition

/-- The bounds of the configured intervals can be written down. -/
def IsWritable (definition : SearchDefinition) : Prop :=
  ∀ filter ∈ definition.filters, filter.kind.IsWritable

/-- A definition is read off the four members of an object. -/
theorem ofJson?_obj {definition : SearchDefinition} (h : definition.IsWritable)
    {members : Assoc Json}
    (hlength : Assoc.get? "page_length" members = some (.ofUInt64 definition.pageLength))
    (hoptions : Assoc.get? "compiler" members = some definition.options.toJson)
    (hfields : Assoc.get? "fields" members =
      some (.arr (definition.fields.map FieldDefinition.toJson)))
    (hfilters : Assoc.get? "filters" members =
      some (.arr (definition.filters.map FilterDefinition.toJson))) :
    SearchDefinition.ofJson? (.obj members) = some definition := by
  simp only [SearchDefinition.ofJson?, Record.ofJson?, bind, Option.bind, pure,
    Record.withDefault?_byKey _ _ hlength, Record.withDefault?_byKey _ _ hoptions,
    Record.withDefault?_byKey _ _ hfields, Record.withDefault?_byKey _ _ hfilters,
    Json.toUInt64?_ofUInt64, RequestOptions.ofJson?_toJson,
    Json.toList?_arr_map fun field _ => FieldDefinition.ofJson?_toJson field,
    Json.toList?_arr_map fun filter hfilter => FilterDefinition.ofJson?_toJson (h filter hfilter)]

/-- **A definition is read as it was written**, if the bounds of its intervals have a spelling.
So what is read sets up the same search, or is refused in the same way, and every text of the
document is a text of the definition.  The text that the document is written as is one, if the
bounds are read back from their numerals. -/
theorem reads_back {definition : SearchDefinition} (h : definition.IsWritable) :
    SearchDefinition.ofJson? definition.toJson = some definition ∧
      (SearchDefinition.ofJson? definition.toJson).map Search.ofDefinition =
        some (Search.ofDefinition definition) ∧
      (∀ text, Json.read? Json.nestingLimit text = some definition.toJson →
        ofText text = .ok definition) ∧
      (definition.IsSpelled → ofText definition.toJson.text = .ok definition) := by
  have hread : SearchDefinition.ofJson? definition.toJson = some definition :=
    ofJson?_obj h rfl rfl rfl rfl
  have htexts : ∀ text, Json.read? Json.nestingLimit text = some definition.toJson →
      ofText text = .ok definition := by
    intro text htext
    obtain ⟨members, hmembers⟩ : ∃ members, definition.toJson = .obj members := ⟨_, rfl⟩
    rw [hmembers] at hread htext
    unfold ofText
    simp only [htext, hread]
  refine ⟨hread, ?_, htexts, fun hspelled => htexts _ (Json.read?_text (spelled_toJson hspelled))⟩
  rw [hread]
  rfl

/-- Terms of which nothing is said, integers with all that holds by default, and an interval with
one open end. -/
theorem reads_back_of_three_kinds :
    let year : FieldDefinition := ⟨"year", some "Year", none, some .desc, true, false⟩
    let one : Binary64 := .finite false ⟨1023 * blockRanks, by decide⟩
    let above : Bucket := ⟨⟨some one, none⟩, some "several", none⟩
    let kinds : List KindDefinition :=
      [.term .bare, .numeric .default, .range ⟨none, none, some "a", some "b", [above]⟩]
    let definition : SearchDefinition := { SearchDefinition.default with
      fields := [year]
      filters := kinds.map fun kind => ⟨"f", none, true, false, .all, "<", ">", true, true, kind⟩ }
    definition.IsWritable ∧
      (SearchDefinition.ofJson? definition.toJson).map
        (fun read => read.filters.map FilterDefinition.kind) = some kinds ∧
      definition.IsSpelled ∧ ofText definition.toJson.text = .ok definition := by
  intro year one above kinds definition
  have hbounds : above.bounds.IsWritable :=
    ⟨fun x hx => by rw [← Option.some.inj hx]; rfl, fun _ hnone => nomatch hnone⟩
  have hwritable : definition.IsWritable :=
    List.forall_mem_cons.2 ⟨trivial, List.forall_mem_cons.2 ⟨trivial,
      List.forall_mem_singleton.2 (List.forall_mem_singleton.2 hbounds)⟩⟩
  have hone : Json.ofNumeral? (Json.floatChars one) = some (.float one) := by
    have hchars : Json.floatChars one = ['1', '.', '0'] := by decide +kernel
    rw [hchars, Json.ofNumeral?_one]
  have hspelled : definition.IsSpelled := by
    refine List.forall_mem_cons.2 ⟨trivial, List.forall_mem_cons.2 ⟨trivial,
      List.forall_mem_singleton.2 (List.forall_mem_singleton.2
        ⟨fun x hx => ?_, fun _ hnone => ?_⟩)⟩⟩
    · rw [← Option.some.inj hx, hone]
    · cases hnone
  obtain ⟨hread, -, -, htext⟩ := reads_back hwritable
  refine ⟨hwritable, ?_, hspelled, htext hspelled⟩
  rw [hread]
  rfl

end SearchDefinition

end FacetedSearch
