import FacetedSearch.Proofs.Facet.Document
import FacetedSearch.Response

/-!
# Responses are read as they were written

Reading gives back what was written, provided that the doubles in it have a spelling: the scores
of the hits, the terms and the bounds.

* `Hit.ofJson?_toJson`, `Hits.ofJson?_toJson`, `Response.ofJson?_toJson`: responses;
* `TermsSection.ofJson?_toJson`, `RangeSection.ofJson?_toJson`: the sections of facets;
* `data_reads_back`: all that a client keeps of an index.
-/

namespace FacetedSearch

/-- The score of a hit can be written down. -/
def Hit.IsWritable (hit : Hit) : Prop := ∀ x, hit.score = some x → x.isFinite = true

theorem Hit.ofJson?_toJson {hit : Hit} (h : hit.IsWritable) :
    Hit.ofJson? hit.toJson = some hit := by
  have hmembers : ∀ value : Option (Assoc Json),
      Json.toOption? Json.members? (Json.ofOption Json.obj value) = some value :=
    fun value => Json.toOption?_ofOption fun members _ => ⟨rfl, Json.noConfusion⟩
  have hscore : Json.toOption? Json.toBinary64? (Json.ofOption Json.ofBinary64 hit.score) =
      some hit.score := by
    refine Json.toOption?_ofOption fun x hx => ?_
    rw [Json.ofBinary64, if_pos (h x hx)]
    exact ⟨rfl, Json.noConfusion⟩
  simp only [Hit.ofJson?, Hit.toJson, Record.ofJson?, bind, Option.bind, pure]
  rw [Record.required?_byKey Json.toText? rfl, Record.optional?_byKey Json.members? rfl,
    Record.optional?_byKey Json.members? rfl, Record.optional?_byKey Json.toBinary64? rfl]
  simp only [hmembers, hscore]
  rfl

/-- Hits are read off the two members of an object. -/
theorem Hits.ofJson?_obj {members : Assoc Json} {total : UInt64} {document : Json}
    {hits : List Hit} (htotal : Assoc.get? "total" members = some (.ofUInt64 total))
    (hhits : Assoc.get? "hits" members = some document)
    (hread : Json.toList? Hit.ofJson? document = some hits) :
    Hits.ofJson? (.obj members) = some ⟨total, hits⟩ := by
  simp only [Hits.ofJson?, Record.ofJson?, bind, Option.bind, pure,
    Record.required?_byKey _ htotal, Record.withDefault?_byKey _ _ hhits,
    Json.toUInt64?_ofUInt64, hread]

theorem Hits.ofJson?_toJson {hits : Hits} (h : ∀ hit ∈ hits.hits, hit.IsWritable) :
    Hits.ofJson? hits.toJson = some hits :=
  Hits.ofJson?_obj rfl rfl
    (Json.toList?_arr_map fun hit hhit => Hit.ofJson?_toJson (h hit hhit))

/-- A response is read off the four members of an object. -/
theorem Response.ofJson?_obj {members : Assoc Json} {written : Json} {response : Response}
    (hhits : Assoc.get? "hits" members = some written)
    (hread : Hits.ofJson? written = some response.hits)
    (hfacets : Assoc.get? "facets" members = some (.obj response.facets))
    (htimed : Assoc.get? "timed_out" members = some (.bool response.timedOut))
    (htook : Assoc.get? "took" members = some (.ofOption .ofUInt64 response.took)) :
    Response.ofJson? (.obj members) = some response := by
  have hcount : Json.toOption? Json.toUInt64? (Json.ofOption Json.ofUInt64 response.took) =
      some response.took :=
    Json.toOption?_ofOption fun n _ => ⟨Json.toUInt64?_ofUInt64 n, Json.noConfusion⟩
  simp only [Response.ofJson?, Record.ofJson?, bind, Option.bind, pure,
    Record.required?_byKey _ hhits, Record.withDefault?_byKey _ _ hfacets,
    Record.withDefault?_byKey _ _ htimed, Record.optional?_byKey _ htook, hread, hcount,
    Json.members?_obj, Json.toBool?]

theorem Response.ofJson?_toJson {response : Response}
    (h : ∀ hit ∈ response.hits.hits, hit.IsWritable) :
    Response.ofJson? response.toJson = some response :=
  Response.ofJson?_obj rfl (Hits.ofJson?_toJson h) rfl rfl rfl

/-! ## Facet sections -/

theorem TermEntry.ofJson?_obj {entry : TermEntry} {members : Assoc Json}
    (h : entry.term.IsWritable) (hterm : Assoc.get? "term" members = some entry.term.toJson)
    (hcount : Assoc.get? "count" members = some (.ofUInt64 entry.count)) :
    TermEntry.ofJson? (.obj members) = some entry := by
  simp only [TermEntry.ofJson?, Record.ofJson?, bind, Option.bind, pure,
    Record.required?_byKey _ hterm, Record.required?_byKey _ hcount, Term.ofJson?_toJson h,
    Json.toUInt64?_ofUInt64]

theorem TermsSection.ofJson?_obj {entries : TermsSection} {members : Assoc Json} {listed : Json}
    (hterms : Assoc.get? "terms" members = some listed)
    (hread : Json.toList? TermEntry.ofJson? listed = some entries.terms)
    (hother : Assoc.get? "other" members = some (.ofUInt64 entries.other))
    (hmissing : Assoc.get? "missing" members = some (.ofUInt64 entries.missing))
    (htotal : Assoc.get? "total" members = some (.ofUInt64 entries.total)) :
    TermsSection.ofJson? (.obj members) = some entries := by
  simp only [TermsSection.ofJson?, Record.ofJson?, bind, Option.bind, pure,
    Record.required?_byKey _ hterms, hread, Record.withDefault?_byKey _ _ hother,
    Record.withDefault?_byKey _ _ hmissing, Record.withDefault?_byKey _ _ htotal,
    Json.toUInt64?_ofUInt64]

theorem TermsSection.ofJson?_toJson {entries : TermsSection}
    (h : ∀ entry ∈ entries.terms, entry.term.IsWritable) :
    TermsSection.ofJson? entries.toJson = some entries :=
  TermsSection.ofJson?_obj rfl
    (Json.toList?_arr_map fun entry hentry => TermEntry.ofJson?_obj (h entry hentry) rfl rfl)
    rfl rfl rfl

/-- Bounds that are absent are written as `null` here. -/
theorem RangeEntry.ofJson?_obj {entry : RangeEntry} {members : Assoc Json}
    (h : entry.bounds.IsWritable)
    (hlower : Assoc.get? "from" members = some (.ofOption .ofBinary64 entry.bounds.lower))
    (hupper : Assoc.get? "to" members = some (.ofOption .ofBinary64 entry.bounds.upper))
    (hcount : Assoc.get? "count" members = some (.ofUInt64 entry.count)) :
    RangeEntry.ofJson? (.obj members) = some entry := by
  simp only [RangeEntry.ofJson?, Record.ofJson?, bind, Option.bind, pure,
    Record.optional?_byKey _ hlower, Record.optional?_byKey _ hupper,
    Record.required?_byKey _ hcount, Json.toUInt64?_ofUInt64,
    Json.toOption?_ofOption fun x hx => Json.toBinary64?_ofBinary64 (h.lower x hx),
    Json.toOption?_ofOption fun x hx => Json.toBinary64?_ofBinary64 (h.upper x hx)]

theorem RangeSection.ofJson?_obj {entries : RangeSection} {members : Assoc Json} {listed : Json}
    (hranges : Assoc.get? "ranges" members = some listed)
    (hread : Json.toList? RangeEntry.ofJson? listed = some entries.ranges) :
    RangeSection.ofJson? (.obj members) = some entries := by
  simp only [RangeSection.ofJson?, Record.ofJson?, bind, Option.bind, pure,
    Record.required?_byKey _ hranges, hread]

theorem RangeSection.ofJson?_toJson {entries : RangeSection}
    (h : ∀ entry ∈ entries.ranges, entry.bounds.IsWritable) :
    RangeSection.ofJson? entries.toJson = some entries :=
  RangeSection.ofJson?_obj rfl
    (Json.toList?_arr_map fun entry hentry => RangeEntry.ofJson?_obj (h entry hentry) rfl rfl rfl)

/-! ## All of them -/

/-- **What a client keeps of an index is read as it was written**: selected values, facets,
responses and the sections of facets, if the doubles in them have a spelling. -/
theorem data_reads_back :
    (∀ value : FacetValue, value.IsWritable → FacetValue.ofJson? value.toJson = some value) ∧
      (∀ facet : Facet, facet.key.IsWritable → Facet.ofJson? facet.toJson = some facet) ∧
      (∀ response : Response, (∀ hit ∈ response.hits.hits, hit.IsWritable) →
        Response.ofJson? response.toJson = some response) ∧
      (∀ entries : TermsSection, (∀ entry ∈ entries.terms, entry.term.IsWritable) →
        TermsSection.ofJson? entries.toJson = some entries) ∧
      ∀ entries : RangeSection, (∀ entry ∈ entries.ranges, entry.bounds.IsWritable) →
        RangeSection.ofJson? entries.toJson = some entries :=
  ⟨fun _ => FacetValue.ofJson?_toJson, fun _ => Facet.ofJson?_toJson,
    fun _ => Response.ofJson?_toJson, fun _ => TermsSection.ofJson?_toJson,
    fun _ => RangeSection.ofJson?_toJson⟩

/-- One as an integer, as a double and as a text, an interval without bounds, and a hit without
sections. -/
theorem data_reads_back_of_ones :
    let one : Binary64 := .finite false ⟨1023 * blockRanks, by decide⟩
    let terms : List Term := [.int 1, .float one, .text "1"]
    let hit : Hit := ⟨"a", none, none, some one⟩
    let listed : TermsSection := ⟨terms.map fun term => ⟨term, 2⟩, 0, 0, 6⟩
    let counted : RangeSection := ⟨[⟨⟨none, none⟩, 3⟩, ⟨⟨some one, none⟩, 1⟩]⟩
    (∀ term ∈ terms, FacetValue.ofJson? (FacetValue.term term).toJson = some (.term term)) ∧
      Facet.ofJson? (Facet.toJson ⟨.range ⟨none, none⟩, 3⟩) = some ⟨.range ⟨none, none⟩, 3⟩ ∧
      Response.ofJson? (Response.toJson ⟨⟨1, [hit]⟩, [], false, none⟩) =
        some ⟨⟨1, [hit]⟩, [], false, none⟩ ∧
      TermsSection.ofJson? listed.toJson = some listed ∧
      RangeSection.ofJson? counted.toJson = some counted := by
  intro one terms hit listed counted
  obtain ⟨hvalue, hfacet, hresponse, hterms, hranges⟩ := data_reads_back
  have hone : ∀ x, some one = some x → x.isFinite = true := by
    rintro x ⟨⟩
    rfl
  have hnone : ∀ x, (none : Option Binary64) = some x → x.isFinite = true :=
    fun _ hx => nomatch hx
  have hwritable : ∀ term ∈ terms, term.IsWritable :=
    List.forall_mem_cons.2 ⟨trivial, List.forall_mem_cons.2 ⟨rfl,
      List.forall_mem_singleton.2 trivial⟩⟩
  refine ⟨fun term hterm => hvalue (.term term) (hwritable term hterm),
    hfacet ⟨.range ⟨none, none⟩, 3⟩ ⟨hnone, hnone⟩,
    hresponse ⟨⟨1, [hit]⟩, [], false, none⟩ (List.forall_mem_singleton.2 hone),
    hterms listed fun entry hentry => ?_, hranges counted ?_⟩
  · obtain ⟨term, hterm, rfl⟩ := List.mem_map.1 hentry
    exact hwritable term hterm
  · exact List.forall_mem_cons.2 ⟨⟨hnone, hnone⟩, List.forall_mem_singleton.2 ⟨hone, hnone⟩⟩

end FacetedSearch
