import FacetedSearch.Facet.Basic
import FacetedSearch.Page

/-!
# Search responses

A search response holds the hits and, under the name of each filter, a facet section.
The sections stay raw documents here, because only the filter knows which kind of
section is its own.  The two kinds of sections are defined beside the response.

## Main definitions

* `Hit`, `Hits`, `Response`: the response;
* `Response.results`: the results that the hits stand for;
* `TermsSection`, `RangeSection`: the facet sections, and the facets that they list.
-/

namespace FacetedSearch

/-! ## Hits -/

/-- A document that matched. -/
structure Hit where
  id : String
  source : Option (Assoc Json)
  fields : Option (Assoc Json)
  score : Option Binary64

namespace Hit

/-- The result that a hit stands for: its projected fields if there are any, and
otherwise its source. -/
def result (hit : Hit) : SearchResult :=
  ⟨hit.id, (hit.fields.or hit.source).getD []⟩

/-- A hit as a document. -/
def toJson (hit : Hit) : Json :=
  .obj [("_id", .str hit.id), ("_source", .ofOption .obj hit.source),
    ("fields", .ofOption .obj hit.fields), ("_score", .ofOption .ofBinary64 hit.score)]

/-- The hit in a document. -/
def ofJson? (document : Json) : Option Hit := do
  let record ← Record.ofJson? 4 document
  let id ← record.required? 0 "_id" Json.toText?
  let source ← record.optional? 1 "_source" Json.members?
  let fields ← record.optional? 2 "fields" Json.members?
  let score ← record.optional? 3 "_score" Json.toBinary64?
  return ⟨id, source, fields, score⟩

end Hit

/-- How many documents matched, and those of them that were asked for. -/
structure Hits where
  total : UInt64
  hits : List Hit

namespace Hits

/-- The hits as a document. -/
def toJson (hits : Hits) : Json :=
  .obj [("total", .ofUInt64 hits.total), ("hits", .arr (hits.hits.map Hit.toJson))]

/-- The hits in a document. -/
def ofJson? (document : Json) : Option Hits := do
  let record ← Record.ofJson? 2 document
  let total ← record.required? 0 "total" Json.toUInt64?
  let hits ← record.withDefault? 1 "hits" [] (Json.toList? Hit.ofJson?)
  return ⟨total, hits⟩

end Hits

/-! ## The response -/

/-- A decoded response; the facet sections are still raw. -/
structure Response where
  hits : Hits
  facets : Assoc Json
  timedOut : Bool
  took : Option UInt64

namespace Response

/-- The raw section of a filter. -/
def section? (response : Response) (name : String) : Option Json :=
  response.facets.get? name

/-- The results of a response; when the total is zero its hits are not looked at. -/
def results (response : Response) : List SearchResult :=
  if response.hits.total = 0 then [] else response.hits.hits.map Hit.result

/-- A response as a document. -/
def toJson (response : Response) : Json :=
  .obj [("hits", response.hits.toJson), ("facets", .obj response.facets),
    ("timed_out", .bool response.timedOut), ("took", .ofOption .ofUInt64 response.took)]

/-- The response in a document. -/
def ofJson? (document : Json) : Option Response := do
  let record ← Record.ofJson? 4 document
  let hits ← record.required? 0 "hits" Hits.ofJson?
  let facets ← record.withDefault? 1 "facets" [] Json.members?
  let timedOut ← record.withDefault? 2 "timed_out" false Json.toBool?
  let took ← record.optional? 3 "took" Json.toUInt64?
  return ⟨hits, facets, timedOut, took⟩

end Response

/-! ## Facet sections -/

/-- A term and the number of results that carry it. -/
structure TermEntry where
  term : Term
  count : UInt64

namespace TermEntry

/-- The facet of an entry. -/
def facet (entry : TermEntry) : Facet := ⟨.term entry.term, entry.count⟩

/-- An entry as a document. -/
def toJson (entry : TermEntry) : Json :=
  .obj [("term", entry.term.toJson), ("count", .ofUInt64 entry.count)]

/-- The entry in a document. -/
def ofJson? (document : Json) : Option TermEntry := do
  let record ← Record.ofJson? 2 document
  let term ← record.required? 0 "term" Term.ofJson?
  let count ← record.required? 1 "count" Json.toUInt64?
  return ⟨term, count⟩

end TermEntry

/-- The section of a terms facet: the listed terms, how many further terms there are,
how many results carry none, and how many carry one. -/
structure TermsSection where
  terms : List TermEntry
  other : UInt64
  missing : UInt64
  total : UInt64

namespace TermsSection

/-- The listed facets. -/
def facets (entries : TermsSection) : List Facet := entries.terms.map TermEntry.facet

/-- How many facets there are, listed or not, if the sum fits into 64 bits. -/
def facetCount? (entries : TermsSection) : Option UInt64 :=
  let count := entries.terms.length + entries.other.toNat
  if count < UInt64.size then some (UInt64.ofNat count) else none

/-- A section as a document. -/
def toJson (entries : TermsSection) : Json :=
  .obj [("terms", .arr (entries.terms.map TermEntry.toJson)), ("other", .ofUInt64 entries.other),
    ("missing", .ofUInt64 entries.missing), ("total", .ofUInt64 entries.total)]

/-- The section in a document. -/
def ofJson? (document : Json) : Option TermsSection := do
  let record ← Record.ofJson? 4 document
  let terms ← record.required? 0 "terms" (Json.toList? TermEntry.ofJson?)
  let other ← record.withDefault? 1 "other" 0 Json.toUInt64?
  let missing ← record.withDefault? 2 "missing" 0 Json.toUInt64?
  let total ← record.withDefault? 3 "total" 0 Json.toUInt64?
  return ⟨terms, other, missing, total⟩

end TermsSection

/-- An interval and the number of results in it. -/
structure RangeEntry where
  bounds : Bounds
  count : UInt64

namespace RangeEntry

/-- The facet of an entry. -/
def facet (entry : RangeEntry) : Facet := ⟨.range entry.bounds, entry.count⟩

/-- An entry as a document; absent bounds are written as `null`. -/
def toJson (entry : RangeEntry) : Json :=
  .obj [("from", .ofOption .ofBinary64 entry.bounds.lower),
    ("to", .ofOption .ofBinary64 entry.bounds.upper), ("count", .ofUInt64 entry.count)]

/-- The entry in a document. -/
def ofJson? (document : Json) : Option RangeEntry := do
  let record ← Record.ofJson? 3 document
  let lower ← record.optional? 0 "from" Json.toBinary64?
  let upper ← record.optional? 1 "to" Json.toBinary64?
  let count ← record.required? 2 "count" Json.toUInt64?
  return ⟨⟨lower, upper⟩, count⟩

end RangeEntry

/-- The section of a range facet. -/
structure RangeSection where
  ranges : List RangeEntry

namespace RangeSection

/-- The listed facets. -/
def facets (entries : RangeSection) : List Facet := entries.ranges.map RangeEntry.facet

/-- A section as a document. -/
def toJson (entries : RangeSection) : Json :=
  .obj [("ranges", .arr (entries.ranges.map RangeEntry.toJson))]

/-- The section in a document. -/
def ofJson? (document : Json) : Option RangeSection := do
  let record ← Record.ofJson? 1 document
  let ranges ← record.required? 0 "ranges" (Json.toList? RangeEntry.ofJson?)
  return ⟨ranges⟩

end RangeSection

end FacetedSearch
