import FacetedSearch.Json.Record

/-!
# Pages and results

A result list is fetched page by page.  A `Window` says which part of the list is wanted,
and travels as two members of the search request.  A `SearchResult` is
one document of the list: its id and its data.

## Main definitions

* `Request`: a request document under construction;
* `Window`, `Window.request`: a window, and the request that asks for it;
* `SearchResult`: a document of the result list;
* `defaultPageLength`: how many results a page has unless it is said otherwise.
-/

namespace FacetedSearch

/-- A request document: its members in order. -/
abbrev Request := Assoc Json

/-- How many results a page has unless it is said otherwise. -/
def defaultPageLength : UInt64 := 50

/-- A window into the result list: the index of its first result and its length. -/
structure Window where
  start : UInt64
  size : UInt64
  deriving DecidableEq

namespace Window

/-- The request that asks for a window and nothing else. -/
def request (window : Window) : Request :=
  [("from", .ofUInt64 window.start), ("size", .ofUInt64 window.size)]

/-- A window as a document. -/
def toJson (window : Window) : Json := .obj window.request

/-- The window in a document. -/
def ofJson? (document : Json) : Option Window := do
  let record ← Record.ofJson? 2 document
  let start ← record.required? 0 "from" Json.toUInt64?
  let size ← record.required? 1 "size" Json.toUInt64?
  return ⟨start, size⟩

end Window

/-- A document of the result list. -/
structure SearchResult where
  id : String
  data : Assoc Json

namespace SearchResult

/-- The value of one key of the data. -/
def get? (result : SearchResult) (key : String) : Option Json := result.data.get? key

/-- A result as a document. -/
def toJson (result : SearchResult) : Json :=
  .obj [("id", .str result.id), ("data", .obj result.data)]

/-- The result in a document. -/
def ofJson? (document : Json) : Option SearchResult := do
  let record ← Record.ofJson? 2 document
  let id ← record.required? 0 "id" Json.toText?
  let data ← record.required? 1 "data" Json.members?
  return ⟨id, data⟩

end SearchResult

end FacetedSearch
