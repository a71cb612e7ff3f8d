import FacetedSearch.Error
import FacetedSearch.Json.Writer

/-!
# Queries

What is searched for: nothing in particular, a text, a list of texts, or a condition in
the language of the index that is passed on as it is.

## Main definitions

* `Query`, `Query.isEmpty`: queries, and which of them match everything;
* `Query.ofJson`: the query in a document;
* `Query.sameValue`: whether two queries search for the same.
-/

namespace FacetedSearch

/-- What is searched for. -/
inductive Query where
  | empty
  | text (wanted : String)
  | terms (wanted : List String)
  /-- A condition in the language of the index. -/
  | structured (members : Assoc Json)

namespace Query

/-- Whether the query matches everything. -/
def isEmpty : Query → Bool
  | .empty => true
  | .text wanted => wanted == ""
  | .terms wanted => wanted.isEmpty
  | .structured _ => false

/-- One text of a list. -/
def textOf : Json → Except SearchError String
  | .str wanted => .ok wanted
  | other => .error (.unparseableQuery ("non-text term " ++ other.text))

/-- The query in a document: of a list, the first item that is no text is named. -/
def ofJson : Json → Except SearchError Query
  | .null => .ok .empty
  | .str wanted => .ok (.text wanted)
  | .arr items => (items.mapM textOf).map .terms
  | .obj members => .ok (.structured members)
  | other => .error (.unparseableQuery other.text)

/-- Whether two queries are of one form and search for the same. -/
def sameValue : Query → Query → Bool
  | .empty, .empty => true
  | .text a, .text b => a == b
  | .terms as, .terms bs => as == bs
  | .structured as, .structured bs => (Json.obj as).sameValue (.obj bs)
  | _, _ => false

end Query

end FacetedSearch
