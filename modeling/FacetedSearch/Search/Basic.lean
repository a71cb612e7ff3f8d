import FacetedSearch.Event
import FacetedSearch.Filter.Basic
import FacetedSearch.Request.Options

/-!
# The state of a search

A `Search` is everything that one search is about: what is searched for, the fields and
filters, the results that are held and how many there are in all.  An operation answers,
leaves a search behind and tells what changed; `Reply` holds the three together.

## Main definitions

* `Search`, `Search.new`: the state, and the one to start from;
* `Reply`: what an operation gives back;
* `Search.resizePages`, `Search.withOptions`, `Search.ask`: plain settings;
* `Search.pagesHeld`, `Search.hasMorePages`, `Search.nextWindow`: paging.
-/

namespace FacetedSearch

/-- The state of a search. -/
structure Search where
  query : Query
  fields : Catalog Field
  filters : Catalog Filter
  results : List SearchResult
  pageLength : UInt64
  totalResults : UInt64
  /-- Whether a request is under way. -/
  loading : Bool
  options : RequestOptions

/-- What an operation gives back: its answer, the search it leaves behind, and what
changed, as listeners hear it. -/
structure Reply (α : Type) where
  answer : Except SearchError α
  search : Search
  events : List Event

namespace Reply

variable {α : Type}

/-- Refuses: the search stays and nothing is announced. -/
def refuse (search : Search) (error : SearchError) : Reply α := ⟨.error error, search, []⟩

/-- Answers and announces nothing. -/
def quiet (search : Search) (answer : α) : Reply α := ⟨.ok answer, search, []⟩

/-- Leaves a changed search behind and announces what changed. -/
def announce (search : Search) (answer : α) (announcements : List Announcement) : Reply α :=
  ⟨.ok answer, search, announcements.flatMap Announcement.events⟩

end Reply

namespace Search

/-- The search that nothing has been said about. -/
def new : Search where
  query := .empty
  fields := .empty
  filters := .empty
  results := []
  pageLength := defaultPageLength
  totalResults := 0
  loading := false
  options := .all

/-! ## Settings -/

/-- Sets how many results a page has, which must be at least one. -/
def resizePages (search : Search) (pageLength : UInt64) : Reply Unit :=
  if pageLength = 0 then .refuse search (.configuration .emptyPage)
  else .quiet { search with pageLength := pageLength } ()

/-- Chooses what requests are made of. -/
def withOptions (search : Search) (options : RequestOptions) : Search :=
  { search with options := options }

/-- Sets what is searched for; the same query again is no change. -/
def ask (search : Search) (query : Query) : Reply Unit :=
  if query.sameValue search.query then .quiet search ()
  else .announce { search with query := query } ()
      [⟨.queryChanged search.query query, .query⟩]

/-- Sets what is searched for from a document. -/
def askJson (search : Search) (document : Json) : Reply Unit :=
  match Query.ofJson document with
  | .ok query => search.ask query
  | .error error => .refuse search error

/-- Sets whether a request is under way. -/
def markLoading (search : Search) (loading : Bool) : Reply Unit :=
  if search.loading = loading then .quiet search ()
  else .announce { search with loading := loading } ()
      [⟨.loadingChanged loading, .loading⟩]

/-! ## Paging -/

/-- How many pages so many results fill, counting a partial page as one. -/
def pagesFor (search : Search) (count : Nat) : Nat :=
  (count + search.pageLength.toNat - 1) / search.pageLength.toNat

/-- How many pages are held. -/
def pagesHeld (search : Search) : Nat := search.pagesFor search.results.length

/-- Whether there are more pages than are held. -/
def hasMorePages (search : Search) : Bool :=
  search.pagesHeld < search.pagesFor search.totalResults.toNat

/-- The window of the first page. -/
def firstWindow (search : Search) : Window := ⟨0, search.pageLength⟩

/-- The window behind the results that are held. -/
def nextWindow (search : Search) : Window :=
  ⟨UInt64.ofNat search.results.length, search.pageLength⟩

/-! ## Results -/

/-- The first result of an id. -/
def result? (search : Search) (id : String) : Option SearchResult :=
  search.results.find? fun result => result.id == id

/-- Replaces the results. -/
def replaceResults (search : Search) (results : List SearchResult) : Reply Unit :=
  .announce { search with results := results } ()
    [⟨.resultsReset results.length, .results⟩]

/-- Appends results. -/
def addResults (search : Search) (results : List SearchResult) : Reply Unit :=
  .announce { search with results := search.results ++ results } ()
    [⟨.resultsAdded search.results.length results.length, .results⟩]

end Search

end FacetedSearch
