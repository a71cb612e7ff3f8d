import FacetedSearch.Facet.Basic
import FacetedSearch.Field
import FacetedSearch.Query

/-!
# Events

Every change is announced twice: first by an event that says what happened, then by one
that only names the part of the search that is no longer what it was.  Listeners that
redraw a whole part need to look at the second alone.  Which part it is, is said where the
change is announced.

## Main definitions

* `Change`, `Scope`: what happened, and the parts of a search;
* `Announcement`: a change and the part that it is announced for;
* `Event`, `Announcement.events`: what listeners hear of it.
-/

namespace FacetedSearch

/-- The parts of a search. -/
inductive Scope where
  | fields
  | filters
  | selection (filter : String)
  | sort (field : String)
  | query
  | results
  | loading
  deriving DecidableEq

/-- What happened. -/
inductive Change where
  | fieldAdded (name : String) (index : Nat)
  | fieldRemoved (name : String) (index : Nat)
  | fieldsReset (names : List String)
  | filterAdded (name : String) (index : Nat)
  | filterRemoved (name : String) (index : Nat)
  | filtersReset (names : List String)
  | selectionChanged (filter : String) (previous selected : List FacetValue)
  | sortChanged (field : String) (previous : Option Direction) (direction : Direction)
  | queryChanged (previous query : Query)
  | resultsReset (count : Nat)
  | resultsAdded (index count : Nat)
  | loadingChanged (loading : Bool)
  | facetsRefreshed (filter : String) (count : Nat)
  | fetchFailed (message : String)

/-- A change and the part of the search that it is announced for. -/
structure Announcement where
  change : Change
  scope : Scope

/-- What a listener hears. -/
inductive Event where
  /-- What happened. -/
  | specific (change : Change)
  /-- A part of the search is no longer what it was. -/
  | changed (scope : Scope)

/-- What listeners hear of an announcement. -/
def Announcement.events (announcement : Announcement) : List Event :=
  [.specific announcement.change, .changed announcement.scope]

end FacetedSearch
