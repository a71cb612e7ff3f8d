import FacetedSearch.Search.Basic

/-!
# Responses to a search

A response brings results, which replace the ones that are held or follow them, and a
facet section for each filter.  It is taken over as a whole or not at all: every section is
read before anything changes, and if one cannot be read, nothing does.

## Main definitions

* `ResultMode`: whether results replace or follow;
* `takeTallies`: what was read for each filter goes back to that filter;
* `Search.readResults`: the results of a response and their total number;
* `Search.absorb`: taking a response over.
-/

namespace FacetedSearch

/-- What new results do to those that are held. -/
inductive ResultMode where
  | replace
  | append
  deriving DecidableEq

/-- Lets filters take over what was read for them.  The tallies are in the order of the
filters, and a filter without one stays as it is. -/
def takeTallies : List Filter → List Tally → List Filter
  | filter :: filters, tally :: tallies => filter.withTally tally :: takeTallies filters tallies
  | filters, _ => filters

namespace Search

/-- Takes over how many results a response says there are, and answers with those that
it brings. -/
def readResults (search : Search) (response : Response) : Reply (List SearchResult) :=
  .quiet { search with totalResults := response.hits.total } response.results

/-- Takes over a decoded response whose sections can be read.  Listeners hear of every
filter, in order, and then of the results. -/
def absorbDecoded (search : Search) (response : Response) (filters : List Filter)
    (mode : ResultMode) : Reply Unit :=
  let counted := { search with totalResults := response.hits.total, filters := ⟨filters⟩ }
  let refreshed := filters.map fun filter =>
    (⟨.facetsRefreshed filter.name filter.available.length, .filters⟩ : Announcement)
  let reply := match mode with
    | .replace => counted.replaceResults response.results
    | .append => counted.addResults response.results
  { reply with events := refreshed.flatMap Announcement.events ++ reply.events }

/-- Takes over a response, or refuses it as a whole. -/
def absorb (flags : Flags) (search : Search) (document : Json) (mode : ResultMode) :
    Reply Unit :=
  match Response.ofJson? document with
  | none => .refuse search (.malformedResponse .document)
  | some response =>
    match search.filters.items.mapM fun filter => filter.tally flags response with
    | .error error => .refuse search error
    | .ok tallies =>
      search.absorbDecoded response (takeTallies search.filters.items tallies) mode

end Search

end FacetedSearch
