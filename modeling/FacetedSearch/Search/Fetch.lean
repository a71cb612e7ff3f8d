import FacetedSearch.Search.Filters
import FacetedSearch.Search.Responses
import FacetedSearch.Request.Build

/-!
# Fetching

A fetch compiles a request, sends it, and takes the response over.  The sending is done
by a transport that the caller supplies; it gives a document back, or a chain of messages
that says from the outside in what went wrong.

While a fetch of results is under way the search is marked as loading, and the mark is
taken off whether it succeeds or fails.  A failure is announced after that.  Counting the
facets of one filter again is not marked, and it touches nothing else.

Flags are looked at twice: when the request is compiled, and again when the response is
there.  They may have changed in between, so both states of them are given.

Taking a response over can be broken off, where a sum does not fit into 64 bits.  Then the
fetch does not return either, and the mark stays.

## Main definitions

* `Transport`, `FetchError`, `FetchReply`: what fetching takes and gives;
* `FetchError.breaksOff`, `FetchReply.returns`: whether a fetch returns;
* `Search.fetch`, `Search.fetchFirst`, `Search.fetchNext`: fetching results;
* `Search.recount`: counting the facets of one filter again.
-/

namespace FacetedSearch

/-- Sends a request: the document that comes back, or a chain of messages, outermost
first. -/
abbrev Transport := Request → Except (List String) Json

/-- Why a fetch fails. -/
inductive FetchError where
  /-- The request of a search cannot be compiled. -/
  | compiling (cause : SearchError)
  /-- The transport fails. -/
  | transport (chain : List String)
  /-- The response to a search cannot be taken over. -/
  | applying (cause : SearchError)
  /-- The request for facets cannot be compiled. -/
  | compilingFacets (cause : SearchError)
  /-- The response to a request for facets is no response. -/
  | undecodableFacets
  /-- The facets of a response cannot be read. -/
  | refreshing (cause : SearchError)
  deriving DecidableEq

namespace FetchError

/-- The messages of an error, outermost first. -/
def chain : FetchError → List String
  | .compiling cause => ["compiling search request", cause.message]
  | .transport chain => chain
  | .applying cause => ["applying search response", cause.message]
  | .compilingFacets cause => ["compiling facet request", cause.message]
  | .undecodableFacets => ["decoding facet response"]
  | .refreshing cause => [cause.message]

/-- The wording of an error: its chain of messages in one line. -/
def message (error : FetchError) : String := ": ".intercalate error.chain

/-- The refusal behind an error, if it was not the transport or its document that failed. -/
def cause? : FetchError → Option SearchError
  | .compiling cause | .applying cause | .compilingFacets cause | .refreshing cause => some cause
  | .transport _ | .undecodableFacets => none

/-- Whether the fetch does not return. -/
def breaksOff (error : FetchError) : Bool := error.cause?.any SearchError.breaksOff

end FetchError

/-- What a fetch gives back: the requests that were sent, how it ended, the search that
it leaves behind, and what listeners hear. -/
structure FetchReply where
  requests : List Request
  outcome : Except FetchError Unit
  search : Search
  events : List Event

/-- Whether the fetch returns, be it with an error. -/
def FetchReply.returns (reply : FetchReply) : Bool :=
  match reply.outcome with
  | .ok () => true
  | .error error => !error.breaksOff

namespace Search

/-- Takes over what a transport brought for a search. -/
def receive (flags : Flags) (search : Search) (mode : ResultMode) :
    Except (List String) Json → Except FetchError Unit × Search × List Event
  | .error chain => (.error (.transport chain), search, [])
  | .ok document =>
    let reply := search.absorb flags document mode
    (reply.answer.mapError .applying, reply.search, reply.events)

/-- Takes the mark off and announces a failure.  A fetch that is broken off does not come to
this. -/
def conclude (search : Search) (outcome : Except FetchError Unit) : Search × List Event :=
  let done := search.markLoading false
  match outcome with
  | .ok () => (done.search, done.events)
  | .error error =>
    if error.breaksOff then (search, [])
    else (done.search, done.events ++ Announcement.events ⟨.fetchFailed error.message, .results⟩)

/-- Compiles, sends and takes over one search.  The flags may have changed when the response
is there. -/
def fetch (flags later : Flags) (search : Search) (transport : Transport)
    (window : Option Window) (mode : ResultMode) : FetchReply :=
  match search.request flags window with
  | .error cause => ⟨[], .error (.compiling cause), search, []⟩
  | .ok request =>
    let loading := search.markLoading true
    let (outcome, received, events) := loading.search.receive later mode (transport request)
    let (concluded, ending) := received.conclude outcome
    ⟨[request], outcome, concluded, loading.events ++ events ++ ending⟩

/-- Fetches the first page in the place of what is held. -/
def fetchFirst (flags later : Flags) (search : Search) (transport : Transport) : FetchReply :=
  search.fetch flags later transport (some search.firstWindow) .replace

/-- Fetches the next page and appends it; nothing is sent if every page is held. -/
def fetchNext (flags later : Flags) (search : Search) (transport : Transport) : FetchReply :=
  if search.hasMorePages then search.fetch flags later transport (some search.nextWindow) .append
  else ⟨[], .ok (), search, []⟩

/-- Takes over what a transport brought for the facets of one filter. -/
def receiveFacets (flags : Flags) (search : Search) (name : String) :
    Except (List String) Json → Except FetchError Filter
  | .error chain => .error (.transport chain)
  | .ok document => match Response.ofJson? document with
    | none => .error .undecodableFacets
    | some response =>
      ((search.filter name).bind fun filter => filter.refresh flags response).mapError .refreshing

/-- Counts the facets of one filter again.  The flags may have changed when the response is
there. -/
def recount (flags later : Flags) (search : Search) (transport : Transport) (name : String) :
    FetchReply :=
  match search.facetRequest flags name with
  | .error cause => ⟨[], .error (.compilingFacets cause), search, []⟩
  | .ok request => match search.receiveFacets later name (transport request) with
    | .error error => ⟨[request], .error error, search, []⟩
    | .ok filter =>
      let refreshed := { search with filters := search.filters.update name fun _ => filter }
      ⟨[request], .ok (), refreshed,
        Announcement.events ⟨.facetsRefreshed name filter.available.length, .filters⟩⟩

end Search

end FacetedSearch
