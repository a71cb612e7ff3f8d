import FacetedSearch.Search.Fetch
import FacetedSearch.Listeners

/-!
# Sessions

A session is a search together with those who listen to it.  An operation on the search
is performed in the session, which goes on with the search that the operation leaves
behind and delivers what it announces.

## Main definitions

* `Session`: a search and its listeners;
* `Session.perform`, `Session.fetch`: performing an operation;
* `Session.subscribe`, `Session.unsubscribe`: listeners coming and going.
-/

namespace FacetedSearch

/-- A search and those who listen to it. -/
structure Session where
  search : Search
  listeners : Listeners

namespace Session

/-- A search that nobody listens to yet. -/
def ofSearch (search : Search) : Session := ⟨search, .none⟩

/-- Goes on with a search and lets the listeners hear of it. -/
def advance (session : Session) (search : Search) (events : List Event) : Session :=
  ⟨search, session.listeners.deliver events⟩

/-- Performs an operation. -/
def perform {α : Type} (session : Session) (operation : Search → Reply α) :
    Except SearchError α × Session :=
  let reply := operation session.search
  (reply.answer, session.advance reply.search reply.events)

/-- Performs a fetch: its outcome, the requests that were sent, and the session after it. -/
def fetch (session : Session) (operation : Search → FetchReply) :
    Except FetchError Unit × List Request × Session :=
  let reply := operation session.search
  (reply.outcome, reply.requests, session.advance reply.search reply.events)

/-- Adds a listener. -/
def subscribe (session : Session) : ListenerId × Session :=
  let (id, listeners) := session.listeners.subscribe
  (id, { session with listeners := listeners })

/-- Removes a listener, and says whether it was there. -/
def unsubscribe (session : Session) (id : ListenerId) : Bool × Session :=
  let (found, listeners) := session.listeners.unsubscribe id
  (found, { session with listeners := listeners })

end Session

end FacetedSearch
