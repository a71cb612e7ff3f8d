import FacetedSearch.Event

/-!
# Listeners

Whoever shows a search listens to its changes.  A listener is subscribed and gets an id,
and from then on hears every event until it is unsubscribed.  Ids are 64-bit numbers given
out in turn, so that none is given twice before all of them have been.
The journal records who heard what: for each event in turn, the listeners in the order of
their subscription.

## Main definitions

* `ListenerId`, `Listeners`: the subscriptions and the journal;
* `Listeners.subscribe`, `Listeners.unsubscribe`: coming and going;
* `Listeners.deliver`: letting everyone hear;
* `Listeners.heardBy`: what one listener heard.
-/

namespace FacetedSearch

/-- What identifies a subscription. -/
structure ListenerId where
  number : UInt64
  deriving DecidableEq

/-- Who is subscribed, in order, and what was heard. -/
structure Listeners where
  /-- The number of the next subscription. -/
  next : UInt64
  active : List ListenerId
  journal : List (ListenerId × Event)

namespace Listeners

/-- Nobody listens and nothing was heard. -/
def none : Listeners := ⟨0, [], []⟩

/-- Adds a listener behind all others. -/
def subscribe (listeners : Listeners) : ListenerId × Listeners :=
  let id : ListenerId := ⟨listeners.next⟩
  (id, { listeners with next := listeners.next + 1, active := listeners.active ++ [id] })

/-- Removes a listener, and says whether it was there. -/
def unsubscribe (listeners : Listeners) (id : ListenerId) : Bool × Listeners :=
  let active := listeners.active.filter fun other => other ≠ id
  (active.length != listeners.active.length, { listeners with active := active })

/-- Lets every listener hear each event in turn. -/
def deliver (listeners : Listeners) (events : List Event) : Listeners :=
  let heard := events.flatMap fun event => listeners.active.map fun id => (id, event)
  { listeners with journal := listeners.journal ++ heard }

/-- What one listener heard, in order. -/
def heardBy (listeners : Listeners) (id : ListenerId) : List Event :=
  (listeners.journal.filter fun entry => entry.1 = id).map Prod.snd

/-- Forgets what was heard. -/
def forget (listeners : Listeners) : Listeners := { listeners with journal := [] }

end Listeners

end FacetedSearch
