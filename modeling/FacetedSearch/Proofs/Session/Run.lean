import FacetedSearch.Proofs.Search.Call
import Mathlib.Data.List.Nodup

/-!
# What a listener hears of a run

In a session operations are called, results fetched and facets counted again, and listeners
come and go, all of it in any order.  A listener hears what is announced while it is
subscribed: everything, in order, and once.

## Telling listeners apart

The journal knows listeners by their ids, and these are given out in turn.  While ids last,
one that is given out is new: nobody who is subscribed has it, and nothing in the journal was
heard under it.  `Listeners.Numbered` says so of all ids up to the next, and a step keeps it
as long as the subscriptions do not outnumber the 64-bit integers.

* `Happening`, `Session.step`, `Session.run`: what can happen in a session;
* `Session.announced`: what is announced in a run;
* `Listeners.Numbered`, `Session.numbered_run`: the ids that were given out;
* `Listeners.heardBy_deliver`, `Session.heardBy_run`: what one listener hears.
-/

namespace FacetedSearch

/-- What can happen in a session.  Fetching the first page or the next is a fetch of a
window, or nothing at all. -/
inductive Happening where
  | call (call : Call)
  | fetch (flags later : Flags) (transport : Transport) (window : Option Window)
      (mode : ResultMode)
  | recount (flags later : Flags) (transport : Transport) (name : String)
  | subscribe
  | unsubscribe (id : ListenerId)

namespace Happening

/-- The search that is left behind. -/
def search : Happening → Search → Search
  | .call operation, search => (operation.reply search).search
  | .fetch flags later transport window mode, search =>
    (search.fetch flags later transport window mode).search
  | .recount flags later transport name, search =>
    (search.recount flags later transport name).search
  | .subscribe, search | .unsubscribe _, search => search

/-- What is announced. -/
def announced : Happening → Search → List Event
  | .call operation, search => (operation.reply search).events
  | .fetch flags later transport window mode, search =>
    (search.fetch flags later transport window mode).events
  | .recount flags later transport name, search =>
    (search.recount flags later transport name).events
  | .subscribe, _ | .unsubscribe _, _ => []

/-- Whether a fetch returns.  What else can be broken off leaves the search as it was. -/
def returns : Happening → Search → Bool
  | .fetch flags later transport window mode, search =>
    (search.fetch flags later transport window mode).returns
  | _, _ => true

/-- How many ids are given out. -/
def subscriptions : Happening → Nat
  | .subscribe => 1
  | _ => 0

end Happening

namespace Session

/-- What becomes of a session. -/
def step (session : Session) : Happening → Session
  | .call call => (session.perform call.reply).2
  | .fetch flags later transport window mode =>
    (session.fetch fun search => search.fetch flags later transport window mode).2.2
  | .recount flags later transport name =>
    (session.fetch fun search => search.recount flags later transport name).2.2
  | .subscribe => session.subscribe.2
  | .unsubscribe id => (session.unsubscribe id).2

/-- What becomes of a session when one thing happens after the other. -/
def run (session : Session) (happenings : List Happening) : Session := happenings.foldl step session

/-- What is announced when one thing happens after the other. -/
def announced : Search → List Happening → List Event
  | _, [] => []
  | search, happening :: rest =>
    happening.announced search ++ announced (happening.search search) rest

/-- Whether every fetch returns when one thing happens after the other. -/
def returns : Search → List Happening → Bool
  | _, [] => true
  | search, happening :: rest =>
    happening.returns search && returns (happening.search search) rest

/-- How many ids are given out when one thing happens after the other. -/
def subscriptions : List Happening → Nat
  | [] => 0
  | happening :: rest => happening.subscriptions + subscriptions rest

@[simp] theorem run_nil (session : Session) : session.run [] = session := rfl

theorem run_cons (session : Session) (happening : Happening) (rest : List Happening) :
    session.run (happening :: rest) = (session.step happening).run rest := rfl

@[simp] theorem subscriptions_nil : subscriptions [] = 0 := rfl

@[simp] theorem subscriptions_cons (happening : Happening) (rest : List Happening) :
    subscriptions (happening :: rest) = happening.subscriptions + subscriptions rest := rfl

theorem search_step (session : Session) (happening : Happening) :
    (session.step happening).search = happening.search session.search := by
  cases happening <;> rfl

/-- **What every step keeps, every run keeps.** -/
theorem search_run_of_step {P : Search → Prop} {happenings : List Happening}
    (hstep : ∀ happening ∈ happenings, ∀ search, P search → P (happening.search search))
    {session : Session} (h : P session.search) : P (session.run happenings).search := by
  induction happenings generalizing session with
  | nil => exact h
  | cons happening rest ih =>
    obtain ⟨hfirst, hrest⟩ := List.forall_mem_cons.1 hstep
    refine ih hrest ?_
    rw [search_step]
    exact hfirst session.search h

end Session

namespace Listeners

variable {listeners : Listeners} {id : ListenerId} {given : Nat}

/-! ## Hearing -/

section Deliveries

variable {κ : Type} [DecidableEq κ] {present : List κ} {one : κ}

/-- Whoever is there once is told of every event once. -/
theorem map_snd_deliveries_of_mem (events : List Event) (honce : present.Nodup)
    (hone : one ∈ present) :
    ((events.flatMap fun event => present.map fun other => (other, event)).filter
      fun entry => entry.1 = one).map Prod.snd = events := by
  have hsole : present.filter (fun other => decide (other = one)) = [one] := by
    rw [List.filter_eq, List.count_eq_one_of_mem honce hone, List.replicate_one]
  have htold : ∀ event : Event, ((present.map fun other => (other, event)).filter
      fun entry => entry.1 = one).map Prod.snd = [event] := by
    intro event
    rw [List.filter_map, List.map_map]
    exact congrArg (List.map fun _ => event) hsole
  induction events with
  | nil => rfl
  | cons event rest ih =>
    rw [List.flatMap_cons, List.filter_append, List.map_append, htold, ih]
    rfl

/-- Whoever is not there is told of nothing. -/
theorem map_snd_deliveries_of_notMem (events : List Event) (hone : one ∉ present) :
    ((events.flatMap fun event => present.map fun other => (other, event)).filter
      fun entry => entry.1 = one).map Prod.snd = [] := by
  rw [List.map_eq_nil_iff, List.filter_eq_nil_iff]
  intro entry hentry hsame
  obtain ⟨event, -, hmem⟩ := List.mem_flatMap.1 hentry
  obtain ⟨other, hother, rfl⟩ := List.mem_map.1 hmem
  exact hone (of_decide_eq_true hsame ▸ hother)

end Deliveries

/-- Whoever is subscribed once hears every event once. -/
theorem heardBy_deliver (events : List Event) (honce : listeners.active.Nodup)
    (hid : id ∈ listeners.active) :
    (listeners.deliver events).heardBy id = listeners.heardBy id ++ events := by
  unfold heardBy deliver
  rw [List.filter_append, List.map_append, map_snd_deliveries_of_mem events honce hid]

/-! ## Ids -/

/-- So many ids were given out, and every id that is subscribed or was heard under is one of
them. -/
structure Numbered (listeners : Listeners) (given : Nat) : Prop where
  next : listeners.next = UInt64.ofNat given
  once : listeners.active.Nodup
  active : ∀ id ∈ listeners.active, id.number.toNat < given
  journal : ∀ entry ∈ listeners.journal, entry.1.number.toNat < given

theorem numbered_none : none.Numbered 0 :=
  ⟨rfl, List.nodup_nil, fun _ h => absurd h List.not_mem_nil, fun _ h => absurd h List.not_mem_nil⟩

namespace Numbered

theorem deliver (h : listeners.Numbered given) (events : List Event) :
    (listeners.deliver events).Numbered given where
  next := h.next
  once := h.once
  active := h.active
  journal := by
    intro entry hentry
    rcases List.mem_append.1 hentry with hold | hnew
    · exact h.journal entry hold
    · obtain ⟨event, -, hmem⟩ := List.mem_flatMap.1 hnew
      obtain ⟨other, hother, rfl⟩ := List.mem_map.1 hmem
      exact h.active other hother

theorem unsubscribe (h : listeners.Numbered given) (id : ListenerId) :
    (listeners.unsubscribe id).2.Numbered given where
  next := h.next
  once := h.once.filter _
  active := fun other hother => h.active other (List.mem_filter.1 hother).1
  journal := h.journal

/-- While ids last, the next one is the number of those before it. -/
theorem toNat_next (h : listeners.Numbered given) (hroom : given < UInt64.size) :
    listeners.next.toNat = given := by
  rw [h.next]
  exact UInt64.toNat_ofNat_of_lt' hroom

theorem next_notMem (h : listeners.Numbered given) (hroom : given < UInt64.size) :
    listeners.subscribe.1 ∉ listeners.active := by
  intro hmem
  have hbelow : listeners.next.toNat < given := h.active _ hmem
  rw [h.toNat_next hroom] at hbelow
  exact Nat.lt_irrefl _ hbelow

/-- Nothing was heard yet under the next id. -/
theorem heardBy_next (h : listeners.Numbered given) (hroom : given < UInt64.size) :
    listeners.heardBy listeners.subscribe.1 = [] := by
  rw [heardBy, List.map_eq_nil_iff, List.filter_eq_nil_iff]
  intro entry hentry hsame
  have hbelow : entry.1.number.toNat < given := h.journal entry hentry
  rw [of_decide_eq_true hsame] at hbelow
  exact Nat.lt_irrefl _ (h.toNat_next hroom ▸ hbelow)

theorem subscribe (h : listeners.Numbered given) (hroom : given < UInt64.size) :
    listeners.subscribe.2.Numbered (given + 1) where
  next := by
    show listeners.next + 1 = UInt64.ofNat (given + 1)
    rw [h.next, UInt64.ofNat_add]
    rfl
  once := List.nodup_append.2 ⟨h.once, List.nodup_singleton _, by
    intro old hold new hnew
    rw [List.mem_singleton.1 hnew]
    rintro rfl
    exact h.next_notMem hroom hold⟩
  active := by
    intro id hid
    rcases List.mem_append.1 hid with hold | hnew
    · exact Nat.lt_succ_of_lt (h.active id hold)
    · rw [List.mem_singleton.1 hnew]
      exact Nat.lt_succ_of_le (Nat.le_of_eq (h.toNat_next hroom))
  journal := fun entry hentry => Nat.lt_succ_of_lt (h.journal entry hentry)

end Numbered
end Listeners

namespace Session

variable {session : Session} {given : Nat}

/-! ## Runs -/

/-- One step gives out ids in turn. -/
theorem numbered_step (h : session.listeners.Numbered given) (happening : Happening)
    (hroom : given + happening.subscriptions ≤ UInt64.size) :
    (session.step happening).listeners.Numbered (given + happening.subscriptions) := by
  cases happening with
  | call call => exact h.deliver _
  | fetch flags later transport window mode => exact h.deliver _
  | recount flags later transport name => exact h.deliver _
  | subscribe => exact h.subscribe hroom
  | unsubscribe id => exact h.unsubscribe id

/-- **Ids are given out in turn in every run**, as long as they last. -/
theorem numbered_run (h : session.listeners.Numbered given) {happenings : List Happening}
    (hroom : given + subscriptions happenings ≤ UInt64.size) :
    (session.run happenings).listeners.Numbered (given + subscriptions happenings) := by
  induction happenings generalizing session given with
  | nil => exact h
  | cons happening rest ih =>
    rw [subscriptions_cons, ← Nat.add_assoc] at hroom ⊢
    exact ih (numbered_step h happening (Nat.le_of_add_right_le hroom)) hroom

/-- One step lets a listener hear what is announced, and leaves it subscribed unless it is
unsubscribed. -/
theorem heardBy_step {id : ListenerId} (happening : Happening)
    (honce : session.listeners.active.Nodup) (hid : id ∈ session.listeners.active)
    (hstay : happening ≠ .unsubscribe id) :
    id ∈ (session.step happening).listeners.active ∧
      (session.step happening).listeners.heardBy id =
        session.listeners.heardBy id ++ happening.announced session.search := by
  cases happening with
  | call call => exact ⟨hid, Listeners.heardBy_deliver _ honce hid⟩
  | fetch flags later transport window mode => exact ⟨hid, Listeners.heardBy_deliver _ honce hid⟩
  | recount flags later transport name => exact ⟨hid, Listeners.heardBy_deliver _ honce hid⟩
  | subscribe => exact ⟨List.mem_append_left _ hid, (List.append_nil _).symm⟩
  | unsubscribe other =>
    have hother : id ≠ other := fun heq => hstay (heq ▸ rfl)
    exact ⟨List.mem_filter.2 ⟨hid, decide_eq_true hother⟩, (List.append_nil _).symm⟩

/-- **A listener hears what is announced in a run**, everything and in order. -/
theorem heardBy_run {id : ListenerId} (h : session.listeners.Numbered given)
    (hid : id ∈ session.listeners.active) {happenings : List Happening}
    (hstay : .unsubscribe id ∉ happenings)
    (hroom : given + subscriptions happenings ≤ UInt64.size) :
    (session.run happenings).listeners.heardBy id =
      session.listeners.heardBy id ++ announced session.search happenings := by
  induction happenings generalizing session given with
  | nil => exact (List.append_nil _).symm
  | cons happening rest ih =>
    rw [List.mem_cons, not_or] at hstay
    rw [subscriptions_cons, ← Nat.add_assoc] at hroom
    obtain ⟨hid', hheard⟩ := heardBy_step happening h.once hid (Ne.symm hstay.1)
    have hnumbered := numbered_step h happening (Nat.le_of_add_right_le hroom)
    rw [run_cons, ih hnumbered hid' hstay.2 hroom, hheard, search_step, announced,
      List.append_assoc]

end Session
end FacetedSearch
