import FacetedSearch.Proofs.Search.Pairs
import FacetedSearch.Proofs.Session.Run
import Mathlib.Data.List.Induction

/-!
# Every listener hears its own stretch of a run

A listener hears what is announced from its subscription until it is unsubscribed or the run
ends: every event, in order, once, whoever else comes and goes.

## When ids run out

Ids are 64-bit numbers that are given out in turn, so in a run with more subscriptions than that
two listeners can share an id, and the journal no longer tells them apart.  Yet each of them is
called by itself.  A `Ledger` is a session that knows its listeners by the number of
subscriptions before theirs, which never repeats.  Writing ids for numbers makes a session of
it, and what happens to the ledger happens to that session (`Ledger.session_run`).  So a ledger
says of every run what each listener heard, and in a run in which no id is given out twice this
is what the journal holds under the id of the listener.

Removing an id removes everyone who has it.  This is why the stretch of a listener ends with the
first removal of its id, whether or not that was meant for somebody else.

* `Ledger`, `Ledger.session_run`: sessions that tell all listeners apart;
* `Ledger.heardBy_run`: what one listener hears of a run, without a bound on its length;
* `Ledger.mem_present_run`: who is subscribed after a run;
* `Session.delivery`: the law of listeners.
-/

namespace FacetedSearch

/-- The id of a listener that so many came before. -/
def ListenerId.ofNumber (number : Nat) : ListenerId := ⟨UInt64.ofNat number⟩

/-- While ids last, no two listeners have the same. -/
theorem ListenerId.ofNumber_inj {m n : Nat} (hm : m < UInt64.size) (hn : n < UInt64.size)
    (h : ofNumber m = ofNumber n) : m = n := by
  have hnumbers : UInt64.ofNat m = UInt64.ofNat n := congrArg ListenerId.number h
  rw [← UInt64.toNat_ofNat_of_lt' hm, hnumbers, UInt64.toNat_ofNat_of_lt' hn]

/-- Whether whoever has an id is unsubscribed. -/
def Happening.removes (id : ListenerId) : Happening → Bool
  | .unsubscribe other => other = id
  | _ => false

theorem Happening.removes_eq_true_iff {id : ListenerId} {happening : Happening} :
    happening.removes id = true ↔ happening = .unsubscribe id := by
  constructor
  · intro h
    cases happening with
    | unsubscribe other => rw [of_decide_eq_true h]
    | _ => cases h
  · rintro rfl
    exact decide_eq_true rfl

/-- A search and those who listen to it, known by how many came before them. -/
structure Ledger where
  search : Search
  /-- How many were subscribed so far. -/
  given : Nat
  present : List Nat
  heard : List (Nat × Event)
  once : present.Nodup
  present_below : ∀ number ∈ present, number < given
  heard_below : ∀ entry ∈ heard, entry.1 < given

namespace Ledger

/-- A search that nobody listens to yet. -/
def ofSearch (search : Search) : Ledger where
  search := search
  given := 0
  present := []
  heard := []
  once := List.nodup_nil
  present_below := fun _ h => absurd h List.not_mem_nil
  heard_below := fun _ h => absurd h List.not_mem_nil

/-- Goes on with a search and lets the listeners hear of it. -/
def advance (ledger : Ledger) (search : Search) (events : List Event) : Ledger :=
  { ledger with
    search := search
    heard := ledger.heard ++ events.flatMap fun event =>
      ledger.present.map fun number => (number, event)
    heard_below := by
      intro entry hentry
      rcases List.mem_append.1 hentry with hold | hnew
      · exact ledger.heard_below entry hold
      · obtain ⟨event, -, hmem⟩ := List.mem_flatMap.1 hnew
        obtain ⟨number, hnumber, rfl⟩ := List.mem_map.1 hmem
        exact ledger.present_below number hnumber }

/-- Adds a listener behind all others. -/
def subscribe (ledger : Ledger) : Ledger :=
  { ledger with
    given := ledger.given + 1
    present := ledger.present ++ [ledger.given]
    once := by
      refine List.nodup_append.2 ⟨ledger.once, List.nodup_singleton _, ?_⟩
      intro old hold new hnew
      rw [List.mem_singleton.1 hnew]
      exact Nat.ne_of_lt (ledger.present_below old hold)
    present_below := by
      intro number hnumber
      rcases List.mem_append.1 hnumber with hold | hnew
      · exact Nat.lt_succ_of_lt (ledger.present_below number hold)
      · exact Nat.lt_succ_of_le (Nat.le_of_eq (List.mem_singleton.1 hnew))
    heard_below := fun entry hentry => Nat.lt_succ_of_lt (ledger.heard_below entry hentry) }

/-- Removes everyone who has an id. -/
def unsubscribe (ledger : Ledger) (id : ListenerId) : Ledger :=
  { ledger with
    present := ledger.present.filter fun number => ListenerId.ofNumber number ≠ id
    once := ledger.once.filter _
    present_below := fun number hnumber =>
      ledger.present_below number (List.mem_filter.1 hnumber).1 }

/-- What becomes of a ledger. -/
def step (ledger : Ledger) : Happening → Ledger
  | .subscribe => ledger.subscribe
  | .unsubscribe id => ledger.unsubscribe id
  | happening => ledger.advance (happening.search ledger.search) (happening.announced ledger.search)

/-- What becomes of a ledger when one thing happens after the other. -/
def run (ledger : Ledger) (happenings : List Happening) : Ledger := happenings.foldl step ledger

/-- What one listener heard, in order. -/
def heardBy (ledger : Ledger) (number : Nat) : List Event :=
  (ledger.heard.filter fun entry => entry.1 = number).map Prod.snd

/-- The session in which listeners are known by their ids alone. -/
def session (ledger : Ledger) : Session where
  search := ledger.search
  listeners := {
    next := UInt64.ofNat ledger.given
    active := ledger.present.map ListenerId.ofNumber
    journal := ledger.heard.map fun entry => (ListenerId.ofNumber entry.1, entry.2) }

variable {ledger : Ledger} {number : Nat}

theorem run_cons (ledger : Ledger) (happening : Happening) (rest : List Happening) :
    ledger.run (happening :: rest) = (ledger.step happening).run rest := rfl

theorem run_append (ledger : Ledger) (before after : List Happening) :
    ledger.run (before ++ after) = (ledger.run before).run after := List.foldl_append

/-! ## The session of a ledger -/

theorem session_advance (ledger : Ledger) (search : Search) (events : List Event) :
    (ledger.advance search events).session = ledger.session.advance search events := by
  have hjournal : (events.flatMap fun event => ledger.present.map fun number => (number, event)).map
      (fun entry => (ListenerId.ofNumber entry.1, entry.2)) =
      events.flatMap fun event => (ledger.present.map ListenerId.ofNumber).map fun id =>
        (id, event) := by
    simp only [List.map_flatMap, List.map_map, Function.comp_def]
  unfold session advance Session.advance Listeners.deliver
  rw [List.map_append, hjournal]

theorem session_subscribe (ledger : Ledger) :
    ledger.subscribe.session = ledger.session.subscribe.2 := by
  unfold session subscribe Session.subscribe Listeners.subscribe
  rw [List.map_append, UInt64.ofNat_add]
  rfl

theorem session_unsubscribe (ledger : Ledger) (id : ListenerId) :
    (ledger.unsubscribe id).session = (ledger.session.unsubscribe id).2 := by
  unfold session unsubscribe Session.unsubscribe Listeners.unsubscribe
  rw [List.filter_map]
  rfl

theorem session_step (ledger : Ledger) (happening : Happening) :
    (ledger.step happening).session = ledger.session.step happening := by
  cases happening with
  | call call => exact ledger.session_advance _ _
  | fetch flags later transport window mode => exact ledger.session_advance _ _
  | recount flags later transport name => exact ledger.session_advance _ _
  | subscribe => exact ledger.session_subscribe
  | unsubscribe id => exact ledger.session_unsubscribe id

/-- **What happens to a ledger happens to its session.** -/
theorem session_run (ledger : Ledger) (happenings : List Happening) :
    (ledger.run happenings).session = ledger.session.run happenings := by
  induction happenings generalizing ledger with
  | nil => rfl
  | cons happening rest ih => rw [run_cons, ih, session_step, Session.run_cons]

theorem given_step (ledger : Ledger) (happening : Happening) :
    (ledger.step happening).given = ledger.given + happening.subscriptions := by
  cases happening <;> rfl

theorem given_run (ledger : Ledger) (happenings : List Happening) :
    (ledger.run happenings).given = ledger.given + Session.subscriptions happenings := by
  induction happenings generalizing ledger with
  | nil => rfl
  | cons happening rest ih =>
    rw [run_cons, ih, given_step, Session.subscriptions_cons, Nat.add_assoc]

/-! ## What a listener hears -/

theorem heardBy_advance_of_mem (search : Search) (events : List Event)
    (h : number ∈ ledger.present) :
    (ledger.advance search events).heardBy number = ledger.heardBy number ++ events := by
  unfold heardBy advance
  rw [List.filter_append, List.map_append,
    Listeners.map_snd_deliveries_of_mem events ledger.once h]

theorem heardBy_advance_of_notMem (search : Search) (events : List Event)
    (h : number ∉ ledger.present) :
    (ledger.advance search events).heardBy number = ledger.heardBy number := by
  unfold heardBy advance
  rw [List.filter_append, List.map_append, Listeners.map_snd_deliveries_of_notMem events h,
    List.append_nil]

/-- Nothing was heard yet by who is subscribed next. -/
theorem heardBy_given (ledger : Ledger) : ledger.heardBy ledger.given = [] := by
  rw [heardBy, List.map_eq_nil_iff, List.filter_eq_nil_iff]
  intro entry hentry hsame
  exact Nat.ne_of_lt (ledger.heard_below entry hentry) (of_decide_eq_true hsame)

/-- Someone who was subscribed is there after a step if they were before and their id is not
removed; nobody else is, but who is subscribed in that step. -/
theorem mem_present_step (happening : Happening) :
    number ∈ (ledger.step happening).present ↔
      (number ∈ ledger.present ∧ happening ≠ .unsubscribe (.ofNumber number)) ∨
        (happening = .subscribe ∧ number = ledger.given) := by
  cases happening with
  | call | fetch | recount =>
    exact ⟨fun h => Or.inl ⟨h, Happening.noConfusion⟩,
      fun h => h.elim And.left fun h => Happening.noConfusion h.1⟩
  | subscribe =>
    show number ∈ ledger.present ++ [ledger.given] ↔ _
    rw [List.mem_append, List.mem_singleton]
    exact or_congr (and_iff_left Happening.noConfusion).symm (and_iff_right rfl).symm
  | unsubscribe id =>
    show number ∈ ledger.present.filter _ ↔ _
    rw [List.mem_filter, decide_eq_true_iff]
    constructor
    · rintro ⟨hpresent, hother⟩
      exact Or.inl ⟨hpresent, fun h => hother (Happening.unsubscribe.inj h).symm⟩
    · rintro (⟨hpresent, hstay⟩ | ⟨hsubscribed, -⟩)
      · exact ⟨hpresent, fun h => hstay (congrArg Happening.unsubscribe h.symm)⟩
      · cases hsubscribed

/-- Whoever is there hears what a step announces. -/
theorem heardBy_step_of_mem (happening : Happening) (h : number ∈ ledger.present) :
    (ledger.step happening).heardBy number =
      ledger.heardBy number ++ happening.announced ledger.search := by
  cases happening with
  | call | fetch | recount => exact heardBy_advance_of_mem _ _ h
  | subscribe | unsubscribe => exact (List.append_nil _).symm

/-- Whoever is not there hears nothing. -/
theorem heardBy_step_of_notMem (happening : Happening) (h : number ∉ ledger.present) :
    (ledger.step happening).heardBy number = ledger.heardBy number := by
  cases happening with
  | call | fetch | recount => exact heardBy_advance_of_notMem _ _ h
  | subscribe | unsubscribe => rfl

/-- Nobody comes back. -/
theorem heardBy_run_of_notMem (hgiven : number < ledger.given) (h : number ∉ ledger.present)
    (happenings : List Happening) :
    (ledger.run happenings).heardBy number = ledger.heardBy number := by
  induction happenings generalizing ledger with
  | nil => rfl
  | cons happening rest ih =>
    have hgiven' : number < (ledger.step happening).given :=
      Nat.lt_of_lt_of_le hgiven (given_step ledger happening ▸ Nat.le_add_right _ _)
    have hgone : number ∉ (ledger.step happening).present := by
      rw [mem_present_step]
      rintro (⟨hpresent, -⟩ | ⟨-, hnext⟩)
      · exact h hpresent
      · exact Nat.ne_of_lt hgiven hnext
    rw [run_cons, ih hgiven' hgone, heardBy_step_of_notMem happening h]

/-- **Whoever is there hears what is announced until their id is removed**, and nothing after
that. -/
theorem heardBy_run (h : number ∈ ledger.present) (happenings : List Happening) :
    (ledger.run happenings).heardBy number =
      ledger.heardBy number ++ Session.announced ledger.search
        (happenings.takeWhile fun happening => !happening.removes (.ofNumber number)) := by
  induction happenings generalizing ledger with
  | nil => exact (List.append_nil _).symm
  | cons happening rest ih =>
    rw [run_cons]
    have hgiven : number < (ledger.step happening).given :=
      Nat.lt_of_lt_of_le (ledger.present_below number h)
        (given_step ledger happening ▸ Nat.le_add_right _ _)
    cases hremoves : happening.removes (.ofNumber number) with
    | true =>
      obtain rfl := Happening.removes_eq_true_iff.1 hremoves
      have hgone : number ∉ (ledger.step (.unsubscribe (.ofNumber number))).present := by
        rw [mem_present_step]
        rintro (⟨-, hstay⟩ | ⟨hsubscribed, -⟩)
        · exact hstay rfl
        · cases hsubscribed
      rw [heardBy_run_of_notMem hgiven hgone, heardBy_step_of_mem _ h,
        List.takeWhile_cons_of_neg (by rw [hremoves]; decide)]
      rfl
    | false =>
      have hstay : happening ≠ .unsubscribe (.ofNumber number) := fun heq =>
        Bool.false_ne_true (hremoves.symm.trans (Happening.removes_eq_true_iff.2 heq))
      have hpresent := (mem_present_step happening).2 (Or.inl ⟨h, hstay⟩)
      have hsearch : (ledger.step happening).search = happening.search ledger.search := by
        cases happening <;> rfl
      rw [ih hpresent, heardBy_step_of_mem happening h, hsearch,
        List.takeWhile_cons_of_pos (by rw [hremoves]; rfl), Session.announced, List.append_assoc]

/-- While ids last, the journal of the session keeps listeners apart as the ledger does. -/
theorem heardBy_session (hroom : ledger.given ≤ UInt64.size) (hnumber : number < ledger.given) :
    ledger.session.listeners.heardBy (.ofNumber number) = ledger.heardBy number := by
  have hsame : ∀ entry ∈ ledger.heard,
      decide (ListenerId.ofNumber entry.1 = .ofNumber number) = decide (entry.1 = number) := by
    intro entry hentry
    refine decide_eq_decide.2 ⟨fun h => ?_, congrArg _⟩
    exact ListenerId.ofNumber_inj (Nat.lt_of_lt_of_le (ledger.heard_below entry hentry) hroom)
      (Nat.lt_of_lt_of_le hnumber hroom) h
  unfold Listeners.heardBy session heardBy
  rw [List.filter_map, List.map_map]
  exact congrArg (List.map Prod.snd) (List.filter_congr hsame)

/-! ## Who is there -/

/-- **After a run those are subscribed who were subscribed in it and whose ids were not removed
since.**  The induction is on the run from its end, since a step at the end is the one that can
still remove a listener. -/
theorem mem_present_run (search : Search) (happenings : List Happening) :
    number ∈ ((ofSearch search).run happenings).present ↔
      ∃ before after, happenings = before ++ .subscribe :: after ∧
        Session.subscriptions before = number ∧
          .unsubscribe (.ofNumber number) ∉ after := by
  induction happenings using List.reverseRecOn with
  | nil =>
    refine ⟨fun h => absurd h List.not_mem_nil, ?_⟩
    rintro ⟨before, after, hsplit, -⟩
    exact absurd hsplit.symm (List.append_ne_nil_of_right_ne_nil _ (List.cons_ne_nil _ _))
  | append_singleton happenings last ih =>
    have hgiven : ((ofSearch search).run happenings).given = Session.subscriptions happenings :=
      (given_run _ happenings).trans (Nat.zero_add _)
    rw [run_append]
    show number ∈ (((ofSearch search).run happenings).step last).present ↔ _
    rw [mem_present_step, ih, hgiven]
    constructor
    · rintro (⟨⟨before, after, rfl, hnumber, hstay⟩, hlast⟩ | ⟨rfl, rfl⟩)
      · refine ⟨before, after ++ [last], List.append_assoc _ _ _, hnumber, ?_⟩
        rw [List.mem_append, List.mem_singleton, not_or]
        exact ⟨hstay, hlast.symm⟩
      · exact ⟨happenings, [], rfl, rfl, List.not_mem_nil⟩
    · rintro ⟨before, after, hsplit, hnumber, hstay⟩
      rcases List.eq_nil_or_concat' after with rfl | ⟨between, final, rfl⟩
      · obtain ⟨rfl, hlast⟩ := List.append_inj' hsplit rfl
        exact Or.inr ⟨List.singleton_inj.1 hlast, hnumber.symm⟩
      · rw [List.mem_append, List.mem_singleton, not_or] at hstay
        rw [← List.cons_append, ← List.append_assoc] at hsplit
        obtain ⟨hrest, hlast⟩ := List.append_inj' hsplit rfl
        obtain rfl : last = final := List.singleton_inj.1 hlast
        exact Or.inl ⟨⟨before, between, hrest, hnumber, hstay.1⟩, Ne.symm hstay.2⟩

end Ledger

namespace Listeners

/-- Unsubscribing says whether the id was subscribed. -/
theorem unsubscribe_eq_true_iff {listeners : Listeners} {id : ListenerId} :
    (listeners.unsubscribe id).1 = true ↔ id ∈ listeners.active := by
  show ((listeners.active.filter fun other => other ≠ id).length != listeners.active.length) =
    true ↔ _
  rw [bne_iff_ne, Ne, List.length_filter_eq_length_iff]
  constructor
  · intro h
    by_contra hid
    exact h fun other hother => decide_eq_true fun heq => hid (heq ▸ hother)
  · intro hid h
    exact of_decide_eq_true (h id hid) rfl

end Listeners

namespace Session

/-! ## The law of listeners -/

theorem paired_announced (search : Search) (happenings : List Happening) :
    Event.Paired (announced search happenings) := by
  induction happenings generalizing search with
  | nil => exact .nil
  | cons happening rest ih =>
    refine Event.Paired.append ?_ (ih _)
    cases happening with
    | call call => exact (call.plain_reply search).paired
    | fetch flags later transport window mode =>
      exact search.paired_fetch flags later transport window mode
    | recount flags later transport name => exact search.paired_recount flags later transport name
    | subscribe | unsubscribe => exact .nil

/-- The ledger of a run is its session. -/
theorem ledger_run (search : Search) (happenings : List Happening) :
    ((Ledger.ofSearch search).run happenings).session = (ofSearch search).run happenings :=
  (Ledger.ofSearch search).session_run happenings

/-- The ledger of a run knows how many were subscribed in it. -/
theorem given_ledger_run (search : Search) (happenings : List Happening) :
    ((Ledger.ofSearch search).run happenings).given = subscriptions happenings :=
  (Ledger.given_run _ happenings).trans (Nat.zero_add _)

/-- The id that is given out after a run is that of the number of subscriptions in it. -/
theorem subscribe_run (search : Search) (happenings : List Happening) :
    ((ofSearch search).run happenings).subscribe.1 = .ofNumber (subscriptions happenings) := by
  rw [← ledger_run, ← given_ledger_run search happenings]
  rfl

theorem subscriptions_append (before after : List Happening) :
    subscriptions (before ++ after) = subscriptions before + subscriptions after := by
  induction before with
  | nil => exact (Nat.zero_add _).symm
  | cons happening rest ih =>
    rw [List.cons_append, subscriptions_cons, ih, subscriptions_cons, Nat.add_assoc]

/-- What a listener heard of a run by the ledger: everything that was announced from its
subscription to the removal of its id. -/
theorem heardBy_ledger_run (search : Search) (before after : List Happening) :
    ((Ledger.ofSearch search).run (before ++ .subscribe :: after)).heardBy (subscriptions before) =
      announced ((ofSearch search).run before).search
        (after.takeWhile fun happening =>
          !happening.removes (.ofNumber (subscriptions before))) := by
  have hgiven := given_ledger_run search before
  have hpresent : subscriptions before ∈
      ((Ledger.ofSearch search).run before).subscribe.present :=
    List.mem_append_right _ (List.mem_singleton.2 hgiven.symm)
  have hnothing : ((Ledger.ofSearch search).run before).subscribe.heardBy
      (subscriptions before) = [] := by
    rw [← hgiven]
    exact Ledger.heardBy_given _
  rw [Ledger.run_append, Ledger.run_cons]
  show (((Ledger.ofSearch search).run before).subscribe.run after).heardBy _ = _
  rw [Ledger.heardBy_run hpresent, hnothing, List.nil_append, ← ledger_run]
  rfl

/-- Whose subscription is removed if it is asked for. -/
theorem unsubscribe_run_eq_true_iff (search : Search) (happenings : List Happening)
    (id : ListenerId) :
    (((ofSearch search).run happenings).unsubscribe id).1 = true ↔
      ∃ before after, happenings = before ++ .subscribe :: after ∧
        ((ofSearch search).run before).subscribe.1 = id ∧ .unsubscribe id ∉ after := by
  show (((ofSearch search).run happenings).listeners.unsubscribe id).1 = true ↔ _
  rw [Listeners.unsubscribe_eq_true_iff, ← ledger_run]
  show id ∈ ((Ledger.ofSearch search).run happenings).present.map ListenerId.ofNumber ↔ _
  simp only [List.mem_map, Ledger.mem_present_run, subscribe_run]
  constructor
  · rintro ⟨_, ⟨before, after, hsplit, rfl, hstay⟩, rfl⟩
    exact ⟨before, after, hsplit, rfl, hstay⟩
  · rintro ⟨before, after, hsplit, rfl, hstay⟩
    exact ⟨_, ⟨before, after, hsplit, rfl, hstay⟩, rfl⟩

/-- **The law of listeners.**  Take any run of a session that nobody listens to at first.  Each
listener, known in the ledger by the number of subscriptions before its own, heard exactly what
was announced between its subscription and the first removal of its id, or the end of the run:
one pair after the other, each of a change and the part it belongs to by `Change.scope`.  Fields
that come, go or are replaced belong to the fields, and filters likewise; facets that are counted
again belong to the filters too.  A selection belongs to the selection of its filter, a sort to
the sort of its field, a query to the query, the loading mark to loading; results that come or are
replaced, and a failed fetch, belong to the results.  If the run has no more
subscriptions than there are ids, this is what the journal holds under the id of the listener,
and no two subscriptions were given the same id.  Whatever the number of subscriptions, an id
can be unsubscribed exactly if it was given to someone and not removed since. -/
theorem delivery (search : Search) (happenings : List Happening) :
    let session := (ofSearch search).run happenings
    let ledger := (Ledger.ofSearch search).run happenings
    ledger.session = session ∧
      (∀ before after, happenings = before ++ .subscribe :: after →
        let joined := (ofSearch search).run before
        let stay := after.takeWhile fun happening => !happening.removes joined.subscribe.1
        ledger.heardBy (subscriptions before) = announced joined.search stay ∧
          Event.Paired (announced joined.search stay) ∧
          (subscriptions happenings ≤ UInt64.size →
            session.listeners.heardBy joined.subscribe.1 = announced joined.search stay)) ∧
      (subscriptions happenings ≤ UInt64.size → ∀ before between after,
        happenings = before ++ .subscribe :: (between ++ .subscribe :: after) →
        ((ofSearch search).run before).subscribe.1 ≠
          ((ofSearch search).run (before ++ .subscribe :: between)).subscribe.1) ∧
      ∀ id, (session.unsubscribe id).1 = true ↔
        ∃ before after, happenings = before ++ .subscribe :: after ∧
          ((ofSearch search).run before).subscribe.1 = id ∧ .unsubscribe id ∉ after := by
  intro session ledger
  refine ⟨ledger_run search happenings, ?_, ?_, unsubscribe_run_eq_true_iff search happenings⟩
  · rintro before after rfl joined stay
    have hid : joined.subscribe.1 = .ofNumber (subscriptions before) := subscribe_run search before
    have hheard : ledger.heardBy (subscriptions before) = announced joined.search stay := by
      simp only [stay, hid]
      exact heardBy_ledger_run search before after
    refine ⟨hheard, paired_announced _ _, fun hroom => ?_⟩
    have hgiven : ledger.given = subscriptions (before ++ .subscribe :: after) :=
      given_ledger_run search _
    have hbelow : subscriptions before < ledger.given := by
      rw [hgiven, subscriptions_append, subscriptions_cons]
      exact Nat.lt_add_of_pos_right (Nat.add_pos_left Nat.one_pos _)
    have hsession : ledger.session = session := ledger_run search _
    rw [← hsession, hid, Ledger.heardBy_session (hgiven ▸ hroom) hbelow, hheard]
  · rintro hroom before between after rfl hsame
    rw [subscribe_run, subscribe_run] at hsame
    simp only [subscriptions_append, subscriptions_cons, Happening.subscriptions] at hroom hsame
    have hnumbers := ListenerId.ofNumber_inj (by omega) (by omega) hsame
    omega

/-- The second of two listeners comes before a fetch that fails, and the first is gone after it.
Between them they hear of changes in every part of the search. -/
theorem delivery_of_two :
    let down : Transport := fun _ => .error ["down"]
    let first : List Happening := [.call (.replaceFields []), .call (.pushField (.ofName "title")),
      .call (.sort "title" .asc), .call (.replaceFilters []),
      .call (.pushFilter (.ofKind "tags" (.term .default))),
      .call (.select "tags" [.term (.text "a")] false), .call (.ask (.text "w"))]
    let both : List Happening :=
      [.fetch (fun _ => true) (fun _ => true) down none .replace, .call (.addResults [])]
    let second : List Happening := [.call (.replaceResults []),
      .call (.absorb (fun _ => true) (Response.toJson ⟨⟨0, []⟩, [], false, none⟩) .append),
      .call (.eraseField "title"), .call (.eraseFilter "tags")]
    let happenings := .subscribe :: (first ++ .subscribe :: (both ++ .unsubscribe ⟨0⟩ :: second))
    let session := (ofSearch .new).run happenings
    let pair (change : Change) (scope : Scope) : List Event := [.specific change, .changed scope]
    let fetched := pair (.loadingChanged true) .loading ++ pair (.loadingChanged false) .loading ++
      pair (.fetchFailed "down") .results ++ pair (.resultsAdded 0 0) .results
    subscriptions happenings ≤ UInt64.size ∧
      session.listeners.heardBy ⟨0⟩ = pair (.fieldsReset []) .fields ++
        pair (.fieldAdded "title" 0) .fields ++
        pair (.sortChanged "title" none .asc) (.sort "title") ++
        pair (.filtersReset []) .filters ++ pair (.filterAdded "tags" 0) .filters ++
        pair (.selectionChanged "tags" [] [.term (.text "a")]) (.selection "tags") ++
        pair (.queryChanged .empty (.text "w")) .query ++ fetched ∧
      session.listeners.heardBy ⟨1⟩ = fetched ++ pair (.resultsReset 0) .results ++
        pair (.facetsRefreshed "tags" 0) .filters ++ pair (.resultsAdded 0 0) .results ++
        pair (.fieldRemoved "title" 0) .fields ++ pair (.filterRemoved "tags" 0) .filters ∧
      ((ofSearch .new).run []).subscribe.1 ≠
        ((ofSearch .new).run (.subscribe :: first)).subscribe.1 ∧
      (session.unsubscribe ⟨1⟩).1 = true := by
  intro down first both second happenings session pair fetched
  have hroom : subscriptions happenings ≤ UInt64.size := by decide
  obtain ⟨-, hheard, happart, hthere⟩ := delivery .new happenings
  refine ⟨hroom, (hheard [] _ rfl).2.2 hroom, (hheard (.subscribe :: first) _ rfl).2.2 hroom,
    happart hroom [] first _ rfl, (hthere ⟨1⟩).2 ?_⟩
  refine ⟨.subscribe :: first, _, rfl, rfl, ?_⟩
  simp [both, second, ListenerId.mk.injEq]

end Session
end FacetedSearch
