import FacetedSearch.Proofs.Search.Call

/-!
# Changes are announced in pairs

A listener that redraws whole parts of a search waits for the events that name a part, and one
that follows changes looks at the specific ones.  Neither could do with a list in which the two
do not belong together.  What an operation announces is one pair after the other: a change, and
then the part that it belongs to.

An operation refuses, answers in silence or announces changes, and announcing several changes
keeps each with its own part.  What has to be followed is a fetch, whose beginning, end and
failure are announced around what it brought, unless it is broken off.

* `Event.Paired`: one pair after the other;
* `Reply.Plain.paired`, `Search.paired_fetch`, `Search.paired_recount`: what is announced.
-/

namespace FacetedSearch

/-- One change after the other, each followed by the part that it belongs to. -/
def Event.Paired (events : List Event) : Prop :=
  ∃ changes : List Change,
    events = changes.flatMap fun change => [.specific change, .changed change.scope]

namespace Event.Paired

theorem nil : Paired [] := ⟨[], rfl⟩

theorem announcements {announcements : List Announcement}
    (h : ∀ announcement ∈ announcements, announcement.Fits) :
    Paired (announcements.flatMap Announcement.events) := by
  refine ⟨announcements.map Announcement.change, ?_⟩
  rw [List.flatMap_map]
  exact congrArg List.flatten (List.map_congr_left fun announcement hmem => by
    rw [Announcement.events, h announcement hmem])

theorem announcement {announcement : Announcement} (h : announcement.Fits) :
    Paired announcement.events :=
  ⟨[announcement.change], by rw [Announcement.events, h]; rfl⟩

theorem append {events more : List Event} (h : Paired events) (hmore : Paired more) :
    Paired (events ++ more) := by
  obtain ⟨before, rfl⟩ := h
  obtain ⟨after, rfl⟩ := hmore
  exact ⟨before ++ after, List.flatMap_append.symm⟩

end Event.Paired

/-- What an operation announces is one pair for each change. -/
theorem Reply.Plain.paired {α : Type} {search : Search} {reply : Reply α}
    (h : reply.Plain search) : Event.Paired reply.events := by
  cases h with
  | refuse error => exact .nil
  | quiet after answer => exact .nil
  | announce after answer hfit => exact .announcements hfit

namespace Search

open Event

variable (search : Search)

theorem plain_markLoading (loading : Bool) : (search.markLoading loading).Plain search := by
  unfold markLoading
  split
  · exact .quiet _ _
  · exact .announceOne _ _ rfl

theorem paired_receive (flags : Flags) (mode : ResultMode)
    (brought : Except (List String) Json) :
    Paired (search.receive flags mode brought).2.2 := by
  cases brought with
  | error chain => exact .nil
  | ok document => exact (search.plain_absorb flags document mode).paired

/-- The end of a fetch is announced with its failure, or not at all. -/
theorem paired_conclude (outcome : Except FetchError Unit) :
    Paired (search.conclude outcome).2 := by
  have hended := (search.plain_markLoading false).paired
  unfold conclude
  cases outcome with
  | ok answer => exact hended
  | error error =>
    dsimp only
    split
    · exact .nil
    · exact hended.append (.announcement rfl)

/-- **A fetch announces pairs**: that it begins, what it brought, that it ends, and its failure. -/
theorem paired_fetch (flags later : Flags) (transport : Transport) (window : Option Window)
    (mode : ResultMode) : Paired (search.fetch flags later transport window mode).events := by
  unfold fetch
  split
  · exact .nil
  · next request _ =>
    have hbegan := (search.plain_markLoading true).paired
    have hbrought :=
      (search.markLoading true).search.paired_receive later mode (transport request)
    exact (hbegan.append hbrought).append (paired_conclude _ _)

theorem paired_recount (flags later : Flags) (transport : Transport) (name : String) :
    Paired (search.recount flags later transport name).events := by
  unfold recount
  split
  · exact .nil
  · split
    · exact .nil
    · exact .announcement rfl

end Search

end FacetedSearch
