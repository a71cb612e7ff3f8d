import FacetedSearch.Search.Fields
import FacetedSearch.Search.Filters
import FacetedSearch.Search.Responses
import FacetedSearch.Session

/-!
# Operations, and what a refused one leaves behind

`Call` lists the operations that change a search, each with what it is given, so that a
statement about every operation is a statement about every call.  Operations answer with
different things; `Call.Answer` says with what.

An operation ends in one of three ways.  It refuses, which leaves the search behind as it was and
announces nothing; or it answers in silence; or it announces changes, each for the part of the
search that it belongs to.  What it does after its
last check is one of the latter two, and neither fails, although some operations check many
items and rewrite many others.  So an operation that fails has changed nothing: a reply is
*atomic* over a search if its only way to fail is to refuse.

* `Call`, `Call.reply`: the operations as data;
* `Change.scope`: which part of a search a change belongs to;
* `Reply.Plain`, `Call.plain_reply`: the ways in which an operation ends;
* `Reply.Atomic`, `Call.atomic_reply`: failing is refusing;
* `Session.perform_of_error`: a failed operation leaves the session as it was.
-/

namespace FacetedSearch

/-- The operations that change a search, with what they are given.  Selecting one value is
selecting a list of one. -/
inductive Call where
  | resizePages (pageLength : UInt64)
  | withOptions (options : RequestOptions)
  | ask (query : Query)
  | askJson (document : Json)
  | replaceFields (fields : List Field)
  | pushField (field : Field)
  | eraseField (name : String)
  | sort (name : String) (direction : Direction)
  | sortAscending (name : String)
  | flipSort (name : Option String)
  | replaceFilters (filters : List Filter)
  | pushFilter (filter : Filter)
  | eraseFilter (name : String)
  | select (name : String) (values : List FacetValue) (silent : Bool)
  | selectIds (name : String) (ids : List String) (silent : Bool)
  | clearSelection (name : String) (silent : Bool)
  | replaceResults (results : List SearchResult)
  | addResults (results : List SearchResult)
  | readResults (response : Response)
  | absorb (flags : Flags) (document : Json) (mode : ResultMode)

namespace Call

/-- What an operation answers with. -/
def Answer : Call → Type
  | .eraseField _ => Field
  | .eraseFilter _ => Filter
  | .sort _ _ | .sortAscending _ => Direction
  | .flipSort _ => Option Direction
  | .readResults _ => List SearchResult
  | _ => Unit

/-- The reply of a search to an operation. -/
def reply : (call : Call) → Search → Reply call.Answer
  | .resizePages pageLength, search => search.resizePages pageLength
  | .withOptions options, search => .quiet (search.withOptions options) ()
  | .ask query, search => search.ask query
  | .askJson document, search => search.askJson document
  | .replaceFields fields, search => search.replaceFields fields
  | .pushField field, search => search.pushField field
  | .eraseField name, search => search.eraseField name
  | .sort name direction, search => search.sort name direction
  | .sortAscending name, search => search.sortAscending name
  | .flipSort name, search => search.flipSort name
  | .replaceFilters filters, search => search.replaceFilters filters
  | .pushFilter filter, search => search.pushFilter filter
  | .eraseFilter name, search => search.eraseFilter name
  | .select name values silent, search => search.select name values silent
  | .selectIds name ids silent, search => search.selectIds name ids silent
  | .clearSelection name silent, search => search.clearSelection name silent
  | .replaceResults results, search => search.replaceResults results
  | .addResults results, search => search.addResults results
  | .readResults response, search => search.readResults response
  | .absorb flags document mode, search => search.absorb flags document mode

end Call

/-- The part of a search that a change belongs to. -/
def Change.scope : Change → Scope
  | .fieldAdded .. | .fieldRemoved .. | .fieldsReset .. => .fields
  | .filterAdded .. | .filterRemoved .. | .filtersReset .. | .facetsRefreshed .. => .filters
  | .selectionChanged filter .. => .selection filter
  | .sortChanged field .. => .sort field
  | .queryChanged .. => .query
  | .resultsReset .. | .resultsAdded .. | .fetchFailed .. => .results
  | .loadingChanged .. => .loading

/-- The change is announced for the part that it belongs to. -/
def Announcement.Fits (announcement : Announcement) : Prop :=
  announcement.scope = announcement.change.scope

namespace Reply

variable {α β : Type} {search : Search}

/-- The ways in which an operation ends. -/
inductive Plain (search : Search) : Reply α → Prop where
  | refuse (error : SearchError) : Plain search (.refuse search error)
  | quiet (after : Search) (answer : α) : Plain search (.quiet after answer)
  | announce (after : Search) (answer : α) {announcements : List Announcement}
      (hfit : ∀ announcement ∈ announcements, announcement.Fits) :
      Plain search (.announce after answer announcements)

/-- One change is announced for the part that it belongs to. -/
theorem Plain.announceOne (after : Search) (answer : α) {change : Change} {scope : Scope}
    (h : scope = change.scope) : Plain search (.announce after answer [⟨change, scope⟩]) :=
  .announce after answer (List.forall_mem_singleton.2 h)

/-- The only way to fail is to refuse. -/
def Atomic (search : Search) (reply : Reply α) : Prop :=
  ∀ error, reply.answer = .error error → reply = .refuse search error

theorem Plain.atomic {reply : Reply α} (h : reply.Plain search) : reply.Atomic search := by
  intro error herror
  cases h with
  | refuse other => rw [Except.error.inj herror]
  | quiet after answer => cases herror
  | announce after answer hfit => cases herror

/-- Answering with something else ends in the same way. -/
theorem Plain.map {reply : Reply α} (h : reply.Plain search) (f : α → β) :
    Plain search ⟨reply.answer.map f, reply.search, reply.events⟩ := by
  cases h with
  | refuse error => exact .refuse error
  | quiet after answer => exact .quiet after (f answer)
  | announce after answer hfit => exact .announce after (f answer) hfit

end Reply

namespace Search

variable (search : Search)

/-! ## Settings and results -/

theorem plain_resizePages (pageLength : UInt64) :
    (search.resizePages pageLength).Plain search := by
  unfold resizePages
  split
  · exact .refuse _
  · exact .quiet _ _

theorem plain_ask (query : Query) : (search.ask query).Plain search := by
  unfold ask
  split
  · exact .quiet _ _
  · exact .announceOne _ _ rfl

theorem plain_askJson (document : Json) : (search.askJson document).Plain search := by
  unfold askJson
  split
  · exact search.plain_ask _
  · exact .refuse _

/-- Listeners hear of the filters and of the results at once. -/
theorem plain_absorbDecoded (response : Response) (filters : List Filter) (mode : ResultMode) :
    (search.absorbDecoded response filters mode).Plain search := by
  have hjoined : ∀ (after : Search) (change : Change), Scope.results = change.scope →
      Reply.Plain search ⟨.ok (), after,
        (filters.map fun filter =>
          (⟨.facetsRefreshed filter.name filter.available.length, .filters⟩ : Announcement)).flatMap
            Announcement.events ++
        [(⟨change, .results⟩ : Announcement)].flatMap Announcement.events⟩ := by
    intro after change hchange
    rw [← List.flatMap_append]
    refine .announce after () fun announcement hmem => ?_
    rcases List.mem_append.1 hmem with hfilter | hresults
    · obtain ⟨filter, -, rfl⟩ := List.mem_map.1 hfilter
      rfl
    · rw [List.mem_singleton.1 hresults]
      exact hchange
  unfold absorbDecoded
  cases mode with
  | replace => exact hjoined _ _ rfl
  | append => exact hjoined _ _ rfl

/-- One section that cannot be read refuses the response for every filter. -/
theorem plain_absorb (flags : Flags) (document : Json) (mode : ResultMode) :
    (search.absorb flags document mode).Plain search := by
  unfold absorb
  split
  · exact .refuse _
  · split
    · exact .refuse _
    · exact search.plain_absorbDecoded _ _ mode

/-! ## Fields -/

theorem plain_replaceFields (fields : List Field) :
    (search.replaceFields fields).Plain search := by
  unfold replaceFields
  split
  · exact .refuse _
  · split
    · exact .refuse _
    · exact .announceOne _ _ rfl

theorem plain_pushField (field : Field) : (search.pushField field).Plain search := by
  unfold pushField
  split
  · exact .refuse _
  · split
    · exact .refuse _
    · exact .announceOne _ _ rfl

theorem plain_eraseField (name : String) : (search.eraseField name).Plain search := by
  unfold eraseField
  split
  · exact .refuse _
  · exact .announceOne _ _ rfl

theorem plain_sortOn (field : Field) (direction : Direction) :
    (search.sortOn field direction).Plain search := by
  unfold sortOn
  dsimp only
  split
  · exact .quiet _ _
  · exact .announceOne _ _ rfl

theorem plain_sort (name : String) (direction : Direction) :
    (search.sort name direction).Plain search := by
  unfold sort
  split
  · exact .refuse _
  · exact search.plain_sortOn _ direction

theorem plain_flipSort (name : Option String) : (search.flipSort name).Plain search := by
  unfold flipSort
  split
  · exact .quiet _ _
  · split
    · exact .refuse _
    · exact (search.plain_sortOn _ _).map some

/-! ## Filters -/

theorem plain_replaceFilters (filters : List Filter) :
    (search.replaceFilters filters).Plain search := by
  unfold replaceFilters
  split
  · exact .refuse _
  · split
    · exact .refuse _
    · exact .announceOne _ _ rfl

theorem plain_pushFilter (filter : Filter) : (search.pushFilter filter).Plain search := by
  unfold pushFilter
  split
  · exact .refuse _
  · split
    · exact .refuse _
    · exact .announceOne _ _ rfl

theorem plain_eraseFilter (name : String) : (search.eraseFilter name).Plain search := by
  unfold eraseFilter
  split
  · exact .refuse _
  · exact .announceOne _ _ rfl

theorem plain_withSelection (filter : Filter) (previous : List FacetValue) (silent : Bool) :
    (search.withSelection filter previous silent).Plain search := by
  unfold withSelection
  dsimp only
  split
  · exact .quiet _ _
  · exact .announceOne _ _ rfl

theorem plain_select (name : String) (values : List FacetValue) (silent : Bool) :
    (search.select name values silent).Plain search := by
  unfold select
  split
  · exact .refuse _
  · split
    · exact .refuse _
    · exact search.plain_withSelection _ _ silent

theorem plain_selectIds (name : String) (ids : List String) (silent : Bool) :
    (search.selectIds name ids silent).Plain search := by
  unfold selectIds
  split
  · exact .refuse _
  · exact search.plain_select name _ silent

theorem plain_clearSelection (name : String) (silent : Bool) :
    (search.clearSelection name silent).Plain search := by
  unfold clearSelection
  split
  · exact .refuse _
  · exact search.plain_withSelection _ _ silent

end Search

namespace Call

/-- **Every operation refuses, answers in silence, or announces changes.** -/
theorem plain_reply (call : Call) (search : Search) : (call.reply search).Plain search := by
  cases call with
  | resizePages pageLength => exact search.plain_resizePages pageLength
  | withOptions options => exact .quiet _ _
  | ask query => exact search.plain_ask query
  | askJson document => exact search.plain_askJson document
  | replaceFields fields => exact search.plain_replaceFields fields
  | pushField field => exact search.plain_pushField field
  | eraseField name => exact search.plain_eraseField name
  | sort name direction => exact search.plain_sort name direction
  | sortAscending name => exact search.plain_sort name .asc
  | flipSort name => exact search.plain_flipSort name
  | replaceFilters filters => exact search.plain_replaceFilters filters
  | pushFilter filter => exact search.plain_pushFilter filter
  | eraseFilter name => exact search.plain_eraseFilter name
  | select name values silent => exact search.plain_select name values silent
  | selectIds name ids silent => exact search.plain_selectIds name ids silent
  | clearSelection name silent => exact search.plain_clearSelection name silent
  | replaceResults results => exact .announceOne _ _ rfl
  | addResults results => exact .announceOne _ _ rfl
  | readResults response => exact .quiet _ _
  | absorb flags document mode => exact search.plain_absorb flags document mode

/-- **Every operation fails only by refusing.** -/
theorem atomic_reply (call : Call) (search : Search) : (call.reply search).Atomic search :=
  (call.plain_reply search).atomic

end Call

namespace Session

/-- Nothing is announced, so nobody hears anything. -/
theorem advance_nil (session : Session) : session.advance session.search [] = session := by
  unfold advance Listeners.deliver
  simp only [List.flatMap_nil, List.append_nil]

/-- **A failed operation changes nothing**: the session goes on with the same search, the
same listeners, and nothing more in what they heard. -/
theorem perform_of_error {session : Session} {call : Call} {error : SearchError}
    (h : (session.perform call.reply).1 = .error error) :
    (session.perform call.reply).2 = session := by
  have hreply : call.reply session.search = .refuse session.search error :=
    call.atomic_reply session.search error h
  show session.advance (call.reply session.search).search (call.reply session.search).events =
    session
  rw [hreply]
  exact session.advance_nil

/-- The second of two filters finds no list of terms in its section, and a listener waits. -/
theorem perform_of_error_absorb :
    let filters : List Filter :=
      [.ofKind "author" (.term .default), .ofKind "year" (.numeric .default)]
    let session : Session := ⟨{ Search.new with filters := ⟨filters⟩ }, ⟨1, [⟨0⟩], []⟩⟩
    let document := Json.obj [("hits", .obj [("total", .int 3)]),
      ("facets", .obj [("author", .obj [("terms", .arr [])]), ("year", .null)])]
    let call : Call := .absorb (fun _ => false) document .replace
    (session.perform call.reply).1 = .error (.malformedResponse (.termsSection "year")) ∧
      (session.perform call.reply).2 = session := by
  intro filters session document call
  have h : (session.perform call.reply).1 = .error (.malformedResponse (.termsSection "year")) :=
    rfl
  exact ⟨h, perform_of_error h⟩

end Session
end FacetedSearch
