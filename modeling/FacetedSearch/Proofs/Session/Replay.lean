import FacetedSearch.Proofs.Search.Absorb
import FacetedSearch.Proofs.Search.Rest
import FacetedSearch.Proofs.Session.Mirror
import FacetedSearch.Proofs.Session.Run

/-!
# Keeping up with a search

A listener that saw the search when it was subscribed can tell from what it hears how the
search looks, at any time and whatever was done: which fields and filters there are, in which
order, what is selected, what is searched for, how many results are held and whether a request
is under way.  And what each change says about the state before it agrees with that.  Two
things are not announced, and must not happen: that a selection is changed silently, and that
a filter comes with a selection.

## One step

Each operation is taken by itself, on the mirror that is right before it.  Those that refuse
or change nothing that is shown announce nothing.  Where an item is added or removed the index
that is announced is the place in the list of names, and where the selection of a filter
changes, the filter is the only one of its name, so the mirror finds its selection under that
name.  A selection that is equal by value to the one before is stored without a word, and then
the two can differ in the signs of zeros; so the mirror is right but for these
(`Session.mirror_misses_zero_sign`).

A fetch is followed in four parts: its beginning, what is taken over, its end and its failure.

* `Search.tracks_ask`, …, `Call.tracks_reply`: one operation;
* `Happening.Audible`, `Happening.tracks_announced`: whatever can be heard can be followed;
* `Session.tracks_run`: a run can be followed;
* `Session.mirror_keeps_up`: so can what one listener hears of it.
-/

namespace FacetedSearch
namespace Search

open Mirror

variable {search : Search}

/-! ## One operation -/

/-- One change that is announced is followed if it fits. -/
theorem tracks_announce {α : Type} {after : Search} {answer : α} {change : Change}
    {scope : Scope} (hfits : search.mirror.Fits change)
    (h : (search.mirror.hear change).Alike after.mirror) :
    search.mirror.Tracks (Reply.announce after answer [⟨change, scope⟩]).events after.mirror :=
  .change hfits h

section

variable (search : Search)

theorem tracks_resizePages (pageLength : UInt64) :
    search.mirror.Tracks (search.resizePages pageLength).events
      (search.resizePages pageLength).search.mirror := by
  unfold resizePages
  split
  · exact .nil (.refl _)
  · exact .nil (.refl _)

theorem tracks_ask (query : Query) :
    search.mirror.Tracks (search.ask query).events (search.ask query).search.mirror := by
  unfold ask
  split
  · exact .nil (.refl _)
  · exact tracks_announce rfl (.refl _)

theorem tracks_askJson (document : Json) :
    search.mirror.Tracks (search.askJson document).events
      (search.askJson document).search.mirror := by
  unfold askJson
  split
  · exact search.tracks_ask _
  · exact .nil (.refl _)

theorem tracks_markLoading (loading : Bool) :
    search.mirror.Tracks (search.markLoading loading).events
      (search.markLoading loading).search.mirror := by
  unfold markLoading
  split
  · exact .nil (.refl _)
  · exact tracks_announce trivial (.refl _)

theorem tracks_replaceResults (results : List SearchResult) :
    search.mirror.Tracks (search.replaceResults results).events
      (search.replaceResults results).search.mirror :=
  tracks_announce trivial (.refl _)

theorem tracks_addResults (results : List SearchResult) :
    search.mirror.Tracks (search.addResults results).events
      (search.addResults results).search.mirror := by
  refine tracks_announce rfl { Alike.refl _ with results := ?_ }
  exact List.length_append.symm

/-! ## Fields -/

theorem name_clearSortExcept (name : String) (field : Field) :
    (clearSortExcept name field).name = field.name := by
  unfold clearSortExcept
  split <;> rfl

theorem tracks_replaceFields (fields : List Field) :
    search.mirror.Tracks (search.replaceFields fields).events
      (search.replaceFields fields).search.mirror := by
  unfold replaceFields
  split
  · exact .nil (.refl _)
  · split
    · exact .nil (.refl _)
    · exact tracks_announce trivial (.refl _)

theorem tracks_pushField (field : Field) :
    search.mirror.Tracks (search.pushField field).events
      (search.pushField field).search.mirror := by
  unfold pushField
  split
  · exact .nil (.refl _)
  · split
    · exact .nil (.refl _)
    · next fields hpush =>
      obtain ⟨-, rfl⟩ := Catalog.push?_eq_ok_iff.1 hpush
      have hnames : (⟨search.fields.items ++ [field]⟩ : Catalog Field).names =
          search.fields.names ++ [field.name] := List.map_append
      have hindex : search.fields.size = search.fields.names.length := (List.length_map _).symm
      refine tracks_announce hindex { Alike.refl _ with fields := ?_ }
      show search.fields.names.insertIdx search.fields.size field.name = Catalog.names _
      rw [hindex, List.insertIdx_length_self, ← hnames]
      split
      · exact (Catalog.names_map fun other _ => name_clearSortExcept field.name other).symm
      · rfl

theorem tracks_eraseField (name : String) :
    search.mirror.Tracks (search.eraseField name).events
      (search.eraseField name).search.mirror := by
  unfold eraseField
  split
  · exact .nil (.refl _)
  · next index field fields hremove =>
    obtain ⟨hindex, hitems⟩ := Catalog.remove?_eq_some hremove
    refine tracks_announce hindex { Alike.refl _ with fields := ?_ }
    show search.fields.names.eraseIdx index = fields.names
    rw [Catalog.names, Catalog.names, hitems, List.eraseIdx_map]

theorem tracks_sortOn (field : Field) (direction : Direction) :
    search.mirror.Tracks (search.sortOn field direction).events
      (search.sortOn field direction).search.mirror := by
  have hnames : (search.fields.map (sortOnly field.name direction)).names = search.fields.names :=
    Catalog.names_map fun _ _ => rfl
  have hsame : search.mirror.Alike ({ search with
      fields := search.fields.map (sortOnly field.name direction) } : Search).mirror :=
    { Alike.refl _ with fields := hnames.symm }
  unfold sortOn
  dsimp only
  split
  · exact .nil hsame
  · exact tracks_announce trivial hsame

theorem tracks_sort (name : String) (direction : Direction) :
    search.mirror.Tracks (search.sort name direction).events
      (search.sort name direction).search.mirror := by
  unfold sort
  split
  · exact .nil (.refl _)
  · exact search.tracks_sortOn _ direction

theorem tracks_flipSort (name : Option String) :
    search.mirror.Tracks (search.flipSort name).events (search.flipSort name).search.mirror := by
  unfold flipSort
  split
  · exact .nil (.refl _)
  · split
    · exact .nil (.refl _)
    · exact search.tracks_sortOn _ _

/-! ## Filters -/

/-- Filters in which nothing is selected are shown by their names. -/
theorem map_shown_of_unselected {filters : List Filter}
    (h : ∀ filter ∈ filters, filter.selected = []) :
    filters.map Filter.shown = (filters.map Filter.name).map fun name => (name, []) := by
  rw [List.map_map]
  refine List.map_congr_left fun filter hfilter => ?_
  rw [Filter.shown, h filter hfilter]
  rfl

theorem keys_map_shown (filters : List Filter) :
    Assoc.keys (filters.map Filter.shown) = filters.map Filter.name := by
  rw [Assoc.keys, List.map_map]
  rfl

theorem tracks_replaceFilters {filters : List Filter}
    (hnone : ∀ filter ∈ filters, filter.selected = []) :
    search.mirror.Tracks (search.replaceFilters filters).events
      (search.replaceFilters filters).search.mirror := by
  unfold replaceFilters
  split
  · exact .nil (.refl _)
  · split
    · exact .nil (.refl _)
    · next catalog hcatalog =>
      obtain ⟨-, rfl⟩ := Catalog.ofList?_eq_ok_iff.1 hcatalog
      refine tracks_announce trivial { Alike.refl _ with filters := ?_ }
      exact congrArg unsigned (map_shown_of_unselected hnone).symm

theorem tracks_pushFilter {filter : Filter} (hnone : filter.selected = []) :
    search.mirror.Tracks (search.pushFilter filter).events
      (search.pushFilter filter).search.mirror := by
  unfold pushFilter
  split
  · exact .nil (.refl _)
  · split
    · exact .nil (.refl _)
    · next filters hpush =>
      obtain ⟨-, rfl⟩ := Catalog.push?_eq_ok_iff.1 hpush
      have hindex : search.filters.size = (search.filters.items.map Filter.shown).length :=
        (List.length_map _).symm
      have hshown : filter.shown = (filter.name, []) := congrArg (Prod.mk filter.name) hnone
      refine tracks_announce hindex { Alike.refl _ with filters := congrArg unsigned ?_ }
      show List.insertIdx (search.filters.items.map Filter.shown) search.filters.size
        (filter.name, []) = (search.filters.items ++ [filter]).map Filter.shown
      rw [hindex, List.insertIdx_length_self, List.map_append, List.map_singleton, hshown]

theorem tracks_eraseFilter (name : String) :
    search.mirror.Tracks (search.eraseFilter name).events
      (search.eraseFilter name).search.mirror := by
  unfold eraseFilter
  split
  · exact .nil (.refl _)
  · next index filter filters hremove =>
    obtain ⟨hindex, hitems⟩ := Catalog.remove?_eq_some hremove
    refine tracks_announce ?_ { Alike.refl _ with filters := congrArg unsigned ?_ }
    · show (Assoc.keys (search.filters.items.map Filter.shown))[index]? = some name
      rw [keys_map_shown]
      exact hindex
    · show List.eraseIdx (search.filters.items.map Filter.shown) index =
        filters.items.map Filter.shown
      rw [hitems, List.eraseIdx_map]

end

/-! ## Selections -/

theorem get?_map_shown {filters : List Filter} {filter : Filter}
    (hnames : (filters.map Filter.name).Nodup) (h : filter ∈ filters) :
    Assoc.get? filter.name (filters.map Filter.shown) = some filter.selected :=
  Assoc.get?_of_mem (keys_map_shown filters ▸ hnames) (List.mem_map.2 ⟨filter, h, rfl⟩)

/-- A filter in the place of another shows its own selection there. -/
theorem map_shown_update (filters : Catalog Filter) (filter : Filter) :
    (filters.update filter.name fun _ => filter).items.map Filter.shown =
      Assoc.mapValues (fun name held => if name = filter.name then filter.selected else held)
        (filters.items.map Filter.shown) := by
  unfold Catalog.update Catalog.map Assoc.mapValues
  rw [List.map_map, List.map_map]
  refine List.map_congr_left fun item _ => ?_
  show Filter.shown (if item.name = filter.name then filter else item) =
    (item.name, if item.name = filter.name then filter.selected else item.selected)
  by_cases hname : item.name = filter.name
  · rw [if_pos hname, if_pos hname, Filter.shown, hname]
  · rw [if_neg hname, if_neg hname, Filter.shown]

variable {held filter : Filter}

/-- A filter may take the place of another that shows the same. -/
theorem alike_update (hnames : search.filters.names.Nodup) (hheld : held ∈ search.filters.items)
    (hname : held.name = filter.name)
    (hselected : held.selected.map FacetValue.withoutZeroSigns =
      filter.selected.map FacetValue.withoutZeroSigns) :
    search.mirror.Alike
      ({ search with filters := search.filters.update filter.name fun _ => filter } :
        Search).mirror := by
  refine { Alike.refl _ with filters := ?_ }
  show unsigned (search.filters.items.map Filter.shown) =
    unsigned ((search.filters.update filter.name fun _ => filter).items.map Filter.shown)
  rw [map_shown_update, unsigned, unsigned, Assoc.mapValues_mapValues, Assoc.mapValues,
    Assoc.mapValues]
  refine List.map_congr_left fun entry hentry => ?_
  obtain ⟨item, hitem, rfl⟩ := List.mem_map.1 hentry
  by_cases hsame : item.name = filter.name
  · obtain rfl : item = held :=
      List.inj_on_of_nodup_map hnames hitem hheld (hsame.trans hname.symm)
    simp only [Filter.shown, hsame, if_true, hselected]
  · simp only [Filter.shown, hsame, if_false]

theorem tracks_withSelection (hnames : search.filters.names.Nodup)
    (hheld : held ∈ search.filters.items) (hname : held.name = filter.name) :
    search.mirror.Tracks (search.withSelection filter held.selected false).events
      (search.withSelection filter held.selected false).search.mirror := by
  unfold withSelection
  dsimp only
  split
  · next hsame =>
    rw [Bool.false_or] at hsame
    exact .nil (alike_update hnames hheld hname (FacetValue.map_withoutZeroSigns_of_sameValues hsame))
  · refine tracks_announce ?_ { Alike.refl _ with filters := congrArg unsigned ?_ }
    · show Assoc.get? filter.name (unsigned (search.filters.items.map Filter.shown)) = _
      rw [← hname, unsigned, Assoc.get?_mapValues, get?_map_shown hnames hheld]
      rfl
    · exact (map_shown_update search.filters filter).symm

theorem tracks_select (hnames : search.filters.names.Nodup) (name : String)
    (values : List FacetValue) :
    search.mirror.Tracks (search.select name values false).events
      (search.select name values false).search.mirror := by
  unfold select
  split
  · exact .nil (.refl _)
  · next held hheld =>
    split
    · exact .nil (.refl _)
    · next selecting hselect =>
      obtain ⟨accepted, -, rfl⟩ := Filter.select_eq_ok_iff.1 hselect
      exact tracks_withSelection hnames (filter_eq_ok hheld).1 rfl

theorem tracks_selectIds (hnames : search.filters.names.Nodup) (name : String)
    (ids : List String) :
    search.mirror.Tracks (search.selectIds name ids false).events
      (search.selectIds name ids false).search.mirror := by
  unfold selectIds
  split
  · exact .nil (.refl _)
  · exact tracks_select hnames name _

theorem tracks_clearSelection (hnames : search.filters.names.Nodup) (name : String) :
    search.mirror.Tracks (search.clearSelection name false).events
      (search.clearSelection name false).search.mirror := by
  unfold clearSelection
  split
  · exact .nil (.refl _)
  · next held hheld => exact tracks_withSelection hnames (filter_eq_ok hheld).1 rfl

/-! ## Responses -/

/-- What listeners hear of the facets of filters changes nothing that is shown. -/
theorem tracks_refreshed (mirror : Mirror) (filters : List Filter) :
    mirror.Tracks (filters.flatMap fun filter =>
      [.specific (.facetsRefreshed filter.name filter.available.length), .changed .filters])
      mirror := by
  induction filters with
  | nil => exact .nil (.refl _)
  | cons filter rest ih => exact Tracks.append (.change trivial (.refl _)) ih

theorem tracks_absorb (search : Search) (flags : Flags) (document : Json) (mode : ResultMode) :
    search.mirror.Tracks (search.absorb flags document mode).events
      (search.absorb flags document mode).search.mirror := by
  obtain ⟨error, hrefused⟩ | ⟨response, filters, -, hrefreshed, habsorbed⟩ :=
    absorb_cases flags search document mode
  · rw [hrefused]
    exact .nil (.refl _)
  · have hshown : filters.map Filter.shown = search.filters.items.map Filter.shown := by
      refine Fallible.map_eq_map_of_mapM hrefreshed fun filter next hnext => ?_
      obtain ⟨tally, -, rfl⟩ := Filter.refresh_eq_ok_iff.1 hnext
      rfl
    rw [habsorbed, absorbDecoded_eq]
    refine Tracks.append (tracks_refreshed _ filters) ?_
    cases mode with
    | replace =>
      exact .change trivial { Alike.refl _ with filters := congrArg unsigned hshown.symm }
    | append =>
      refine .change rfl { Alike.refl _ with filters := congrArg unsigned hshown.symm, results := ?_ }
      exact List.length_append.symm

theorem tracks_receive (search : Search) (flags : Flags) (mode : ResultMode)
    (brought : Except (List String) Json) :
    search.mirror.Tracks (search.receive flags mode brought).2.2
      (search.receive flags mode brought).2.1.mirror := by
  cases brought with
  | error chain => exact .nil (.refl _)
  | ok document => exact tracks_absorb search flags document mode

theorem tracks_conclude (search : Search) (outcome : Except FetchError Unit) :
    search.mirror.Tracks (search.conclude outcome).2 (search.conclude outcome).1.mirror := by
  unfold conclude
  cases outcome with
  | ok answer => exact search.tracks_markLoading false
  | error error =>
    dsimp only
    split
    · exact .nil (.refl _)
    · exact (search.tracks_markLoading false).append (.change trivial (.refl _))

theorem tracks_fetch (search : Search) (flags later : Flags) (transport : Transport)
    (window : Option Window) (mode : ResultMode) :
    search.mirror.Tracks (search.fetch flags later transport window mode).events
      (search.fetch flags later transport window mode).search.mirror := by
  unfold fetch
  split
  · exact .nil (.refl _)
  · next request _ =>
    have hreceived := tracks_receive (search.markLoading true).search later mode (transport request)
    exact ((search.tracks_markLoading true).append hreceived).append (tracks_conclude _ _)

theorem tracks_recount (hnames : search.filters.names.Nodup) (flags later : Flags)
    (transport : Transport) (name : String) :
    search.mirror.Tracks (search.recount flags later transport name).events
      (search.recount flags later transport name).search.mirror := by
  unfold recount
  split
  · exact .nil (.refl _)
  · split
    · exact .nil (.refl _)
    · next next hreceive =>
      obtain ⟨held, response, hfilter, hrefresh⟩ := receiveFacets_eq_ok hreceive
      obtain ⟨hheld, rfl⟩ := filter_eq_ok hfilter
      obtain ⟨tally, -, rfl⟩ := Filter.refresh_eq_ok_iff.1 hrefresh
      have hname : held.name = (held.withTally tally).name := rfl
      exact .change trivial (alike_update hnames hheld hname rfl)

end Search

/-! ## Every run -/

namespace Call

/-- Whether a selection is to be changed without a word. -/
def silent : Call → Bool
  | .select _ _ silent | .selectIds _ _ silent | .clearSelection _ silent => silent
  | _ => false

open Search

/-- **Every operation that can be heard can be followed.** -/
theorem tracks_reply {search : Search} (hnames : search.filters.names.Nodup) (call : Call)
    (haloud : call.silent = false) (hnone : ∀ filter ∈ call.filters, filter.selected = []) :
    search.mirror.Tracks (call.reply search).events (call.reply search).search.mirror := by
  cases call with
  | resizePages pageLength => exact search.tracks_resizePages pageLength
  | withOptions options => exact .nil (.refl _)
  | ask query => exact search.tracks_ask query
  | askJson document => exact search.tracks_askJson document
  | replaceFields fields => exact search.tracks_replaceFields fields
  | pushField field => exact search.tracks_pushField field
  | eraseField name => exact search.tracks_eraseField name
  | sort name direction => exact search.tracks_sort name direction
  | sortAscending name => exact search.tracks_sort name .asc
  | flipSort name => exact search.tracks_flipSort name
  | replaceFilters filters => exact search.tracks_replaceFilters hnone
  | pushFilter filter => exact search.tracks_pushFilter (hnone filter List.mem_cons_self)
  | eraseFilter name => exact search.tracks_eraseFilter name
  | select name values silent =>
    obtain rfl : silent = false := haloud
    exact tracks_select hnames name values
  | selectIds name ids silent =>
    obtain rfl : silent = false := haloud
    exact tracks_selectIds hnames name ids
  | clearSelection name silent =>
    obtain rfl : silent = false := haloud
    exact tracks_clearSelection hnames name
  | replaceResults results => exact search.tracks_replaceResults results
  | addResults results => exact search.tracks_addResults results
  | readResults response => exact .nil (.refl _)
  | absorb flags document mode => exact tracks_absorb search flags document mode

end Call

namespace Happening

/-- The filters that are handed over. -/
def filters : Happening → List Filter
  | .call operation => operation.filters
  | _ => []

/-- Whether a selection is to be changed without a word. -/
def silent : Happening → Bool
  | .call operation => operation.silent
  | _ => false

/-- No selection changes without a word, be it that it is to be silent or that a filter comes
with one. -/
structure Audible (happening : Happening) : Prop where
  aloud : happening.silent = false
  reachable : ∀ filter ∈ happening.filters, filter.Reachable
  unselected : ∀ filter ∈ happening.filters, filter.selected = []

variable {search : Search} {happening : Happening}

theorem audible_of_filters_eq_nil (haloud : happening.silent = false)
    (hnone : happening.filters = []) : happening.Audible :=
  ⟨haloud, fun _ h => absurd (hnone ▸ h) List.not_mem_nil,
    fun _ h => absurd (hnone ▸ h) List.not_mem_nil⟩

/-- Filters stay coherent whatever happens, also if a fetch is broken off. -/
theorem coherent_search (h : search.Coherent)
    (hfilters : ∀ filter ∈ happening.filters, filter.Reachable) :
    (happening.search search).Coherent := by
  cases happening with
  | call operation => exact Search.coherent_reply h operation hfilters
  | fetch flags later transport window mode =>
    exact Search.coherent_fetch h flags later transport window mode
  | recount flags later transport name =>
    exact Search.coherent_recount h flags later transport name
  | subscribe => exact h
  | unsubscribe id => exact h

/-- **Whatever can be heard can be followed.** -/
theorem tracks_announced (h : search.Coherent) (haudible : happening.Audible) :
    search.mirror.Tracks (happening.announced search) (happening.search search).mirror := by
  have hnames : search.filters.names.Nodup := h.names
  cases happening with
  | call operation => exact operation.tracks_reply hnames haudible.aloud haudible.unselected
  | fetch flags later transport window mode =>
    exact Search.tracks_fetch search flags later transport window mode
  | recount flags later transport name =>
    exact Search.tracks_recount hnames flags later transport name
  | subscribe => exact .nil (.refl _)
  | unsubscribe id => exact .nil (.refl _)

end Happening

namespace Session

/-- What a run announces can be followed from its beginning to its end. -/
theorem tracks_run {session : Session} (h : session.search.Coherent) {happenings : List Happening}
    (haudible : ∀ happening ∈ happenings, happening.Audible) :
    session.search.mirror.Tracks (announced session.search happenings)
      (session.run happenings).search.mirror := by
  induction happenings generalizing session with
  | nil => exact .nil (.refl _)
  | cons happening rest ih =>
    obtain ⟨hfirst, hrest⟩ := List.forall_mem_cons.1 haudible
    have hnext : (session.step happening).search.Coherent := by
      rw [search_step]
      exact Happening.coherent_search h hfirst.reachable
    have htracks := Happening.tracks_announced h hfirst
    rw [announced, run_cons, ← search_step]
    rw [← search_step] at htracks
    exact htracks.append (ih hnext hrest)

theorem coherent_run {session : Session} (h : session.search.Coherent)
    {happenings : List Happening}
    (hfilters : ∀ happening ∈ happenings, ∀ filter ∈ happening.filters, filter.Reachable) :
    (session.run happenings).search.Coherent :=
  search_run_of_step (fun happening hmem _ hbefore =>
    Happening.coherent_search hbefore (hfilters happening hmem)) h

/-- **Whoever listens can keep up.**  A listener is subscribed after some run, with others
before and after it, and is not unsubscribed in the run that follows.  Then every event that it
hears agrees with the mirror at that point, and in the end the mirror shows the search as it is,
but for the signs of zeros among selected values. -/
theorem mirror_keeps_up {search : Search} (h : search.Reachable) {before after : List Happening}
    (hbefore : ∀ happening ∈ before, ∀ filter ∈ happening.filters, filter.Reachable)
    (hafter : ∀ happening ∈ after, happening.Audible)
    (hroom : subscriptions before + 1 + subscriptions after ≤ UInt64.size)
    (hstay : .unsubscribe ((ofSearch search).run before).subscribe.1 ∉ after) :
    let joined := ((ofSearch search).run before).subscribe
    let final := joined.2.run after
    joined.2.search.mirror.Tracks (final.listeners.heardBy joined.1) final.search.mirror := by
  intro joined final
  have hbegin : (ofSearch search).listeners.Numbered 0 := Listeners.numbered_none
  have hnumbered : ((ofSearch search).run before).listeners.Numbered (0 + subscriptions before) :=
    numbered_run hbegin (by omega)
  rw [Nat.zero_add] at hnumbered
  have hfree : subscriptions before < UInt64.size := by omega
  have hmember : joined.1 ∈ joined.2.listeners.active := List.mem_append_right _ List.mem_cons_self
  have hnothing : joined.2.listeners.heardBy joined.1 = [] := hnumbered.heardBy_next hfree
  have hheard := heardBy_run (hnumbered.subscribe hfree) hmember hstay hroom
  rw [hnothing, List.nil_append] at hheard
  have hcoherent : joined.2.search.Coherent := coherent_run h.coherent hbefore
  show joined.2.search.mirror.Tracks ((joined.2.run after).listeners.heardBy joined.1) _
  rw [hheard]
  exact tracks_run hcoherent hafter

/-- One listener leaves while another keeps up with a selection, a filter that goes, and a
fetch that fails. -/
theorem mirror_keeps_up_of_two_listeners :
    let filters := [Filter.ofKind "price" (.term .bare), .ofKind "tags" (.term .bare)]
    let before : List Happening := [.subscribe, .call (.replaceFilters filters)]
    let after : List Happening := [.call (.select "tags" [.term (.text "a")] false),
      .unsubscribe ⟨0⟩, .call (.eraseFilter "price"),
      .fetch (fun _ => true) (fun _ => true) (fun _ => .error ["down"]) none .append]
    let joined := ((ofSearch Search.new).run before).subscribe
    let final := joined.2.run after
    Search.new.Reachable ∧ (∀ happening ∈ before, ∀ filter ∈ happening.filters, filter.Reachable) ∧
      (∀ happening ∈ after, happening.Audible) ∧
      subscriptions before + 1 + subscriptions after ≤ UInt64.size ∧
      .unsubscribe joined.1 ∉ after ∧
      final.search.mirror.filters = [("tags", [.term (.text "a")])] ∧
      joined.2.search.mirror.Tracks (final.listeners.heardBy joined.1) final.search.mirror := by
  intro filters before after joined final
  have hbefore : ∀ happening ∈ before, ∀ filter ∈ happening.filters, filter.Reachable := by
    refine List.forall_mem_cons.2 ⟨fun _ h => absurd h List.not_mem_nil, ?_⟩
    refine List.forall_mem_singleton.2 (List.forall_mem_cons.2 ⟨.ofKind _ _, ?_⟩)
    exact List.forall_mem_singleton.2 (.ofKind _ _)
  have hafter : ∀ happening ∈ after, happening.Audible := by
    refine List.forall_mem_cons.2 ⟨Happening.audible_of_filters_eq_nil rfl rfl, ?_⟩
    refine List.forall_mem_cons.2 ⟨Happening.audible_of_filters_eq_nil rfl rfl, ?_⟩
    refine List.forall_mem_cons.2 ⟨Happening.audible_of_filters_eq_nil rfl rfl, ?_⟩
    exact List.forall_mem_singleton.2 (Happening.audible_of_filters_eq_nil rfl rfl)
  have hroom : subscriptions before + 1 + subscriptions after ≤ UInt64.size := by decide
  have hstay : Happening.unsubscribe joined.1 ∉ after := by
    have hid : joined.1 ≠ ⟨0⟩ := by decide
    simp [after, hid]
  exact ⟨.new, hbefore, hafter, hroom, hstay, rfl, mirror_keeps_up .new hbefore hafter hroom hstay⟩

/-- A zero takes the place of the other.  The request changes with it, but nothing is heard. -/
theorem mirror_misses_zero_sign :
    let price := Filter.ofKind "price" (.term .bare)
    let choose (x : Binary64) : Happening := .call (.select "price" [.term (.float x)] false)
    let joined := ((ofSearch Search.new).run [.call (.replaceFilters [price])]).subscribe
    let after := [choose .zero, choose Binary64.zero.neg]
    let final := joined.2.run after
    (∀ happening ∈ after, happening.Audible) ∧
      final.search.selectedIds "price" = .ok ["-0"] ∧
      joined.2.search.mirror.hearAll (final.listeners.heardBy joined.1) ≠ final.search.mirror := by
  intro price choose joined after final
  have haudible : ∀ x, (choose x).Audible := fun _ =>
    Happening.audible_of_filters_eq_nil rfl rfl
  refine ⟨List.forall_mem_cons.2 ⟨haudible _, List.forall_mem_singleton.2 (haudible _)⟩, rfl, ?_⟩
  intro heq
  have hshown : [("price", [FacetValue.term (.float .zero)])] =
      [("price", [FacetValue.term (.float Binary64.zero.neg)])] := congrArg Mirror.filters heq
  exact absurd hshown (by decide)

end Session
end FacetedSearch
