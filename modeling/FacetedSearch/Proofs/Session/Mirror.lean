import FacetedSearch.Event
import FacetedSearch.Proofs.Assoc
import FacetedSearch.Proofs.Facet.Comparison
import FacetedSearch.Search.Basic
import Mathlib.Data.List.InsertIdx

/-!
# Mirrors of a search

A listener that saw a search once can keep up with it by what it hears.  A `Mirror` holds what
events tell of: which fields and filters there are and in which order, what is selected in
each filter, what is searched for, how many results are held and whether a request is under
way.  Each change says how the mirror changes, and it also says something about the state
before it: at which index something was, and what was selected or searched for.  A change
*fits* a mirror if the mirror shows just that.

## The signs of zeros

Selections are compared by value, and the two zeros are equal by value.  So a mirror is right
only but for the signs of zeros among selected values: two mirrors are *alike* if they show
the same otherwise.  Changes treat mirrors that are alike in the same way
(`Mirror.Alike.fits`, `Mirror.Alike.hear`), which is why what one run of events tells can be
put together from what its parts tell (`Mirror.Tracks.append`).

* `Mirror`, `Search.mirror`: what is shown;
* `Mirror.hear`, `Mirror.hearAll`: following changes, and events;
* `Mirror.Fits`, `Mirror.FitsAll`: agreeing with what changes say about the state before;
* `Mirror.Alike`: showing the same but for the signs of zeros;
* `Mirror.Tracks`: events that lead from one mirror to another.
-/

namespace FacetedSearch

/-- What is shown of a search by someone who only hears of its changes. -/
structure Mirror where
  fields : List String
  /-- The filters by name, with what is selected in each. -/
  filters : Assoc (List FacetValue)
  query : Query
  results : Nat
  loading : Bool

/-- A filter as it is shown. -/
def Filter.shown (filter : Filter) : String × List FacetValue := (filter.name, filter.selected)

/-- The mirror that is right. -/
def Search.mirror (search : Search) : Mirror where
  fields := search.fields.names
  filters := search.filters.items.map Filter.shown
  query := search.query
  results := search.results.length
  loading := search.loading

namespace Mirror

/-! ## Following changes -/

/-- Follows a change. -/
def hear (mirror : Mirror) : Change → Mirror
  | .fieldAdded name index => { mirror with fields := mirror.fields.insertIdx index name }
  | .fieldRemoved _ index => { mirror with fields := mirror.fields.eraseIdx index }
  | .fieldsReset names => { mirror with fields := names }
  | .filterAdded name index => { mirror with filters := mirror.filters.insertIdx index (name, []) }
  | .filterRemoved _ index => { mirror with filters := mirror.filters.eraseIdx index }
  | .filtersReset names => { mirror with filters := names.map fun name => (name, []) }
  | .selectionChanged filter _ selected =>
    { mirror with
      filters := mirror.filters.mapValues fun name held => if name = filter then selected else held }
  | .queryChanged _ query => { mirror with query := query }
  | .resultsReset count => { mirror with results := count }
  | .resultsAdded _ count => { mirror with results := mirror.results + count }
  | .loadingChanged loading => { mirror with loading := loading }
  | .sortChanged _ _ _ | .facetsRefreshed _ _ | .fetchFailed _ => mirror

/-- Follows an event; one that only names a part says nothing that was not said. -/
def hearEvent (mirror : Mirror) : Event → Mirror
  | .specific change => mirror.hear change
  | .changed _ => mirror

/-- Follows one event after the other. -/
def hearAll (mirror : Mirror) (events : List Event) : Mirror := events.foldl hearEvent mirror

/-! ## Showing the same -/

/-- Selections without the signs of zeros. -/
def unsigned (filters : Assoc (List FacetValue)) : Assoc (List FacetValue) :=
  filters.mapValues fun _ values => values.map FacetValue.withoutZeroSigns

/-- Showing the same, but for the signs of zeros among selected values. -/
structure Alike (a b : Mirror) : Prop where
  fields : a.fields = b.fields
  filters : unsigned a.filters = unsigned b.filters
  query : a.query = b.query
  results : a.results = b.results
  loading : a.loading = b.loading

/-! ## Agreeing with a change -/

/-- The mirror agrees with what a change says about the state before it. -/
def Fits (mirror : Mirror) : Change → Prop
  | .fieldAdded _ index => index = mirror.fields.length
  | .fieldRemoved name index => mirror.fields[index]? = some name
  | .filterAdded _ index => index = mirror.filters.length
  | .filterRemoved name index => mirror.filters.keys[index]? = some name
  | .selectionChanged filter previous _ =>
    (unsigned mirror.filters).get? filter = some (previous.map FacetValue.withoutZeroSigns)
  | .queryChanged previous _ => mirror.query = previous
  | .resultsAdded index _ => index = mirror.results
  | .fieldsReset _ | .filtersReset _ | .sortChanged _ _ _ | .resultsReset _ | .loadingChanged _
  | .facetsRefreshed _ _ | .fetchFailed _ => True

/-- The mirror agrees with what an event says about the state before it. -/
def FitsEvent (mirror : Mirror) : Event → Prop
  | .specific change => mirror.Fits change
  | .changed _ => True

/-- Each event agrees with what the mirror shows when it is heard. -/
def FitsAll : Mirror → List Event → Prop
  | _, [] => True
  | mirror, event :: rest => mirror.FitsEvent event ∧ (mirror.hearEvent event).FitsAll rest

variable {a b c : Mirror} {events more : List Event}

@[simp] theorem hearAll_nil (mirror : Mirror) : mirror.hearAll [] = mirror := rfl

theorem hearAll_cons (mirror : Mirror) (event : Event) (rest : List Event) :
    mirror.hearAll (event :: rest) = (mirror.hearEvent event).hearAll rest := rfl

theorem hearAll_append (mirror : Mirror) (events more : List Event) :
    mirror.hearAll (events ++ more) = (mirror.hearAll events).hearAll more :=
  List.foldl_append

theorem fitsAll_append {mirror : Mirror} :
    mirror.FitsAll (events ++ more) ↔
      mirror.FitsAll events ∧ (mirror.hearAll events).FitsAll more := by
  induction events generalizing mirror with
  | nil => exact (and_iff_right trivial).symm
  | cons event rest ih =>
    rw [List.cons_append, FitsAll, FitsAll, hearAll_cons, ih, and_assoc]

/-! ## What is alike stays alike -/

theorem keys_unsigned (filters : Assoc (List FacetValue)) :
    (unsigned filters).keys = filters.keys := Assoc.keys_mapValues _ _

namespace Alike

theorem refl (mirror : Mirror) : mirror.Alike mirror := ⟨rfl, rfl, rfl, rfl, rfl⟩

theorem trans (hab : a.Alike b) (hbc : b.Alike c) : a.Alike c :=
  ⟨hab.fields.trans hbc.fields, hab.filters.trans hbc.filters, hab.query.trans hbc.query,
    hab.results.trans hbc.results, hab.loading.trans hbc.loading⟩

theorem symm (h : a.Alike b) : b.Alike a :=
  ⟨h.fields.symm, h.filters.symm, h.query.symm, h.results.symm, h.loading.symm⟩

theorem keys (h : a.Alike b) : a.filters.keys = b.filters.keys := by
  rw [← keys_unsigned a.filters, h.filters, keys_unsigned]

theorem length (h : a.Alike b) : a.filters.length = b.filters.length := by
  have hlength := congrArg List.length h.keys
  simpa only [Assoc.keys, List.length_map] using hlength

/-- Mirrors that are alike agree with the same changes. -/
theorem fits (h : a.Alike b) {change : Change} (hfits : a.Fits change) : b.Fits change := by
  cases change with
  | fieldAdded name index => exact hfits.trans (congrArg List.length h.fields)
  | fieldRemoved name index =>
    show b.fields[index]? = some name
    rw [← h.fields]
    exact hfits
  | filterAdded name index => exact hfits.trans h.length
  | filterRemoved name index =>
    show b.filters.keys[index]? = some name
    rw [← h.keys]
    exact hfits
  | selectionChanged filter previous selected =>
    show (unsigned b.filters).get? filter = _
    rw [← h.filters]
    exact hfits
  | queryChanged previous query => exact h.query.symm.trans hfits
  | resultsAdded index count => exact hfits.trans h.results
  | fieldsReset | filtersReset | sortChanged | resultsReset | loadingChanged | facetsRefreshed
  | fetchFailed => exact trivial

/-- Mirrors that are alike are alike after a change. -/
theorem hear (h : a.Alike b) (change : Change) : (a.hear change).Alike (b.hear change) := by
  cases change with
  | fieldAdded name index =>
    exact { h with fields := congrArg (fun names => names.insertIdx index name) h.fields }
  | fieldRemoved name index =>
    exact { h with fields := congrArg (fun names => names.eraseIdx index) h.fields }
  | fieldsReset names => exact { h with fields := rfl }
  | filterAdded name index =>
    refine { h with filters := ?_ }
    have hinsert : ∀ filters, unsigned (List.insertIdx filters index (name, [])) =
        List.insertIdx (unsigned filters) index (name, []) :=
      fun filters => List.map_insertIdx _ filters index _
    show unsigned (List.insertIdx a.filters index (name, [])) =
      unsigned (List.insertIdx b.filters index (name, []))
    rw [hinsert, hinsert, h.filters]
  | filterRemoved name index =>
    refine { h with filters := ?_ }
    have herase : ∀ filters, unsigned (List.eraseIdx filters index) =
        List.eraseIdx (unsigned filters) index :=
      fun filters => (List.eraseIdx_map _ filters index).symm
    show unsigned (List.eraseIdx a.filters index) = unsigned (List.eraseIdx b.filters index)
    rw [herase, herase, h.filters]
  | filtersReset names => exact { h with filters := rfl }
  | selectionChanged filter previous selected =>
    refine { h with filters := ?_ }
    have hselect : ∀ filters : Assoc (List FacetValue), unsigned (filters.mapValues fun name held =>
        if name = filter then selected else held) =
        (unsigned filters).mapValues fun name held =>
          if name = filter then selected.map FacetValue.withoutZeroSigns else held := by
      intro filters
      rw [unsigned, unsigned, Assoc.mapValues_mapValues, Assoc.mapValues_mapValues]
      congr 1
      funext name held
      split <;> rfl
    exact (hselect _).trans ((congrArg _ h.filters).trans (hselect _).symm)
  | queryChanged previous query => exact { h with query := rfl }
  | resultsReset count => exact { h with results := rfl }
  | resultsAdded index count =>
    exact { h with results := congrArg (fun held => held + count) h.results }
  | loadingChanged loading => exact { h with loading := rfl }
  | sortChanged | facetsRefreshed | fetchFailed => exact h

theorem hearEvent (h : a.Alike b) (event : Event) :
    (a.hearEvent event).Alike (b.hearEvent event) := by
  cases event with
  | specific change => exact h.hear change
  | changed scope => exact h

theorem hearAll (h : a.Alike b) (events : List Event) :
    (a.hearAll events).Alike (b.hearAll events) := by
  induction events generalizing a b with
  | nil => exact h
  | cons event rest ih => exact ih (h.hearEvent event)

theorem fitsAll (h : a.Alike b) (hfits : a.FitsAll events) : b.FitsAll events := by
  induction events generalizing a b with
  | nil => exact trivial
  | cons event rest ih =>
    refine ⟨?_, ih (h.hearEvent event) hfits.2⟩
    cases event with
    | specific change => exact h.fits hfits.1
    | changed scope => exact trivial

end Alike

/-! ## Events that lead from one mirror to another -/

/-- Every event agrees with what is shown when it is heard, and what is shown after the last
one is the second mirror, but for the signs of zeros. -/
structure Tracks (before : Mirror) (events : List Event) (after : Mirror) : Prop where
  fits : before.FitsAll events
  alike : (before.hearAll events).Alike after

namespace Tracks

/-- What is not shown need not be announced. -/
theorem nil (h : a.Alike b) : a.Tracks [] b := ⟨trivial, h⟩

theorem change {change : Change} {scope : Scope} (hfits : a.Fits change)
    (h : (a.hear change).Alike b) : a.Tracks [.specific change, .changed scope] b :=
  ⟨⟨hfits, trivial, trivial⟩, h⟩

/-- **What is announced in two parts is followed part by part.** -/
theorem append (h : a.Tracks events b) (hmore : b.Tracks more c) :
    a.Tracks (events ++ more) c := by
  refine ⟨fitsAll_append.2 ⟨h.fits, h.alike.symm.fitsAll hmore.fits⟩, ?_⟩
  rw [hearAll_append]
  exact (h.alike.hearAll more).trans hmore.alike

end Tracks
end Mirror
end FacetedSearch
