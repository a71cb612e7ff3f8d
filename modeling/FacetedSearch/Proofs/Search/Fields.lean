import FacetedSearch.Proofs.Search.Absorb

/-!
# What leaves the fields alone

Fields are only defined, added, removed and sorted.  Whatever else is called, and whatever a
transport brings, leaves them as they were.

* `Search.fields_ask`, …: the operations that leave the fields alone;
* `Search.fields_fetch`, `Search.fields_recount`: so do responses.
-/

namespace FacetedSearch
namespace Search

variable (search : Search)

theorem fields_resizePages (pageLength : UInt64) :
    (search.resizePages pageLength).search.fields = search.fields := by
  unfold resizePages
  split <;> rfl

theorem fields_ask (query : Query) : (search.ask query).search.fields = search.fields := by
  unfold ask
  split <;> rfl

theorem fields_askJson (document : Json) :
    (search.askJson document).search.fields = search.fields := by
  unfold askJson
  split
  · exact search.fields_ask _
  · rfl

theorem fields_replaceFilters (filters : List Filter) :
    (search.replaceFilters filters).search.fields = search.fields := by
  unfold replaceFilters
  split
  · rfl
  · split <;> rfl

theorem fields_pushFilter (filter : Filter) :
    (search.pushFilter filter).search.fields = search.fields := by
  unfold pushFilter
  split
  · rfl
  · split <;> rfl

theorem fields_eraseFilter (name : String) :
    (search.eraseFilter name).search.fields = search.fields := by
  unfold eraseFilter
  split <;> rfl

theorem fields_withSelection (filter : Filter) (previous : List FacetValue) (silent : Bool) :
    (search.withSelection filter previous silent).search.fields = search.fields := by
  unfold withSelection
  dsimp only
  split <;> rfl

theorem fields_select (name : String) (values : List FacetValue) (silent : Bool) :
    (search.select name values silent).search.fields = search.fields := by
  unfold select
  split
  · rfl
  · split
    · rfl
    · exact search.fields_withSelection _ _ silent

theorem fields_selectIds (name : String) (ids : List String) (silent : Bool) :
    (search.selectIds name ids silent).search.fields = search.fields := by
  unfold selectIds
  split
  · rfl
  · exact search.fields_select name _ silent

theorem fields_clearSelection (name : String) (silent : Bool) :
    (search.clearSelection name silent).search.fields = search.fields := by
  unfold clearSelection
  split
  · rfl
  · exact search.fields_withSelection _ _ silent

/-! ## Responses -/

theorem fields_absorb (flags : Flags) (document : Json) (mode : ResultMode) :
    (search.absorb flags document mode).search.fields = search.fields := by
  obtain ⟨error, hrefused⟩ | ⟨response, filters, -, -, habsorbed⟩ :=
    absorb_cases flags search document mode
  · rw [hrefused]
    rfl
  · rw [habsorbed, absorbDecoded_eq]

theorem fields_receive (flags : Flags) (mode : ResultMode)
    (brought : Except (List String) Json) :
    (search.receive flags mode brought).2.1.fields = search.fields := by
  cases brought with
  | error chain => rfl
  | ok document => exact search.fields_absorb flags document mode

theorem fields_fetch (flags later : Flags) (transport : Transport) (window : Option Window)
    (mode : ResultMode) :
    (search.fetch flags later transport window mode).search.fields = search.fields := by
  obtain hstay | ⟨request, loading, hreceived⟩ :=
    search_fetch_cases flags later search transport window mode
  · rw [hstay]
  · rw [hreceived]
    exact fields_receive { search with loading := true } later mode (transport request)

theorem fields_recount (flags later : Flags) (transport : Transport) (name : String) :
    (search.recount flags later transport name).search.fields = search.fields := by
  unfold recount
  split
  · rfl
  · split <;> rfl

end Search
end FacetedSearch
