import FacetedSearch.Proofs.Request.Growth

/-!
# The sort section of a request

Each field that is compiled adds its sort key, if it has one, to the list of those before it.
No other pass touches the section.  So it lists the sort keys of the fields in their order, and
there is no section if no field has a key, or if fields are left out.

* `listSection?`: a section that is there only if there is something to list;
* `Search.appended_sort_compile`: the sort keys, behind those of any seed;
* `Search.get?_sort_of_compile`: the section of a request.
-/

namespace FacetedSearch

/-- The section that a list of items makes; there is none without items. -/
def listSection? : List Json → Option Json
  | [] => none
  | items => some (.arr items)

namespace Search

variable {flags : Flags} {options : RequestOptions} {search : Search} {request : Request}

/-- The sort keys of the fields come behind those of the seed, if fields are included. -/
theorem appended_sort_compile {seed : Request}
    (hrequest : search.compile flags options seed = .ok request) :
    Request.Appended "sort"
      (if options.includeFields then
        search.fields.items.filterMap fun field => field.sortRequest? flags
      else []) seed request := by
  rw [compile_eq_runPasses] at hrequest
  obtain ⟨fielded, hfielded, hkeys⟩ := exists_run_of_runPasses (.refl _) hrequest .fields
  have hsort := appended_compileFields "sort" (by decide) hfielded
  rw [flatMap_fieldAdditions fun field => (Field.flatMap_additions flags field).2.1] at hsort
  exact hsort.of_same (hkeys "sort" (by decide))

/-- **The sort section of a request** lists what the fields ask for, if fields are included. -/
theorem get?_sort_of_compile {seed : Request} (hseed : Assoc.get? "sort" seed = none)
    (hrequest : search.compile flags options seed = .ok request) :
    Assoc.get? "sort" request =
      if options.includeFields then
        listSection? (search.fields.items.filterMap fun field => field.sortRequest? flags)
      else none := by
  have hsort := appended_sort_compile hrequest
  split
  · next hinclude =>
    rw [if_pos hinclude] at hsort
    cases hitems : search.fields.items.filterMap fun field => field.sortRequest? flags with
    | nil => exact (hsort.kept hitems).trans hseed
    | cons first rest =>
      rw [hitems] at hsort
      obtain ⟨held, hheld, hafter⟩ := hsort.grew (List.cons_ne_nil _ _)
      rw [hseed, Option.getD_none] at hheld
      obtain rfl := Json.arr.inj hheld
      exact hafter
  · next hexclude =>
    rw [if_neg hexclude] at hsort
    exact (hsort.kept rfl).trans hseed

end Search
end FacetedSearch
