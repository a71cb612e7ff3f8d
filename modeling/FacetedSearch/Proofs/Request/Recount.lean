import FacetedSearch.Proofs.Request.Meaning

/-!
# Counting the facets of one filter again

A request that counts the facets of a filter again asks for that facet first and then goes
through all filters, as every request does.  On the way the filter comes up once more.  What
confines its facet are the other filters, both times, so the second time the same facet is
written under the same name, and it stays in front.

So such a request asks for what the request of the search asks for in its facets, in another
order, and for nothing else.  Names being distinct, an order of the facets is an order of the
filters that are on.

* `sectionOf?`: the section that members are written into;
* `keys_facetEntries`: the filters that ask for a facet are those that are on;
* `Search.get?_of_compileFacetsOf`: the section that facets are written into;
* `Search.recounted`, `Search.compileRecount_eq`, `Search.compileRecount_unknown`: the request as
  one pass;
* `extend_facetEntries_again`: writing a facet twice;
* `Search.recount_agrees`: the two requests.
-/

namespace FacetedSearch

variable {flags : Flags} {filters asking : List Filter} {filter : Filter}

/-- A section that members are written into: it is there if there are any. -/
def sectionOf? : Assoc Json → Option Json
  | [] => none
  | member :: rest => some (.obj (member :: rest))

theorem Request.get?_of_membersOf {key : String} {request : Request} {members : Assoc Json}
    (h : request.membersOf key = members) (hmembers : members ≠ []) :
    Assoc.get? key request = sectionOf? members := by
  unfold membersOf at h
  cases hsection : Assoc.get? key request with
  | none =>
    rw [hsection] at h
    exact absurd h.symm hmembers
  | some document =>
    rw [hsection] at h
    cases document with
    | obj existing =>
      obtain rfl : existing = members := h
      cases existing with
      | nil => exact absurd rfl hmembers
      | cons member rest => rfl
    | null | bool _ | int _ | float _ | str _ | arr _ => exact absurd h.symm hmembers

/-! ## Facets in order -/

/-- A filter asks for its facet exactly if it is on. -/
theorem Filter.isSome_facetRequest? (filter : Filter) (confinement : Option Json) :
    (filter.facetRequest? flags confinement).isSome = filter.enabled.isOn flags := by
  unfold facetRequest?
  split
  · next hon =>
    rw [hon]
    split <;> rfl
  · next hoff => rw [Bool.eq_false_iff.2 hoff]; rfl

/-- Facets come under the names of the filters that are on, in their order. -/
theorem keys_facetEntries (asking : List Filter) :
    Assoc.keys (facetEntries flags filters asking) =
      (asking.filter fun filter => filter.enabled.isOn flags).map Filter.name := by
  induction asking with
  | nil => rfl
  | cons filter rest ih =>
    have hasks : (filter.facetRequest? flags
        (conditionOfOthers? flags filters filter.name)).isSome = filter.enabled.isOn flags :=
      filter.isSome_facetRequest? _
    unfold facetEntries at ih ⊢
    rw [List.filterMap_cons, List.filter_cons, ← hasks]
    cases filter.facetRequest? flags (conditionOfOthers? flags filters filter.name) with
    | none => exact ih
    | some facet => exact congrArg (filter.name :: ·) ih

/-- A facet that is written a second time stays where it is. -/
theorem extend_facetEntries_again {before after : List Filter}
    (hnames : ((filter :: (before ++ after)).map Filter.name).Nodup) :
    Assoc.extend [] (facetEntries flags filters (filter :: (before ++ filter :: after))) =
      facetEntries flags filters (filter :: (before ++ after)) := by
  have hsplit : ∀ rest, facetEntries flags filters (filter :: (before ++ rest)) =
      facetEntries flags filters (filter :: before) ++ facetEntries flags filters rest :=
    fun rest => facetEntries_append (filter :: before) rest
  have hkeys : (Assoc.keys (facetEntries flags filters (filter :: (before ++ after)))).Nodup :=
    hnames.sublist (keys_facetEntries_sublist _)
  rw [hsplit] at hkeys ⊢
  have hfront : (Assoc.keys ([] ++ facetEntries flags filters (filter :: before))).Nodup := by
    rw [Assoc.keys, List.map_append] at hkeys
    exact (List.nodup_append.1 hkeys).1
  have hthere : ∀ entry ∈ facetEntries flags filters [filter],
      Assoc.get? entry.1 (facetEntries flags filters (filter :: before)) = some entry.2 := by
    intro entry hentry
    refine Assoc.get?_of_mem hfront ?_
    show entry ∈ facetEntries flags filters ([filter] ++ before)
    rw [facetEntries_append]
    exact List.mem_append_left _ hentry
  have hrest : facetEntries flags filters (filter :: after) =
      facetEntries flags filters [filter] ++ facetEntries flags filters after :=
    facetEntries_append [filter] after
  rw [hrest, Assoc.extend_append, Assoc.extend_of_nodup hfront, List.nil_append,
    Assoc.extend_append, Assoc.extend_of_forall_get? hthere, Assoc.extend_of_nodup hkeys, hsplit]

namespace Search

variable {options : RequestOptions} {search : Search} {request next : Request} {name : String}

/-! ## The passes -/

/-- Where nothing was seeded, facets are asked for without fail. -/
theorem exists_compileFacetsOf (flags : Flags) (filters asking : List Filter) :
    ∃ next, asking.foldlM (compileFacet flags filters) [] = .ok next := by
  have htakes : Request.Takes Json.obj "facets" [] := Request.takes_of_absent rfl
  obtain ⟨next, hnext, -⟩ := Fallible.exists_foldlM_eq_ok (P := Request.Takes Json.obj "facets")
    (fun _ filter _ hstate => exists_compileFacet flags _ filter hstate) htakes
  exact ⟨next, hnext⟩

/-- A section of facets that was not there holds those that are asked for, and is still not
there if none is. -/
theorem get?_of_compileFacetsOf
    (h : asking.foldlM (compileFacet flags filters) request = .ok next)
    (habsent : Assoc.get? "facets" request = none) :
    Assoc.get? "facets" next =
      sectionOf? (Assoc.extend [] (facetEntries flags filters asking)) := by
  cases hentries : facetEntries flags filters asking with
  | nil =>
    rw [foldlM_compileFacet, if_pos hentries] at h
    rw [← Except.ok.inj h, habsent]
    rfl
  | cons entry rest =>
    have hmembers := (membersOf_of_compileFacetsOf h).1
    rw [Request.membersOf_of_absent habsent, hentries] at hmembers
    refine Request.get?_of_membersOf hmembers fun hnil => ?_
    have hkey : entry.1 ∈ Assoc.keys (Assoc.extend [] (entry :: rest)) :=
      Assoc.mem_keys_extend.2 (Or.inr List.mem_cons_self)
    rw [hnil] at hkey
    exact absurd hkey List.not_mem_nil

/-- The filters whose facets are asked for when those of one are counted again. -/
def recounted (options : RequestOptions) (search : Search) (filter : Filter) : List Filter :=
  filter :: if options.includeFacets then search.filters.items else []

/-- The request is one pass over the filter and then, if facets are included, all filters. -/
theorem compileRecount_eq (options : RequestOptions)
    (hget : search.filters.get? name = some filter) (seed : Request) :
    search.compileRecount flags options name seed =
      ((search.recounted options filter).foldlM (compileFacet flags search.filters.items)
        seed).mapError Rejection.error := by
  have hpass : search.compileFacets flags options =
      (if options.includeFacets then search.filters.items else []).foldlM
        (compileFacet flags search.filters.items) := by
    funext request
    unfold compileFacets
    split <;> rfl
  rw [compileRecount, hget, hpass, recounted, List.foldlM_cons]
  rfl

theorem compileRecount_unknown (hname : name ∉ search.filters.names) (seed : Request) :
    search.compileRecount flags options name seed = .error (.unknownFilter name) := by
  have hget : search.filters.get? name = none := by
    refine List.find?_eq_none.2 fun filter hfilter hsame => hname ?_
    rw [← beq_iff_eq.1 hsame]
    exact List.mem_map_of_mem hfilter
  rw [compileRecount, hget]

/-- The facets of the request of a search that nothing was seeded into. -/
theorem exists_compile_facets (flags : Flags) {options : RequestOptions} (search : Search)
    (hinclude : options.includeFacets = true) :
    ∃ request, search.compile flags options [] = .ok request ∧
      Assoc.get? "facets" request =
        sectionOf? (Assoc.extend [] (facetEntries flags search.filters.items
          search.filters.items)) := by
  have hplain : ∀ key ∈ sectionKeys, Assoc.get? key ([] : Request) = none := fun _ _ => rfl
  obtain ⟨request, hrequest, -⟩ := compile_spec flags options search hplain
  obtain ⟨asked, fielded, faceted, hasked, hfielded, hfaceted, hconditions⟩ :=
    compile_eq_ok_iff.1 hrequest
  have habsent : Assoc.get? "facets" fielded = none := by
    rw [get?_of_compileFields hfielded (by decide), get?_of_compileQuery hasked (by decide)]
    rfl
  rw [compileFacets, if_pos hinclude] at hfaceted
  refine ⟨request, hrequest, ?_⟩
  rw [get?_of_compileConditions hconditions (by decide)]
  exact get?_of_compileFacetsOf hfaceted habsent

/-- The request that counts the facets of a filter again, with nothing seeded into it. -/
theorem exists_compileRecount (flags : Flags) {options : RequestOptions}
    (hinclude : options.includeFacets = true) (hget : search.filters.get? name = some filter) :
    ∃ recount, search.compileRecount flags options name [] = .ok recount ∧
      Assoc.get? "facets" recount =
        sectionOf? (Assoc.extend [] (facetEntries flags search.filters.items
          (filter :: search.filters.items))) ∧
      ∀ key, key ≠ "facets" → Assoc.get? key recount = none := by
  obtain ⟨recount, hrecount⟩ := exists_compileFacetsOf flags search.filters.items
    (search.recounted options filter)
  rw [recounted, if_pos hinclude] at hrecount
  refine ⟨recount, ?_, get?_of_compileFacetsOf hrecount rfl, fun key hkey => ?_⟩
  · rw [compileRecount_eq options hget, recounted, if_pos hinclude, hrecount]
    rfl
  · rw [(membersOf_of_compileFacetsOf hrecount).2 key hkey]
    rfl

/-! ## The two requests -/

/-- **Counting facets again asks for the same facets.**  Where facets are included, and whatever
filter is named, the request of the search and the request that counts the facets of that filter
again have facets under the same distinct names and the same under each, or neither has any.
The request of the search has them in the order of the filters, the other one has that of the
named filter first, if it is on, and has no other section.  A name that no filter has is
refused. -/
theorem recount_agrees (h : search.Reachable) (flags : Flags) {options : RequestOptions}
    (hinclude : options.includeFacets = true) :
    (∀ filter ∈ search.filters.items, ∃ request recount facets recounted,
      search.compile flags options [] = .ok request ∧
      search.compileRecount flags options filter.name [] = .ok recount ∧
      Assoc.get? "facets" request = sectionOf? facets ∧
      Assoc.get? "facets" recount = sectionOf? recounted ∧
      (Assoc.keys facets).Nodup ∧ recounted.Perm facets ∧
      Assoc.keys facets =
        (search.filters.items.filter fun other => other.enabled.isOn flags).map Filter.name ∧
      Assoc.keys recounted =
        ((filter :: (search.filters.without filter.name).items).filter
          fun other => other.enabled.isOn flags).map Filter.name ∧
      ∀ key, key ≠ "facets" → Assoc.get? key recount = none) ∧
    ∀ name, name ∉ search.filters.names → ∀ seed,
      search.compileRecount flags options name seed = .error (.unknownFilter name) := by
  refine ⟨fun filter hfilter => ?_, fun name hname seed => compileRecount_unknown hname seed⟩
  have hnames : search.filters.names.Nodup := h.coherent.names
  have hget : search.filters.get? filter.name = some filter :=
    (Catalog.get?_eq_some_iff hnames).2 ⟨hfilter, rfl⟩
  obtain ⟨request, hrequest, hfacets⟩ := exists_compile_facets flags search hinclude
  obtain ⟨recount, hrecount, hrecounted, hframe⟩ := exists_compileRecount flags hinclude hget
  -- the filter has some before it and some after it, all of other names
  obtain ⟨before, after, hsplit, hothers⟩ := Catalog.exists_split_without hnames hfilter
  have hrest : (search.filters.without filter.name).items = before ++ after := hothers
  have hkeys : (Assoc.keys (facetEntries flags search.filters.items search.filters.items)).Nodup :=
    hnames.sublist (keys_facetEntries_sublist _)
  have hfront : ((filter :: (before ++ after)).map Filter.name).Nodup := by
    have hnodup : ((before ++ filter :: after).map Filter.name).Nodup := hsplit ▸ hnames
    exact (List.perm_middle.map Filter.name).nodup_iff.1 hnodup
  have hagain : Assoc.extend [] (facetEntries flags search.filters.items
      (filter :: search.filters.items)) =
        facetEntries flags search.filters.items (filter :: (before ++ after)) := by
    rw [← extend_facetEntries_again hfront, ← hsplit]
  rw [Assoc.extend_of_nodup hkeys, List.nil_append] at hfacets
  rw [hagain] at hrecounted
  refine ⟨request, recount, _, _, hrequest, hrecount, hfacets, hrecounted, hkeys, ?_,
    keys_facetEntries _, ?_, hframe⟩
  · have hperm : (filter :: (before ++ after)).Perm search.filters.items := by
      rw [hsplit]
      exact List.perm_middle.symm
    exact hperm.filterMap _
  · rw [keys_facetEntries, hrest]

/-- The last of three filters is named, and the one before it is off. -/
theorem recount_agrees_of_three :
    let tags : Filter := { Filter.ofKind "tags" (.term .default) with enabled := .fixed false }
    let year : Filter := .ofKind "year" (.numeric .default)
    let filters : List Filter := [.ofKind "author" (.term .default), tags, year]
    let search := ((Call.select "author" [.term (.text "Eco")] true).reply
      ((Call.replaceFilters filters).reply new).search).search
    search.Reachable ∧ ∃ request recount facets recounted,
      search.compile (fun _ => false) .all [] = .ok request ∧
      search.compileRecount (fun _ => false) .all "year" [] = .ok recount ∧
      Assoc.get? "facets" request = sectionOf? facets ∧
      Assoc.get? "facets" recount = sectionOf? recounted ∧
      Assoc.keys facets = ["author", "year"] ∧ Assoc.keys recounted = ["year", "author"] ∧
      recounted.Perm facets ∧
      search.compileRecount (fun _ => false) .all "title" [] = .error (.unknownFilter "title") := by
  intro tags year filters search
  have htags : tags.Reachable :=
    .withLook ⟨"tags", .fixed false, true, .any, "", "", true, true⟩ (.ofKind _ _)
  have hfilters : ∀ filter ∈ filters, filter.Reachable :=
    List.forall_mem_cons.2 ⟨.ofKind _ _, List.forall_mem_cons.2 ⟨htags,
      List.forall_mem_singleton.2 (.ofKind _ _)⟩⟩
  have hdefined : ((Call.replaceFilters filters).reply new).search.Reachable :=
    .call _ hfilters .new
  have hreach : search.Reachable := hdefined.call_of_filters_eq_nil _ rfl
  obtain ⟨hnamed, hunknown⟩ :=
    recount_agrees hreach (fun _ => false) (show RequestOptions.all.includeFacets = true from rfl)
  have hyear : year ∈ search.filters.items :=
    List.mem_cons_of_mem _ (List.mem_cons_of_mem _ List.mem_cons_self)
  obtain ⟨request, recount, facets, recounted, hrequest, hrecount, hfacets, hrecounted, -, hperm,
    hkeys, hagain, -⟩ := hnamed year hyear
  exact ⟨hreach, request, recount, facets, recounted, hrequest, hrecount, hfacets, hrecounted,
    hkeys, hagain, hperm, hunknown "title" (by decide) []⟩

end Search
end FacetedSearch
