import FacetedSearch.Proofs.Search.Absorb
import FacetedSearch.Proofs.Search.ByIds

/-!
# Selections and responses in any order

While somebody selects values, responses to earlier requests arrive.  In which order the two
reach the search is a matter of luck, and it does not matter: what is selected by value in a
filter, and what a response says about it, are kept apart.

## Lanes

The responses are one lane, and the selections of each filter are one.  Inputs of one lane
overwrite what the others before them brought, so their order counts.  Inputs of two lanes
commute, because each of them is a change of the filters one by one (`Input.onFilter`), beside
what responses do to the results, and these changes commute on every filter: selecting looks at
the name and the kind of a filter, reading a section looks at its switch as well, and neither
changes any of the three.  For the same reason an input succeeds or fails wherever it stands.

Two interleavings with the same inputs in each lane are turned into each other by exchanging
neighbours of two lanes: the first input of the one is brought to the front of the other.  So
they end in the same search.

* `foldl_eq_of_lanes`: runs of steps that commute unless they are of one lane;
* `Input`, `Input.lane`, `Input.reply`: selections by value and responses;
* `Input.apply`, `Input.after_eq`: what an input does if it succeeds;
* `Input.answer_after`, `Input.after_comm`: two inputs;
* `Search.interleavings_agree`: any number of them.
-/

namespace FacetedSearch

/-! ## Runs in lanes -/

section

variable {σ ι κ : Type} {step : σ → ι → σ} {lane : ι → κ} {P : σ → Prop}

/-- A step that commutes with those before it can be taken first. -/
theorem foldl_of_notMem_lane (hP : ∀ state input, P state → P (step state input))
    (hcomm : ∀ state first second, P state → lane first ≠ lane second →
      step (step state first) second = step (step state second) first)
    {before : List ι} {input : ι} (hbefore : ∀ other ∈ before, lane other ≠ lane input)
    (after : List ι) {state : σ} (h : P state) :
    (before ++ input :: after).foldl step state =
      (before ++ after).foldl step (step state input) := by
  induction before generalizing state with
  | nil => rfl
  | cons other rest ih =>
    obtain ⟨hother, hrest⟩ := List.forall_mem_cons.1 hbefore
    calc (other :: rest ++ input :: after).foldl step state
        = (rest ++ after).foldl step (step (step state other) input) := ih hrest (hP _ _ h)
      _ = (rest ++ after).foldl step (step (step state input) other) := by
          rw [hcomm state other input h hother]

/-- **Runs with the same steps in each lane end in the same state**, if steps commute unless they
are of one lane. -/
theorem foldl_eq_of_lanes [DecidableEq κ] (hP : ∀ state input, P state → P (step state input))
    (hcomm : ∀ state first second, P state → lane first ≠ lane second →
      step (step state first) second = step (step state second) first)
    {first second : List ι}
    (hlanes : ∀ k, first.filter (fun input => lane input = k) =
      second.filter fun input => lane input = k) {state : σ} (h : P state) :
    first.foldl step state = second.foldl step state := by
  induction first generalizing second state with
  | nil =>
    have hnone : second = [] := by
      refine List.eq_nil_iff_forall_not_mem.2 fun input hinput => ?_
      have hmem : input ∈ second.filter fun other => lane other = lane input :=
        List.mem_filter.2 ⟨hinput, decide_eq_true rfl⟩
      rw [← hlanes (lane input)] at hmem
      exact List.not_mem_nil hmem
    rw [hnone]
  | cons input rest ih =>
    -- the other run has the same first step in this lane, perhaps behind steps of other lanes
    have hlane := hlanes (lane input)
    rw [List.filter_cons_of_pos (by simp)] at hlane
    obtain ⟨before, after, rfl, hbefore, -, hafter⟩ := List.filter_eq_cons_iff.1 hlane.symm
    have hapart : ∀ other ∈ before, lane other ≠ lane input :=
      fun other hother heq => hbefore other hother (decide_eq_true heq)
    have hrest : ∀ k, rest.filter (fun other => lane other = k) =
        (before ++ after).filter fun other => lane other = k := by
      intro k
      by_cases hk : lane input = k
      · subst hk
        have hnone : before.filter (fun other => lane other = lane input) = [] :=
          List.filter_eq_nil_iff.2 hbefore
        rw [List.filter_append, hnone, hafter, List.nil_append]
      · have hsame := hlanes k
        rw [List.filter_cons_of_neg (by simp [hk]), List.filter_append,
          List.filter_cons_of_neg (by simp [hk])] at hsame
        rw [hsame, List.filter_append]
    rw [foldl_of_notMem_lane hP hcomm hapart after h]
    exact ih hrest (hP _ _ h)

end

/-! ## Inputs -/

/-- What reaches a search from two sides: selections by value, and responses. -/
inductive Input where
  | select (name : String) (values : List FacetValue) (silent : Bool)
  | clear (name : String) (silent : Bool)
  | arrive (document : Json) (mode : ResultMode)

namespace Input

/-- The lane of an input: that of a filter, or that of the responses. -/
def lane : Input → Option String
  | .select name _ _ | .clear name _ => some name
  | .arrive _ _ => none

@[simp] theorem lane_select (name : String) (values : List FacetValue) (silent : Bool) :
    (select name values silent).lane = some name := rfl

@[simp] theorem lane_clear (name : String) (silent : Bool) :
    (clear name silent).lane = some name := rfl

@[simp] theorem lane_arrive (document : Json) (mode : ResultMode) :
    (arrive document mode).lane = none := rfl

/-- The reply of a search to an input, while the flags are as given. -/
def reply (flags : Flags) : Input → Search → Reply Unit
  | .select name values silent, search => search.select name values silent
  | .clear name silent, search => search.clearSelection name silent
  | .arrive document mode, search => search.absorb flags document mode

/-- The search after an input. -/
def after (flags : Flags) (input : Input) (search : Search) : Search :=
  (input.reply flags search).search

/-- Whether an input succeeds. -/
def answer (flags : Flags) (input : Input) (search : Search) : Except SearchError Unit :=
  (input.reply flags search).answer

end Input

namespace Filter

/-- The filter with other values selected, or as it was if they cannot be. -/
def selecting (values : List FacetValue) (filter : Filter) : Filter :=
  match filter.select values with
  | .ok next => next
  | .error _ => filter

/-- The filter after a response, or as it was if its section cannot be read. -/
def refreshing (flags : Flags) (response : Response) (filter : Filter) : Filter :=
  match filter.refresh flags response with
  | .ok next => next
  | .error _ => filter

/-- What operations on a filter look at, and none changes: its name, its kind and its switch. -/
structure Alike (filter other : Filter) : Prop where
  name : other.name = filter.name
  kind : other.kind = filter.kind
  enabled : other.enabled = filter.enabled

theorem alike_selecting (values : List FacetValue) (filter : Filter) :
    filter.Alike (filter.selecting values) := by
  unfold selecting
  split
  · next hselect =>
    obtain ⟨accepted, -, rfl⟩ := select_eq_ok_iff.1 hselect
    exact ⟨rfl, rfl, rfl⟩
  · exact ⟨rfl, rfl, rfl⟩

theorem alike_refreshing (flags : Flags) (response : Response) (filter : Filter) :
    filter.Alike (filter.refreshing flags response) := by
  unfold refreshing
  split
  · next hrefresh =>
    obtain ⟨tally, -, rfl⟩ := refresh_eq_ok_iff.1 hrefresh
    exact ⟨rfl, rfl, rfl⟩
  · exact ⟨rfl, rfl, rfl⟩

/-- Whether values can be selected depends on the name and the kind. -/
theorem Alike.mapM_accept {filter other : Filter} (h : filter.Alike other)
    (values : List FacetValue) :
    values.mapM (other.kind.accept other.name) = values.mapM (filter.kind.accept filter.name) := by
  rw [h.name, h.kind]

/-- What a response says depends on the name, the kind and the switch. -/
theorem Alike.tally {filter other : Filter} (h : filter.Alike other) (flags : Flags)
    (response : Response) : other.tally flags response = filter.tally flags response := by
  unfold Filter.tally
  rw [h.name, h.kind, h.enabled]

/-- **Selecting and taking a response over commute on every filter.** -/
theorem selecting_refreshing (values : List FacetValue) (flags : Flags) (response : Response)
    (filter : Filter) :
    (filter.refreshing flags response).selecting values =
      (filter.selecting values).refreshing flags response := by
  have haccept := (alike_refreshing flags response filter).mapM_accept values
  have htally := (alike_selecting values filter).tally flags response
  unfold selecting select at htally ⊢
  unfold refreshing refresh at haccept ⊢
  rw [haccept, htally]
  cases values.mapM (filter.kind.accept filter.name) with
  | error error => rfl
  | ok accepted => cases filter.tally flags response <;> rfl

/-- Clearing a selection commutes with a response as well. -/
theorem clear_refreshing (flags : Flags) (response : Response) (filter : Filter) :
    (filter.refreshing flags response).clear = filter.clear.refreshing flags response := by
  have htally : filter.clear.tally flags response = filter.tally flags response := rfl
  unfold refreshing refresh
  rw [htally]
  cases filter.tally flags response <;> rfl

end Filter

namespace Input

variable {flags : Flags} {search : Search} {input : Input}

/-! ## One input -/

/-- What an input that succeeds does to each filter. -/
def onFilter (flags : Flags) : Input → Filter → Filter
  | .select name values _, filter => if filter.name = name then filter.selecting values else filter
  | .clear name _, filter => if filter.name = name then filter.clear else filter
  | .arrive document _, filter =>
    match Response.ofJson? document with
    | some response => filter.refreshing flags response
    | none => filter

/-- What an input that succeeds does to the results that are held. -/
def onResults : Input → List SearchResult → List SearchResult
  | .arrive document mode, held =>
    match Response.ofJson? document with
    | some response => Search.resultsAfter mode held response.results
    | none => held
  | _, held => held

/-- What an input that succeeds says about how many results there are. -/
def onTotal : Input → UInt64 → UInt64
  | .arrive document _, total =>
    match Response.ofJson? document with
    | some response => response.hits.total
    | none => total
  | _, total => total

/-- What an input that succeeds makes of a search. -/
def apply (flags : Flags) (input : Input) (search : Search) : Search :=
  { search with
    filters := search.filters.map (input.onFilter flags)
    results := input.onResults search.results
    totalResults := input.onTotal search.totalResults }

/-- No input changes what operations on a filter look at. -/
theorem alike_onFilter (flags : Flags) (input : Input) (filter : Filter) :
    filter.Alike (input.onFilter flags filter) := by
  cases input with
  | select name values silent =>
    simp only [onFilter]
    split
    · exact filter.alike_selecting values
    · exact ⟨rfl, rfl, rfl⟩
  | clear name silent =>
    simp only [onFilter]
    split
    · exact ⟨rfl, rfl, rfl⟩
    · exact ⟨rfl, rfl, rfl⟩
  | arrive document mode =>
    simp only [onFilter]
    split
    · exact Filter.alike_refreshing flags _ filter
    · exact ⟨rfl, rfl, rfl⟩

/-- Putting a filter in its place is changing the filter of that name. -/
theorem update_eq_map (hnames : search.filters.names.Nodup) {name : String} {held : Filter}
    (hheld : search.filter name = .ok held) {f : Filter → Filter} (hname : (f held).name = name) :
    (search.filters.update (f held).name fun _ => f held) =
      search.filters.map fun filter => if filter.name = name then f filter else filter := by
  obtain ⟨hmem, hsame⟩ := Search.filter_eq_ok hheld
  rw [hname]
  refine congrArg Catalog.mk (List.map_congr_left fun filter hfilter => ?_)
  by_cases hthis : filter.name = name
  · obtain rfl : filter = held :=
      List.inj_on_of_nodup_map hnames hfilter hmem (hthis.trans hsame.symm)
    rfl
  · exact (if_neg hthis).trans (if_neg hthis).symm

theorem search_select (hnames : search.filters.names.Nodup) (name : String)
    (values : List FacetValue) (silent : Bool)
    (hanswer : (search.select name values silent).answer = .ok ()) :
    (search.select name values silent).search =
      apply flags (.select name values silent) search := by
  cases hheld : search.filter name with
  | error error =>
    unfold Search.select at hanswer
    rw [hheld] at hanswer
    cases hanswer
  | ok held =>
    rw [Search.select_eq hheld] at hanswer ⊢
    cases hselect : held.select values with
    | error error =>
      rw [hselect] at hanswer
      cases hanswer
    | ok next =>
      have hnext : next = held.selecting values := by
        rw [Filter.selecting, hselect]
      have hname : (held.selecting values).name = name :=
        (held.alike_selecting values).name.trans (Search.filter_eq_ok hheld).2
      dsimp only
      rw [Search.filters_withSelection, hnext, update_eq_map hnames hheld hname]
      rfl

theorem search_clearSelection (hnames : search.filters.names.Nodup) (name : String)
    (silent : Bool) (hanswer : (search.clearSelection name silent).answer = .ok ()) :
    (search.clearSelection name silent).search = apply flags (.clear name silent) search := by
  cases hheld : search.filter name with
  | error error =>
    unfold Search.clearSelection at hanswer
    rw [hheld] at hanswer
    cases hanswer
  | ok held =>
    have hclear : search.clearSelection name silent =
        search.withSelection held.clear held.selected silent := by
      unfold Search.clearSelection
      rw [hheld]
    have hname : held.clear.name = name := (Search.filter_eq_ok hheld).2
    rw [hclear, Search.filters_withSelection, update_eq_map hnames hheld hname]
    rfl

theorem search_absorb {document : Json} {mode : ResultMode}
    (hanswer : (search.absorb flags document mode).answer = .ok ()) :
    (search.absorb flags document mode).search = apply flags (.arrive document mode) search := by
  obtain ⟨error, hrefused⟩ | ⟨response, filters, hread, hrefreshed, habsorbed⟩ :=
    Search.absorb_cases flags search document mode
  · rw [hrefused] at hanswer
    cases hanswer
  · have hfilters : filters =
        search.filters.items.map (onFilter flags (.arrive document mode)) := by
      have hsteps : ∀ filter ∈ search.filters.items, filter.refresh flags response =
          .ok (onFilter flags (.arrive document mode) filter) := by
        intro filter hfilter
        obtain ⟨next, -, hnext⟩ := Fallible.exists_eq_ok_of_mapM hrefreshed hfilter
        simp only [onFilter, hread, Filter.refreshing, hnext]
      exact Except.ok.inj (hrefreshed.symm.trans (Fallible.mapM_eq_ok_map hsteps))
    rw [habsorbed, Search.absorbDecoded_eq, hfilters]
    simp only [apply, onResults, onTotal, hread]
    rfl

/-- An operation that fails only by refusing leaves what it says, or nothing. -/
theorem search_of_atomic {reply : Reply Unit} {next : Search} (hatomic : reply.Atomic search)
    (hok : reply.answer = .ok () → reply.search = next) :
    reply.search =
      match reply.answer with
      | .ok _ => next
      | .error _ => search := by
  cases hanswer : reply.answer with
  | ok answer => exact hok hanswer
  | error error =>
    rw [hatomic error hanswer]
    rfl

/-- **What an input does**: it changes the filters one by one, the results and their number, or
it fails and changes nothing. -/
theorem after_eq (hnames : search.filters.names.Nodup) (flags : Flags) (input : Input) :
    input.after flags search =
      match input.answer flags search with
      | .ok _ => input.apply flags search
      | .error _ => search := by
  cases input with
  | select name values silent =>
    exact search_of_atomic (search.plain_select name values silent).atomic
      (search_select hnames name values silent)
  | clear name silent =>
    exact search_of_atomic (search.plain_clearSelection name silent).atomic
      (search_clearSelection hnames name silent)
  | arrive document mode =>
    exact search_of_atomic (search.plain_absorb flags document mode).atomic search_absorb

/-- No input changes the names of the filters. -/
theorem names_after (hnames : search.filters.names.Nodup) (flags : Flags) (input : Input) :
    (input.after flags search).filters.names = search.filters.names := by
  rw [after_eq hnames]
  split
  · exact Catalog.names_map fun filter _ => (alike_onFilter flags input filter).name
  · rfl

/-! ## Two inputs -/

theorem answer_select (search : Search) (name : String) (values : List FacetValue)
    (silent : Bool) :
    (search.select name values silent).answer =
      match search.filters.get? name with
      | none => .error (.unknownFilter name)
      | some filter => (values.mapM (filter.kind.accept filter.name)).map fun _ => () := by
  unfold Search.select Search.filter Filter.select
  cases search.filters.get? name with
  | none => rfl
  | some filter =>
    dsimp only
    cases values.mapM (filter.kind.accept filter.name) with
    | error error => rfl
    | ok accepted => exact Search.answer_withSelection _ _ _ silent

theorem answer_clearSelection (search : Search) (name : String) (silent : Bool) :
    (search.clearSelection name silent).answer =
      match search.filters.get? name with
      | none => .error (.unknownFilter name)
      | some _ => .ok () := by
  unfold Search.clearSelection Search.filter
  cases search.filters.get? name with
  | none => rfl
  | some filter => exact Search.answer_withSelection _ _ _ silent

theorem answer_absorb (search : Search) (flags : Flags) (document : Json) (mode : ResultMode) :
    (search.absorb flags document mode).answer =
      match Response.ofJson? document with
      | none => .error (.malformedResponse .document)
      | some response => (search.filters.items.mapM fun filter : Filter =>
          filter.tally flags response).map fun _ => () := by
  unfold Search.absorb
  cases Response.ofJson? document with
  | none => rfl
  | some response =>
    dsimp only
    cases search.filters.items.mapM fun filter : Filter => filter.tally flags response with
    | error error => rfl
    | ok tallies =>
      dsimp only
      rw [Search.absorbDecoded_eq]
      rfl

/-- Whether an input succeeds depends on what no input changes. -/
theorem answer_of_alike {next : Search} {f : Filter → Filter}
    (hnext : next.filters = search.filters.map f) (hf : ∀ filter : Filter, filter.Alike (f filter))
    (flags : Flags) (input : Input) : input.answer flags next = input.answer flags search := by
  have hget : ∀ name, next.filters.get? name = (search.filters.get? name).map f := fun name =>
    hnext ▸ Catalog.get?_map fun filter _ => (hf filter).name
  cases input with
  | select name values silent =>
    show (next.select name values silent).answer = (search.select name values silent).answer
    rw [answer_select, answer_select, hget]
    cases search.filters.get? name with
    | none => rfl
    | some filter => simp only [Option.map_some, (hf filter).mapM_accept values]
  | clear name silent =>
    show (next.clearSelection name silent).answer = (search.clearSelection name silent).answer
    rw [answer_clearSelection, answer_clearSelection, hget]
    cases search.filters.get? name <;> rfl
  | arrive document mode =>
    show (next.absorb flags document mode).answer = (search.absorb flags document mode).answer
    rw [answer_absorb, answer_absorb, hnext]
    have htallies : ∀ response, (search.filters.map f).items.mapM
        (fun filter : Filter => filter.tally flags response) =
          search.filters.items.mapM fun filter : Filter => filter.tally flags response := by
      intro response
      have hsame : (fun filter : Filter => filter.tally flags response) ∘ f =
          fun filter : Filter => filter.tally flags response :=
        funext fun filter => (hf filter).tally flags response
      rw [Catalog.map, List.mapM_map, hsame]
    simp only [htallies]

/-- **Another input before it does not decide whether an input succeeds.** -/
theorem answer_after (hnames : search.filters.names.Nodup) (flags : Flags)
    (first second : Input) :
    second.answer flags (first.after flags search) = second.answer flags search := by
  rw [after_eq hnames]
  split
  · exact answer_of_alike rfl (alike_onFilter flags first) flags second
  · rfl

/-- A selection changes no filter of another name. -/
theorem onFilter_of_ne {name : String} (hlane : input.lane = some name) {filter : Filter}
    (hname : filter.name ≠ name) : input.onFilter flags filter = filter := by
  cases input with
  | select other values silent =>
    obtain rfl := Option.some.inj hlane
    exact if_neg hname
  | clear other silent =>
    obtain rfl := Option.some.inj hlane
    exact if_neg hname
  | arrive document mode => cases hlane

/-- A selection and a response commute on every filter. -/
theorem onFilter_arrive {name : String} (hlane : input.lane = some name) (document : Json)
    (mode : ResultMode) (filter : Filter) :
    input.onFilter flags ((arrive document mode).onFilter flags filter) =
      (arrive document mode).onFilter flags (input.onFilter flags filter) := by
  cases hread : Response.ofJson? document with
  | none => simp only [onFilter, hread]
  | some response =>
    simp only [onFilter, hread]
    have hname : (filter.refreshing flags response).name = filter.name :=
      (filter.alike_refreshing flags response).name
    cases input with
    | select other values silent =>
      simp only [hname]
      split
      · exact filter.selecting_refreshing values flags response
      · rfl
    | clear other silent =>
      simp only [hname]
      split
      · exact filter.clear_refreshing flags response
      · rfl
    | arrive other mode => cases hlane

/-- **Inputs of two lanes commute on every filter.** -/
theorem onFilter_comm {first second : Input} (hlanes : first.lane ≠ second.lane)
    (filter : Filter) :
    second.onFilter flags (first.onFilter flags filter) =
      first.onFilter flags (second.onFilter flags filter) := by
  cases hfirst : first.lane with
  | none =>
    cases hsecond : second.lane with
    | none => exact absurd (hfirst.trans hsecond.symm) hlanes
    | some name =>
      cases first with
      | arrive document mode => exact onFilter_arrive hsecond document mode filter
      | select | clear => cases hfirst
  | some name =>
    cases hsecond : second.lane with
    | none =>
      cases second with
      | arrive document mode => exact (onFilter_arrive hfirst document mode filter).symm
      | select | clear => cases hsecond
    | some other =>
      -- at most one of the two selections is about this filter
      have hnames : name ≠ other := fun heq => hlanes (by rw [hfirst, hsecond, heq])
      by_cases hname : filter.name = name
      · have hkept : (first.onFilter flags filter).name ≠ other := by
          rw [(alike_onFilter flags first filter).name, hname]
          exact hnames
        rw [onFilter_of_ne hsecond hkept, onFilter_of_ne hsecond (hname ▸ hnames)]
      · have hkept : (second.onFilter flags filter).name ≠ name := by
          rw [(alike_onFilter flags second filter).name]
          exact hname
        rw [onFilter_of_ne hfirst hname, onFilter_of_ne hfirst hkept]

/-- Only responses bring results, so the results of two lanes commute. -/
theorem onResults_comm {first second : Input} (hlanes : first.lane ≠ second.lane)
    (held : List SearchResult) (total : UInt64) :
    second.onResults (first.onResults held) = first.onResults (second.onResults held) ∧
      second.onTotal (first.onTotal total) = first.onTotal (second.onTotal total) := by
  cases first with
  | select | clear => exact ⟨rfl, rfl⟩
  | arrive document mode =>
    cases second with
    | select | clear => exact ⟨rfl, rfl⟩
    | arrive => exact absurd rfl hlanes

theorem apply_comm {first second : Input} (hlanes : first.lane ≠ second.lane) (flags : Flags)
    (search : Search) :
    second.apply flags (first.apply flags search) =
      first.apply flags (second.apply flags search) := by
  have hfilters : (search.filters.map (first.onFilter flags)).map (second.onFilter flags) =
      (search.filters.map (second.onFilter flags)).map (first.onFilter flags) := by
    unfold Catalog.map
    rw [List.map_map, List.map_map]
    exact congrArg Catalog.mk (List.map_congr_left fun filter _ => onFilter_comm hlanes filter)
  obtain ⟨hresults, htotal⟩ := onResults_comm hlanes search.results search.totalResults
  simp only [apply, hfilters, hresults, htotal]

/-- **Two inputs of two lanes lead to the same search in either order**, whether they succeed or
fail. -/
theorem after_comm (hnames : search.filters.names.Nodup) (flags : Flags) {first second : Input}
    (hlanes : first.lane ≠ second.lane) :
    second.after flags (first.after flags search) =
      first.after flags (second.after flags search) := by
  have hafter : ∀ input : Input, (input.after flags search).filters.names.Nodup := fun input => by
    rw [names_after hnames]
    exact hnames
  rw [after_eq (hafter first), after_eq (hafter second), answer_after hnames,
    answer_after hnames, after_eq hnames flags first, after_eq hnames flags second]
  cases first.answer flags search with
  | error error =>
    cases second.answer flags search with
    | error other => rfl
    | ok answer => rfl
  | ok answer =>
    cases second.answer flags search with
    | error error => rfl
    | ok other => exact apply_comm hlanes flags search

end Input

/-! ## Any number of inputs -/

namespace Search

variable {search : Search}

/-- The search after inputs that reach it one after the other. -/
def afterAll (flags : Flags) (search : Search) (inputs : List Input) : Search :=
  inputs.foldl (fun search input => input.after flags search) search

/-- An input succeeds or fails wherever it stands. -/
theorem answer_afterAll (hnames : search.filters.names.Nodup) (flags : Flags)
    (before : List Input) (input : Input) :
    input.answer flags (search.afterAll flags before) = input.answer flags search := by
  induction before generalizing search with
  | nil => rfl
  | cons other rest ih =>
    have hother : (other.after flags search).filters.names.Nodup :=
      Input.names_after hnames flags other ▸ hnames
    exact (ih hother).trans (Input.answer_after hnames flags other input)

/-- **The order in which selections and responses reach a search does not matter**, as long as
the responses keep their order and so do the selections of each filter.  A selection by value, or
its clearing, and a response lead to the same search in either order, and so do selections of two
filters; each succeeds or fails as it would by itself; and all interleavings end in the same
search, that is with the same fields, filters, results and totals. -/
theorem interleavings_agree (h : search.Reachable) (flags : Flags) :
    (∀ first second : Input, first.lane ≠ second.lane →
      second.after flags (first.after flags search) =
        first.after flags (second.after flags search)) ∧
    (∀ (before : List Input) (input : Input),
      input.answer flags (search.afterAll flags before) = input.answer flags search) ∧
    ∀ first second : List Input,
      (∀ lane, first.filter (fun input => input.lane = lane) =
        second.filter fun input => input.lane = lane) →
      search.afterAll flags first = search.afterAll flags second := by
  have hnames : search.filters.names.Nodup := h.coherent.names
  refine ⟨fun first second hlanes => Input.after_comm hnames flags hlanes,
    answer_afterAll hnames flags, fun first second hlanes => ?_⟩
  have hkept : ∀ (search : Search) (input : Input), search.filters.names.Nodup →
      (input.after flags search).filters.names.Nodup :=
    fun _ input hnodup => Input.names_after hnodup flags input ▸ hnodup
  exact foldl_eq_of_lanes hkept
    (fun _ _ _ hnodup hapart => Input.after_comm hnodup flags hapart) hlanes hnames

/-- A filter is chosen from and another cleared while two responses arrive; one more selection is
of a filter that is not there. -/
theorem interleavings_agree_of_two_responses :
    let flags : Flags := fun _ => true
    let filters : List Filter :=
      [.ofKind "tags" (.term .default), .ofKind "author" (.term .default)]
    let search : Search := { Search.new with filters := ⟨filters⟩ }
    let listed := Json.obj [("terms", .arr [.obj [("term", .str "a"), ("count", .int 2)]])]
    let document (total : Int) := Json.obj [("hits", .obj [("total", .int total)]),
      ("facets", .obj [("tags", listed), ("author", listed)])]
    let choose : Input := .select "tags" [.term (.text "a")] false
    let clear : Input := .clear "author" true
    let missing : Input := .select "year" [] false
    let arrive (total : Int) : Input := .arrive (document total) .append
    let first := [choose, arrive 3, clear, missing, arrive 2]
    let second := [arrive 3, arrive 2, missing, clear, choose]
    search.Reachable ∧ choose.answer flags search = .ok () ∧
      (arrive 3).answer flags search = .ok () ∧
      missing.answer flags search = .error (.unknownFilter "year") ∧
      (∀ lane, first.filter (fun input => input.lane = lane) =
        second.filter fun input => input.lane = lane) ∧
      choose.answer flags (search.afterAll flags [arrive 3, arrive 2, missing, clear]) = .ok () ∧
      search.afterAll flags first = search.afterAll flags second := by
  intro flags filters search listed document choose clear missing arrive first second
  have hreach : search.Reachable := .call (.replaceFilters filters)
    (List.forall_mem_cons.2 ⟨.ofKind _ _, List.forall_mem_singleton.2 (.ofKind _ _)⟩) .new
  have hchoose : choose.answer flags search = .ok () := rfl
  have hlanes : ∀ lane, first.filter (fun input => input.lane = lane) =
      second.filter fun input => input.lane = lane := by
    intro lane
    rcases lane with - | name
    · rfl
    · by_cases htags : "tags" = name
      · subst htags
        rfl
      · by_cases hauthor : "author" = name
        · subst hauthor
          rfl
        · simp [first, second, choose, clear, missing, arrive, List.filter_cons, htags, hauthor]
  obtain ⟨-, hanswer, hagree⟩ := interleavings_agree hreach flags
  exact ⟨hreach, hchoose, rfl, rfl, hlanes, (hanswer _ choose).trans hchoose,
    hagree first second hlanes⟩

end Search
end FacetedSearch
