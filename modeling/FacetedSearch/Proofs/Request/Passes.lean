import FacetedSearch.Proofs.Request.Build

/-!
# The passes of a request are independent

A request is compiled in four passes, and that the query comes first and the conditions last is
a habit.  Each pass keeps to the sections that it adds to: what it writes there, and whether it
is rejected, depends on the search, on what is included, and on what these sections held before.
No two passes have a section in common.  So they can run in any order: either every order is
rejected, or every order gives each key the same section.  Which fault is reported may depend on
the order, and so may the order in which new sections come.

Leaving one pass out leaves the sections of the seed where that pass would have written, and
changes nothing else.

* `Pass`, `Pass.keys`, `Pass.run`: the passes and their sections;
* `Search.runPasses`: the passes in any order, of which `Search.compile` is one;
* `RequestOptions.without`: leaving a pass out;
* `Search.apart_passes`: the passes keep to sections of their own;
* `Search.passes_independent`: what follows for requests.
-/

namespace FacetedSearch

/-- The passes in which a request is compiled. -/
inductive Pass where
  | query
  | fields
  | facets
  | conditions
  deriving DecidableEq

namespace Pass

/-- The passes in the order in which a request is compiled. -/
def all : List Pass := [.query, .fields, .facets, .conditions]

/-- The sections that a pass adds to. -/
def keys : Pass → List String
  | .query => ["query"]
  | .fields => fieldKeys
  | .facets => ["facets"]
  | .conditions => ["filter"]

/-- Runs one pass. -/
def run (flags : Flags) (options : RequestOptions) (search : Search) :
    Pass → Request → Except Rejection Request
  | .query => search.compileQuery
  | .fields => search.compileFields flags options
  | .facets => search.compileFacets flags options
  | .conditions => search.compileConditions flags options

theorem keys_subset (pass : Pass) : pass.keys ⊆ sectionKeys := by cases pass <;> decide

/-- The pass that a section belongs to, if any. -/
def owner? (key : String) : Option Pass := all.find? fun pass => pass.keys.contains key

theorem mem_all (pass : Pass) : pass ∈ all := by cases pass <;> decide

theorem nodup_all : all.Nodup := by decide

/-- No section belongs to two passes. -/
theorem owner?_of_mem (pass : Pass) : ∀ key ∈ pass.keys, owner? key = some pass := by
  cases pass <;> decide

theorem mem_of_owner? {pass : Pass} {key : String} (h : owner? key = some pass) :
    key ∈ pass.keys := by
  simpa using List.find?_some h

end Pass

/-- The options without a pass.  The query is always included. -/
def RequestOptions.without (options : RequestOptions) : Pass → RequestOptions
  | .query => options
  | .fields => { options with includeFields := false }
  | .facets => { options with includeFacets := false }
  | .conditions => { options with includeFilters := false }

namespace Pass

variable {flags : Flags} {options : RequestOptions} {search : Search}

/-- A pass that is left out does nothing. -/
theorem run_without_self {pass : Pass} (hpass : pass ≠ .query) :
    pass.run flags (options.without pass) search = .ok := by
  cases pass with
  | query => exact absurd rfl hpass
  | fields | facets | conditions => rfl

/-- The other passes do what they did. -/
theorem run_without_of_ne {pass other : Pass} (hne : other ≠ pass) :
    other.run flags (options.without pass) search = other.run flags options search := by
  cases pass <;> cases other <;> first | rfl | exact absurd rfl hne

end Pass

namespace Search

variable {flags : Flags} {options : RequestOptions} {search : Search} {seed request : Request}
  {order : List Pass} {key : String}

/-- Runs the passes in some order. -/
def runPasses (flags : Flags) (options : RequestOptions) (search : Search) (order : List Pass)
    (seed : Request) : Except Rejection Request :=
  Request.inTurn (Pass.run flags options search) order seed

/-- A request is compiled in the order of all passes. -/
theorem compile_eq_runPasses (flags : Flags) (options : RequestOptions) (search : Search)
    (seed : Request) :
    search.compile flags options seed = search.runPasses flags options Pass.all seed := by
  have hlast : ∀ last : Except Rejection Request, last = last.bind .ok := by
    intro last
    cases last <;> rfl
  show (search.compileQuery seed).bind _ = (search.compileQuery seed).bind _
  refine congrArg _ (funext fun asked => congrArg (search.compileFields flags options asked).bind
    (funext fun fielded => congrArg (search.compileFacets flags options fielded).bind
      (funext fun faceted => hlast _)))

/-- **The passes keep to sections of their own.** -/
theorem apart_passes (flags : Flags) (options : RequestOptions) (search : Search) :
    Request.Apart Pass.keys (Pass.run flags options search) where
  keeps pass := by
    cases pass with
    | query => exact search.keepsTo_compileQuery
    | fields => exact keepsTo_compileFields flags options search
    | facets => exact keepsTo_compileFacets flags options search
    | conditions => exact keepsTo_compileConditions flags options search
  disjoint pass other hne key hpass hother :=
    hne (Option.some.inj ((pass.owner?_of_mem key hpass).symm.trans (other.owner?_of_mem key hother)))

/-! ## Any order -/

/-- The passes go through in some order exactly if each does on the seed. -/
theorem exists_runPasses_iff (horder : order.Perm Pass.all) :
    (∃ request, search.runPasses flags options order seed = .ok request) ↔
      ∀ pass : Pass, ∃ next, pass.run flags options search seed = .ok next :=
  ((apart_passes flags options search).exists_inTurn_iff
    (horder.nodup_iff.2 Pass.nodup_all)).trans
      (forall_congr' fun pass => forall_prop_of_true (horder.mem_iff.2 pass.mem_all))

/-- Each pass goes through on the seed, and its sections stay as it leaves them there. -/
theorem exists_run_of_runPasses (horder : order.Perm Pass.all)
    (h : search.runPasses flags options order seed = .ok request) (pass : Pass) :
    ∃ next, pass.run flags options search seed = .ok next ∧
      Request.AgreeOn pass.keys request next := by
  obtain ⟨next, hnext⟩ := (exists_runPasses_iff horder).1 ⟨request, h⟩ pass
  have hown := ((apart_passes flags options search).get?_inTurn
    (horder.nodup_iff.2 Pass.nodup_all) h).1 pass (horder.mem_iff.2 pass.mem_all)
  rw [hnext] at hown
  exact ⟨next, hnext, hown⟩

/-- The section of a key after all passes: what the pass that it belongs to gives it alone. -/
def sectionAfter? (flags : Flags) (options : RequestOptions) (search : Search) (seed : Request)
    (key : String) : Option Json :=
  match Pass.owner? key with
  | some pass => Assoc.get? key (Request.leftBehind (pass.run flags options search seed))
  | none => Assoc.get? key seed

/-- Nothing but the sections of the passes is changed. -/
theorem sectionAfter?_of_notMem (hkey : key ∉ sectionKeys) :
    search.sectionAfter? flags options seed key = Assoc.get? key seed := by
  have howner : Pass.owner? key = none := List.find?_eq_none.2 fun pass _ hcontains =>
    hkey (pass.keys_subset (List.contains_iff_mem.1 hcontains))
  rw [sectionAfter?, howner]

/-- What a request holds does not depend on the order of the passes. -/
theorem get?_of_runPasses (horder : order.Perm Pass.all)
    (h : search.runPasses flags options order seed = .ok request) (key : String) :
    Assoc.get? key request = search.sectionAfter? flags options seed key := by
  obtain ⟨hown, hkept⟩ := (apart_passes flags options search).get?_inTurn
    (horder.nodup_iff.2 Pass.nodup_all) h
  unfold sectionAfter?
  cases howner : Pass.owner? key with
  | some pass => exact hown pass (horder.mem_iff.2 pass.mem_all) key (Pass.mem_of_owner? howner)
  | none =>
    refine hkept key fun pass _ hmem => ?_
    rw [pass.owner?_of_mem key hmem] at howner
    cases howner

/-! ## Leaving a pass out -/

/-- Where one pass is left out, the others do what they did, and its own sections stay. -/
theorem sectionAfter?_without {pass : Pass} (hpass : pass ≠ .query) (key : String) :
    search.sectionAfter? flags (options.without pass) seed key =
      if key ∈ pass.keys then Assoc.get? key seed
      else search.sectionAfter? flags options seed key := by
  unfold sectionAfter?
  cases howner : Pass.owner? key with
  | none => exact (ite_self _).symm
  | some owner =>
    by_cases hmem : key ∈ pass.keys
    · obtain rfl : pass = owner :=
        Option.some.inj ((pass.owner?_of_mem key hmem).symm.trans howner)
      dsimp only
      rw [if_pos hmem, Pass.run_without_self hpass]
      rfl
    · have hne : owner ≠ pass := by
        rintro rfl
        exact hmem (Pass.mem_of_owner? howner)
      dsimp only
      rw [if_neg hmem, Pass.run_without_of_ne hne]

/-- **The passes of a request are independent.**  Each of them, whatever the request is that it
is run on, changes at most its own sections, and what it leaves there and whether it is rejected
depends on nothing of the request but these sections.  So for every seed either every order of
the passes is rejected, or every order gives each key the same section, which is also what
compiling gives it.  And where an order is not rejected, it is not rejected either without one
of the passes that can be left out, and then the sections of that pass are those of the seed and
all others are as before. -/
theorem passes_independent (flags : Flags) (options : RequestOptions) (search : Search) :
    (∀ pass : Pass, Request.KeepsTo pass.keys (pass.run flags options search)) ∧
      ∀ seed,
        search.compile flags options seed = search.runPasses flags options Pass.all seed ∧
        ((∀ order, order.Perm Pass.all → ∃ rejection,
            search.runPasses flags options order seed = .error rejection) ∨
          ∃ sections : String → Option Json, ∀ order, order.Perm Pass.all → ∃ request,
            search.runPasses flags options order seed = .ok request ∧
              ∀ key, Assoc.get? key request = sections key) ∧
        ∀ order request, order.Perm Pass.all →
          search.runPasses flags options order seed = .ok request → ∀ pass, pass ≠ .query →
          ∃ less, search.runPasses flags (options.without pass) order seed = .ok less ∧
            (∀ key ∈ pass.keys, Assoc.get? key less = Assoc.get? key seed) ∧
            ∀ key, key ∉ pass.keys → Assoc.get? key less = Assoc.get? key request := by
  refine ⟨(apart_passes flags options search).keeps, fun seed =>
    ⟨compile_eq_runPasses flags options search seed, ?_, ?_⟩⟩
  · by_cases hevery : ∀ pass : Pass, ∃ next, pass.run flags options search seed = .ok next
    · refine Or.inr ⟨search.sectionAfter? flags options seed, fun order horder => ?_⟩
      obtain ⟨request, hrequest⟩ := (exists_runPasses_iff horder).2 hevery
      exact ⟨request, hrequest, get?_of_runPasses horder hrequest⟩
    · refine Or.inl fun order horder => ?_
      cases houtcome : search.runPasses flags options order seed with
      | ok request => exact absurd ((exists_runPasses_iff horder).1 ⟨request, houtcome⟩) hevery
      | error rejection => exact ⟨rejection, rfl⟩
  · intro order request horder hrequest pass hpass
    have hevery := (exists_runPasses_iff horder).1 ⟨request, hrequest⟩
    have hless : ∀ other : Pass, ∃ next,
        other.run flags (options.without pass) search seed = .ok next := by
      intro other
      by_cases hother : other = pass
      · rw [hother, Pass.run_without_self hpass]
        exact ⟨seed, rfl⟩
      · rw [Pass.run_without_of_ne hother]
        exact hevery other
    obtain ⟨less, hrun⟩ := (exists_runPasses_iff horder).2 hless
    refine ⟨less, hrun, fun key hkey => ?_, fun key hkey => ?_⟩
    · rw [get?_of_runPasses horder hrun, sectionAfter?_without hpass, if_pos hkey]
    · rw [get?_of_runPasses horder hrun, sectionAfter?_without hpass, if_neg hkey,
        get?_of_runPasses horder hrequest]

/-- The passes are run from the last to the first, onto a seed with facets of its own, and then
without the facets. -/
theorem passes_independent_reversed :
    let search : Search := { Search.new with filters := ⟨[.ofKind "tag" (.term .default)]⟩ }
    let seed : Request := [("facets", .obj [("tag", .null), ("year", .int 1)])]
    let order : List Pass := [.conditions, .facets, .fields, .query]
    order.Perm Pass.all ∧ Pass.facets ≠ .query ∧
      ∃ request less, search.runPasses (fun _ => true) .all order seed = .ok request ∧
        search.runPasses (fun _ => true) (RequestOptions.all.without .facets) order seed =
          .ok less ∧
        Assoc.get? "facets" less = Assoc.get? "facets" seed ∧
        Assoc.get? "query" less = Assoc.get? "query" request := by
  intro search seed order
  have horder : order.Perm Pass.all := by decide
  have hpass : Pass.facets ≠ .query := by decide
  obtain ⟨request, hrequest⟩ :
      ∃ request, search.runPasses (fun _ => true) .all order seed = .ok request := ⟨_, rfl⟩
  obtain ⟨less, hless, hown, hkept⟩ := ((passes_independent (fun _ => true) .all search).2
    seed).2.2 order request horder hrequest .facets hpass
  exact ⟨horder, hpass, request, less, hrequest, hless, hown "facets" (by decide),
    hkept "query" (by decide)⟩

end Search
end FacetedSearch
