import FacetedSearch.Proofs.Search.Rest
import FacetedSearch.Session

/-!
# A fetch from beginning to end

A fetch sends one request and listeners hear when it begins and when it ends.  What they
hear in between, and what becomes of the search, is what taking the response over would
come to by itself.  If that fails, or if the transport does, nothing is left of the fetch
but the announcement that it failed.  Only a response whose sums do not fit breaks the fetch
off, and then it has no end.

## The mark

While the request is under way the search is marked, and the response is taken over by the
marked search.  That makes no difference: nothing that is read of a response depends on the
mark, so it is still set in the end and can be taken off (`Search.receive_withLoading`).
Listeners hear of the mark only if it changes.  Between operations no search is marked, so
they always hear of it twice.

* `Search.exists_request`: a request is never rejected;
* `Search.receive_withLoading`: taking a response over, marked or not;
* `Search.fetch_of_idle`: a fetch in terms of what is received;
* `Session.fetch_brackets`: the ways in which a fetch can end.
-/

namespace FacetedSearch
namespace Search

/-! ## The request -/

/-- A request is never rejected, be it for a window or for one page of any. -/
theorem exists_request (flags : Flags) (search : Search) (window : Option Window) :
    ∃ request, search.request flags window = .ok request := by
  cases window with
  | some window =>
    obtain ⟨request, hrequest, -⟩ := request_spec flags search window
    exact ⟨request, hrequest⟩
  | none =>
    have hapart : ∀ key ∈ sectionKeys, key ∉ ["size"] := by decide
    have hseed : ∀ key ∈ sectionKeys,
        Assoc.get? key [("size", Json.ofUInt64 search.pageLength)] = none :=
      fun key hkey => Assoc.get?_eq_none_iff.2 (hapart key hkey)
    obtain ⟨request, hcompile, -⟩ := compile_spec flags search.options search hseed
    refine ⟨request, ?_⟩
    show (search.compile flags search.options _).mapError Rejection.error = .ok request
    rw [hcompile]
    rfl

/-! ## The mark -/

/-- The same search, marked as loading or not. -/
def withLoading (search : Search) (loading : Bool) : Search :=
  { search with loading := loading }

theorem withLoading_self {search : Search} {loading : Bool} (h : search.loading = loading) :
    search.withLoading loading = search := by
  rw [withLoading, ← h]

/-- Taking a response over does not depend on the mark, and leaves it. -/
theorem absorb_withLoading (search : Search) (loading : Bool) (flags : Flags) (document : Json)
    (mode : ResultMode) :
    (search.withLoading loading).absorb flags document mode =
      ⟨(search.absorb flags document mode).answer,
        (search.absorb flags document mode).search.withLoading loading,
        (search.absorb flags document mode).events⟩ := by
  have hfilters : (search.withLoading loading).filters = search.filters := rfl
  unfold absorb
  rw [hfilters]
  split
  · rfl
  · split
    · rfl
    · cases mode <;> rfl

/-- What a transport brought is received by a marked search as by any other. -/
theorem receive_withLoading (search : Search) (loading : Bool) (flags : Flags) (mode : ResultMode)
    (brought : Except (List String) Json) :
    (search.withLoading loading).receive flags mode brought =
      ((search.receive flags mode brought).1,
        (search.receive flags mode brought).2.1.withLoading loading,
        (search.receive flags mode brought).2.2) := by
  cases brought with
  | error chain => rfl
  | ok document => simp only [receive, absorb_withLoading]

/-- Setting a mark to another value is heard. -/
theorem markLoading_of_ne {search : Search} {loading : Bool} (h : search.loading ≠ loading) :
    search.markLoading loading =
      .announce (search.withLoading loading) () [⟨.loadingChanged loading, .loading⟩] := by
  rw [markLoading, if_neg h]
  rfl

/-! ## The fetch -/

/-- What listeners hear when a request gets under way. -/
def began : List Event := [.specific (.loadingChanged true), .changed .loading]

/-- What listeners hear when a request is no longer under way. -/
def ended : List Event := [.specific (.loadingChanged false), .changed .loading]

/-- What listeners hear of a failure. -/
def failed (error : FetchError) : List Event :=
  [.specific (.fetchFailed error.message), .changed .results]

/-- A fetch that succeeded is concluded by taking the mark off. -/
theorem conclude_ok (search : Search) :
    (search.withLoading true).conclude (.ok ()) = (search.withLoading false, ended) := by
  have hend : (search.withLoading true).loading ≠ false := fun h => Bool.noConfusion h
  unfold conclude
  rw [markLoading_of_ne hend]
  rfl

/-- A fetch that failed is concluded by taking the mark off and saying why. -/
theorem conclude_error (search : Search) {error : FetchError} (h : error.breaksOff = false) :
    (search.withLoading true).conclude (.error error) =
      (search.withLoading false, ended ++ failed error) := by
  have hend : (search.withLoading true).loading ≠ false := fun h => Bool.noConfusion h
  unfold conclude
  rw [markLoading_of_ne hend]
  dsimp only
  rw [h]
  rfl

/-- A fetch that is broken off is not concluded. -/
theorem conclude_of_breaksOff (search : Search) {error : FetchError}
    (h : error.breaksOff = true) : search.conclude (.error error) = (search, []) := by
  unfold conclude
  dsimp only
  rw [h]
  rfl

/-- **What is received is received by the marked search, between two announcements.** -/
theorem fetch_of_idle {search : Search} {flags : Flags} (later : Flags) (transport : Transport)
    {window : Option Window} (mode : ResultMode) {request : Request}
    (hidle : search.loading = false) (hrequest : search.request flags window = .ok request) :
    search.fetch flags later transport window mode =
      let (outcome, received, events) := search.receive later mode (transport request)
      let (concluded, ending) := (received.withLoading true).conclude outcome
      ⟨[request], outcome, concluded, began ++ events ++ ending⟩ := by
  have hbegin : search.loading ≠ true := by
    rw [hidle]
    exact Bool.false_ne_true
  unfold fetch
  rw [hrequest]
  simp only [markLoading_of_ne hbegin, Reply.announce, receive_withLoading]
  rfl

end Search

namespace Session

open Search

/-- A fetch that failed: one request was sent, and listeners heard of the beginning, of the
end and of the failure, in this order. -/
def failing (session : Session) (request : Request) (error : FetchError) :
    Except FetchError Unit × List Request × Session :=
  (.error error, [request],
    session.advance session.search (began ++ ended ++ failed error))

/-- A fetch that was broken off: one request was sent, and listeners heard of the beginning. -/
def brokenOff (session : Session) (request : Request) :
    Except FetchError Unit × List Request × Session :=
  (.error (.applying .overflow), [request],
    session.advance (session.search.withLoading true) began)

/-- What a fetch comes to, by the one request that it sends. -/
theorem fetch_eq_of_atRest {session : Session} (h : session.search.AtRest) {flags : Flags}
    (later : Flags) (transport : Transport) {window : Option Window} (mode : ResultMode)
    {request : Request} (hrequest : session.search.request flags window = .ok request) :
    (session.fetch fun search => search.fetch flags later transport window mode) =
      match transport request with
      | .error chain => session.failing request (.transport chain)
      | .ok document =>
        match (session.search.absorb later document mode).answer with
        | .error .overflow => session.brokenOff request
        | .error cause => session.failing request (.applying cause)
        | .ok () =>
          (.ok (), [request],
            session.advance (session.search.absorb later document mode).search
              (began ++ (session.search.absorb later document mode).events ++ ended)) := by
  have hidle : session.search.withLoading false = session.search := withLoading_self h.idle
  simp only [Session.fetch, fetch_of_idle later transport mode h.idle hrequest]
  cases hbrought : transport request with
  | error chain =>
    simp only [receive, List.append_nil]
    rw [conclude_error session.search rfl, hidle, ← List.append_assoc]
    rfl
  | ok document =>
    have hmoves : (session.search.absorb later document mode).search.loading = false :=
      ((session.search.moves_absorb later document mode).atRest h).idle
    simp only [receive]
    cases hanswer : (session.search.absorb later document mode).answer with
    | ok answer =>
      simp only [Except.mapError, show answer = () from rfl, conclude_ok, withLoading_self hmoves]
    | error cause =>
      rw [(session.search.plain_absorb later document mode).atomic cause hanswer]
      cases cause with
      | overflow =>
        simp only [Except.mapError, Reply.refuse, List.append_nil]
        rw [conclude_of_breaksOff (session.search.withLoading true) rfl, List.append_nil]
        rfl
      | _ =>
        simp only [Except.mapError, Reply.refuse, List.append_nil]
        rw [conclude_error session.search rfl, hidle, ← List.append_assoc]
        rfl

/-- A fetch is broken off exactly if taking the response over is. -/
theorem returns_fetch_eq_false_iff {search : Search} {flags : Flags} {later : Flags}
    {transport : Transport} {window : Option Window} {mode : ResultMode} {request : Request}
    (hrequest : search.request flags window = .ok request) :
    (search.fetch flags later transport window mode).returns = false ↔
      ∃ document, transport request = .ok document ∧
        (search.absorb later document mode).answer = .error .overflow := by
  obtain ⟨-, houtcome, -⟩ := fetch_eq transport later mode hrequest
  have hmarked : (({ search with loading := true } : Search).receive later mode
      (transport request)).1 = (search.receive later mode (transport request)).1 := by
    rw [← withLoading, receive_withLoading]
  rw [FetchReply.returns, houtcome, hmarked]
  cases hbrought : transport request with
  | error chain =>
    refine iff_of_false (fun h => Bool.noConfusion h) ?_
    rintro ⟨document, hdocument, -⟩
    cases hdocument
  | ok document =>
    simp only [Except.ok.injEq, exists_eq_left']
    cases hanswer : (search.absorb later document mode).answer with
    | ok answer => simp only [receive, hanswer, Except.mapError, reduceCtorEq]
    | error cause =>
      simp only [receive, hanswer, Except.mapError, Except.error.injEq]
      cases cause <;> simp [FetchError.breaksOff, FetchError.cause?, SearchError.breaksOff]

end Session
end FacetedSearch
