import FacetedSearch.Proofs.Filter.ByIds
import FacetedSearch.Proofs.Number.IntegerText

/-!
# Choices taken from what responses list

A filter shows every facet that a response listed, whatever its value is, under the id that the
value has.  Taking the choice means giving that id back.  Three things can come of it.

The id cannot be read.  An id over integers has to be the text of one, and an id over intervals
has no place for a sign or a word; so a text that is no number, or an interval with a negative
bound, is shown but cannot be taken.

The id is read, but what is selected has another spelling.  Texts that stand for integers are
listed as they are, say with a plus sign or a leading zero, and are selected as the integer.

Or the id is the one spelling of what is read from it.  Then the choice can be taken, unless the
id leads to a facet that only looks like what the id says (`Filter.LeadsExactly`): an interval
that equals it but has a negative zero, or a double next to a large integer, whose text is that
integer.

* `FilterKind.canonicalId?_range_id`: which intervals cannot be taken;
* `Filter.OffersRead.canonicalId?_eq`: spelled otherwise is only what a filter over integers lists;
* `Filter.answers_of_canonical`: what an id in its one spelling leads to;
* `Filter.exists_accepted_of_numeric`: what an id leads to over integers;
* `Filter.isSelected_eq_false`: what is never marked;
* `Filter.offersRead_of_refresh`: what a response leaves to be offered.
-/

namespace FacetedSearch

namespace FilterKind

variable {kind : FilterKind} {id : String}

/-! ## Ids in their one spelling -/

/-- An id that is its own spelling denotes finite bounds, where it denotes an interval. -/
theorem readsFinite_of_canonicalId? (h : kind.canonicalId? id = some id) :
    kind.ReadsFinite id := by
  rintro options rfl bounds hbounds
  rw [canonicalId?, hbounds] at h
  have hid : bounds.id = id := Option.some.inj h
  rw [← hid] at hbounds
  exact Bounds.hasInfinity_of_isEncodable (Bounds.isEncodable_of_ofId?_id hbounds)

/-- The id of an interval is its own spelling if an id can carry the interval, and cannot be read
otherwise. -/
theorem canonicalId?_range_id (options : RangeOptions) (bounds : Bounds) :
    (range options).canonicalId? bounds.id =
      if bounds.isEncodable = true then some bounds.id else none := by
  rw [canonicalId?]
  split
  · next hencodable => rw [Bounds.ofId?_id hencodable, Option.map_some]
  · next hencodable =>
    rw [Option.map_eq_none_iff, Option.eq_none_iff_forall_ne_some]
    intro read hread
    exact hencodable (Bounds.isEncodable_of_ofId?_id hread)

/-- A double whose text is an integer is selected as an integer. -/
theorem accepted?_double {options : TermsOptions} {x : Binary64} {n : Int64}
    (h : integerOfText? x.plainText = some n) :
    (numeric options).accepted? (.term (.float x)) = some (.term (.int x.toInt64)) := by
  rw [accepted?, integerOf?, if_pos (Binary64.isIntegral_of_integerOfText? h), Option.map_some]

end FilterKind

namespace Filter

variable {filter : Filter} {id : String} {facet : Facet}

/-! ## How listed values are spelled -/

/-- **The id of a listed value is its own spelling**, if it can be read, unless the filter is over
integers. -/
theorem OffersRead.canonicalId?_eq (h : filter.OffersRead) (hkind : filter.kind.isBuiltIn = true)
    (hfacet : facet ∈ filter.available) {spelled : String}
    (hspelled : filter.kind.canonicalId? facet.id = some spelled) :
    spelled = facet.id ∨ ∃ options, filter.kind = .numeric options := by
  obtain hnone | ⟨raw, total, hraw⟩ := h
  · rw [hnone] at hfacet
    exact absurd hfacet List.not_mem_nil
  · cases hcase : filter.kind with
    | custom other =>
      rw [hcase] at hkind
      cases hkind
    | term options =>
      rw [hcase] at hspelled
      exact Or.inl (Option.some.inj hspelled).symm
    | numeric options => exact Or.inr ⟨options, rfl⟩
    | range options =>
      rw [hcase] at hraw hspelled
      obtain ⟨bounds, hbounds⟩ := FilterKind.exists_range_of_readSection hraw hfacet
      obtain ⟨read, hread, rfl⟩ := Option.map_eq_some_iff.1 hspelled
      have hid : facet.id = bounds.id := congrArg FacetValue.id hbounds
      rw [hid] at hread ⊢
      exact Or.inl (congrArg Bounds.id (Bounds.eq_of_ofId?_id hread))

/-! ## What an id leads to -/

/-- The facet that an id leads to is what the id says: it is no interval that has a negative zero,
and no double next to a large integer that it is not. -/
structure LeadsExactly (filter : Filter) (id : String) : Prop where
  noNegativeZero : ∀ options, filter.kind = .range options →
    ∀ facet, filter.facetOfId id = .ok facet → facet.key.hasNegativeZero = false
  exactDouble : ∀ options, filter.kind = .numeric options →
    ∀ facet, filter.facetOfId id = .ok facet → ∀ x, facet.key = .term (.float x) →
      ∀ n, integerOfText? id = some n → 2 * blockRanks ≤ n.toInt.natAbs → x.truncate = n.toInt

/-- What an id leads to gives the one spelling of the id when it is selected, or it is a double
that has the id, among integers. -/
theorem answers_or_double (settled : filter.Settled) (hread : filter.OffersRead)
    (hkind : filter.kind.isBuiltIn = true) (hfinite : filter.kind.ReadsFinite id)
    (h : filter.facetOfId id = .ok facet)
    (hzero : ∀ options, filter.kind = .range options → facet.key.hasNegativeZero = false) :
    filter.kind.Answers id facet.key ∨
      ∃ options x, filter.kind = .numeric options ∧ facet.key = .term (.float x) ∧
        x.plainText = id := by
  obtain ⟨read, hof, ⟨hmem, hfits⟩ | hanswers⟩ := listed_or_answers settled hfinite h
  · rcases hread.lists_or_double hkind hmem hzero with hlists | ⟨options, x, hnumeric, hdouble⟩
    · rcases hfits with hsame | hid
      · exact Or.inl (FilterKind.answers_of_sameValue settled.keeps hof hlists hfinite hsame)
      · exact Or.inl (FilterKind.answers_of_id settled.keeps hof hlists hid)
    · refine Or.inr ⟨options, x, hnumeric, hdouble, ?_⟩
      have hkeeps := settled.keeps
      rw [hnumeric] at hof hkeeps
      obtain ⟨n, -, rfl⟩ := FilterKind.ofId_eq_ok hkeeps hof
      rcases hfits with hsame | hid
      · -- a double never equals the integer that the id is read as
        rw [hdouble] at hsame
        cases hsame
      · rw [Facet.id, hdouble] at hid
        exact hid
  · exact Or.inl hanswers

/-- **What an id in its one spelling leads to is selected under that id**, if it is what the id
says. -/
theorem answers_of_canonical (settled : filter.Settled) (hread : filter.OffersRead)
    (hkind : filter.kind.isBuiltIn = true) (hcanonical : filter.kind.canonicalId? id = some id)
    (hexact : filter.LeadsExactly id) (h : filter.facetOfId id = .ok facet) :
    filter.kind.Answers id facet.key := by
  have hfinite := FilterKind.readsFinite_of_canonicalId? hcanonical
  rcases answers_or_double settled hread hkind hfinite h
      (fun options hrange => hexact.noNegativeZero options hrange facet h) with
    hanswers | ⟨options, x, hnumeric, hdouble, htext⟩
  · exact hanswers
  · have hspelled := hcanonical
    rw [hnumeric] at hspelled
    obtain ⟨n, hn, hself⟩ := Option.map_eq_some_iff.1 hspelled
    have hplain : integerOfText? x.plainText = some n := by rw [htext, hn]
    have htruncate : x.truncate = n.toInt := by
      rcases Nat.lt_or_ge n.toInt.natAbs (2 * blockRanks) with hsmall | hlarge
      · exact Binary64.truncate_of_integerOfText? hplain hsmall
      · exact hexact.exactDouble options hnumeric facet h x hdouble n hn hlarge
    have hinteger : x.toInt64 = n :=
      Binary64.toInt64_of_truncate (Binary64.isIntegral_of_integerOfText? hplain) htruncate
    refine ⟨.term (.int n), ?_, ?_⟩
    · rw [hnumeric, hdouble, FilterKind.accepted?_double hplain, hinteger]
    · rw [hcanonical, FacetValue.id_term, Term.shown_int, hself]

/-- **Over integers, whatever an id leads to can be selected**, in one spelling or another. -/
theorem exists_accepted_of_numeric (settled : filter.Settled) (hread : filter.OffersRead)
    {options : TermsOptions} (hnumeric : filter.kind = .numeric options)
    (h : filter.facetOfId id = .ok facet) :
    ∃ accepted, filter.kind.accepted? facet.key = some accepted := by
  have hkind : filter.kind.isBuiltIn = true := by rw [hnumeric]; rfl
  have hrange : ∀ other, filter.kind ≠ .range other := by
    intro other hother
    rw [hnumeric] at hother
    cases hother
  rcases answers_or_double settled hread hkind (fun other hother => absurd hother (hrange other)) h
      (fun other hother => absurd hother (hrange other)) with
    ⟨accepted, haccepted, -⟩ | ⟨other, x, -, hdouble, htext⟩
  · exact ⟨accepted, haccepted⟩
  · obtain ⟨read, hof, -⟩ := facetOfId_eq_ok settled.keeps h
    have hkeeps := settled.keeps
    rw [hnumeric] at hof hkeeps
    obtain ⟨n, hn, -⟩ := FilterKind.ofId_eq_ok hkeeps hof
    rw [← htext] at hn
    rw [hnumeric, hdouble]
    exact ⟨_, FilterKind.accepted?_double hn⟩

/-! ## Selecting one id -/

/-- Selecting one id selects the form of what the id leads to, and nothing else. -/
theorem select_valuesOfIds_singleton (hkeeps : filter.kind.KeepsConversions)
    {accepted : FacetValue} (h : filter.facetOfId id = .ok facet)
    (haccepted : filter.kind.accepted? facet.key = some accepted) :
    (filter.valuesOfIds [id]).bind filter.select =
      .ok { filter with
        selected := [accepted], placeholders := placeholdersOf filter.kind [accepted] } := by
  have hvalues : filter.valuesOfIds [id] = .ok [facet.key] := by
    have hvalue : filter.valueOfId id = .ok facet.key := by rw [valueOfId_eq hkeeps, h]; rfl
    rw [valuesOfIds, List.mapM_cons, hvalue]
    rfl
  have hforms : [facet.key].mapM (filter.kind.accept filter.name) = .ok [accepted] := by
    rw [List.mapM_cons, (FilterKind.accept_eq_ok_iff hkeeps).2 haccepted]
    rfl
  rw [hvalues]
  exact (select_eq_ok_iff_of_keeps hkeeps).2 ⟨[accepted], hforms, rfl⟩

/-- Nothing is selected under an id that is not its own spelling. -/
theorem isSelected_eq_false (settled : filter.Settled)
    (h : filter.kind.canonicalId? id ≠ some id) : filter.isSelected id = false := by
  rw [isSelected, List.any_eq_false]
  intro value hvalue
  have haccepted := settled.accepted value hvalue
  rw [idOfValue_of_accepted settled.keeps haccepted, beq_iff_eq]
  rintro rfl
  exact h (FilterKind.canonicalId?_id settled.keeps haccepted)

/-! ## Choices -/

/-- A choice is an available facet under its id, marked if the id is selected. -/
theorem exists_of_mem_choices (hkeeps : filter.kind.KeepsConversions) {choice : Choice}
    (h : choice ∈ filter.choices) :
    ∃ facet ∈ filter.available, choice.id = facet.id ∧
      choice.selected = filter.isSelected choice.id := by
  obtain ⟨facet, hfacet, rfl⟩ := List.mem_map.1 h
  exact ⟨facet, hfacet, choice_id hkeeps facet, rfl⟩

/-! ## What is offered after a response -/

/-- A filter that was refreshed offers what it read. -/
theorem offersRead_of_refresh {flags : Flags} {response : Response} {next : Filter}
    (h : filter.refresh flags response = .ok next) : next.OffersRead := by
  obtain ⟨tally, htally, rfl⟩ := refresh_eq_ok_iff.1 h
  unfold Filter.tally at htally
  split at htally
  · split at htally
    · next raw _ =>
      obtain ⟨read, hread, rfl⟩ := Fallible.map_eq_ok_iff.1 htally
      exact Or.inr ⟨raw, read.2, hread⟩
    · rw [← Except.ok.inj htally]
      exact Or.inl rfl
  · rw [← Except.ok.inj htally]
    exact Or.inl rfl

end Filter
end FacetedSearch
