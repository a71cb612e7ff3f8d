import FacetedSearch.Proofs.Filter.Selection
import FacetedSearch.Proofs.Request.Condition

/-!
# Selecting by id

An id can be spelled in many ways: an integer with blanks, a plus sign or leading zeros, an
interval with zeros at either end of its bounds.  What is selected has one spelling only, the
text of the integer or the id of the interval, and a filter over terms takes every id as it is.
Selecting by ids ends with these spellings, whatever the way there.

## The way there

An id is read as a value, but that is not the value that is selected: an available facet that
equals it or that has the id is taken instead, or the placeholder of either the id as it is
given or of the id in its one spelling.  Each of them may hold another value.  It is enough
that selecting it gives the one spelling (`FilterKind.Answers`).  A facet that has the id as it
is given may be a text in a list of integers, which is then read just as the id was.  A facet
that equals the value is that value, negative zeros aside.  And a placeholder stands for a
selected value, which has its one spelling as its id.

* `FilterKind.canonicalId?`: the one spelling of an id;
* `FilterKind.Lists`, `Filter.OffersPlainly`: what responses list;
* `FilterKind.answers_read`, `FilterKind.answers_of_id`, `FilterKind.answers_of_sameValue`,
  `FilterKind.answers_of_selected`: the four values that an id can lead to;
* `Filter.listed_or_answers`, `Filter.answers_facetOfId`: so whatever it leads to;
* `Filter.exists_valuesOfIds_iff`, `Filter.select_valuesOfIds`: selecting by ids.
-/

namespace FacetedSearch

namespace FilterKind

variable {kind : FilterKind} {id : String} {read value : FacetValue}

/-! ## The one spelling of an id -/

/-- The one spelling of an id: the canonical text of the integer or of the interval that it is
read as, and any other text as it is.  There is none if the id cannot be read. -/
def canonicalId? (kind : FilterKind) (id : String) : Option String :=
  match kind with
  | .numeric _ => (integerOfText? id).map fun n => integerText n.toInt
  | .range _ => (Bounds.ofId? id).map Bounds.id
  | .term _ | .custom _ => some id

section Keeps

variable (hkeeps : kind.KeepsConversions)
include hkeeps

/-- What an id is read as, kind by kind. -/
theorem ofId_eq_ok (h : kind.ofId id = .ok read) :
    match kind with
    | .numeric _ => ∃ n, integerOfText? id = some n ∧ read = .term (.int n)
    | .range _ => ∃ bounds, Bounds.ofId? id = some bounds ∧ read = .range bounds
    | .term _ | .custom _ => read = .term (.text id) := by
  rw [ofId_eq hkeeps] at h
  cases kind with
  | term options | custom other => exact (Except.ok.inj h).symm
  | numeric options =>
    dsimp only at h
    split at h
    · next n hn => exact ⟨n, hn, (Except.ok.inj h).symm⟩
    · cases h
  | range options =>
    dsimp only at h
    split at h
    · next bounds hbounds => exact ⟨bounds, hbounds, (Except.ok.inj h).symm⟩
    · cases h

/-- The one spelling is the id of what the id is read as. -/
theorem canonicalId?_of_ofId (h : kind.ofId id = .ok read) :
    kind.canonicalId? id = some read.id := by
  cases kind with
  | term options | custom other =>
    obtain rfl : read = .term (.text id) := ofId_eq_ok hkeeps h
    rfl
  | numeric options =>
    obtain ⟨n, hn, rfl⟩ := ofId_eq_ok hkeeps h
    rw [canonicalId?, hn]
    rfl
  | range options =>
    obtain ⟨bounds, hbounds, rfl⟩ := ofId_eq_ok hkeeps h
    rw [canonicalId?, hbounds]
    rfl

/-- There is a spelling exactly of what can be read. -/
theorem isSome_canonicalId?_iff :
    (kind.canonicalId? id).isSome = true ↔ ∃ read, kind.ofId id = .ok read := by
  constructor
  · intro h
    rw [ofId_eq hkeeps]
    cases kind with
    | term options | custom other => exact ⟨_, rfl⟩
    | numeric options =>
      rw [canonicalId?, Option.isSome_map] at h
      obtain ⟨n, hn⟩ := Option.isSome_iff_exists.1 h
      exact ⟨.term (.int n), by simp only [hn]⟩
    | range options =>
      rw [canonicalId?, Option.isSome_map] at h
      obtain ⟨bounds, hbounds⟩ := Option.isSome_iff_exists.1 h
      exact ⟨.range bounds, by simp only [hbounds]⟩
  · rintro ⟨read, hread⟩
    rw [canonicalId?_of_ofId hkeeps hread]
    rfl

end Keeps

/-! ## What an id can lead to -/

/-- Where an id is read as an interval, its bounds are finite. -/
def ReadsFinite (kind : FilterKind) (id : String) : Prop :=
  ∀ options, kind = .range options →
    ∀ bounds, Bounds.ofId? id = some bounds → bounds.hasInfinity = false

/-- What a kind lists: terms, but no doubles where terms are to be integers, and intervals
without a negative zero. -/
def Lists : FilterKind → FacetValue → Prop
  | .term _, .term _ | .custom _, .term _ => True
  | .numeric _, .term t => ∀ x, t ≠ .float x
  | .range _, .range bounds => bounds.hasNegativeZero = false
  | _, _ => False

/-- Selecting a value gives the one spelling of an id. -/
def Answers (kind : FilterKind) (id : String) (value : FacetValue) : Prop :=
  ∃ accepted, kind.accepted? value = some accepted ∧ kind.canonicalId? id = some accepted.id

section Keeps

variable (hkeeps : kind.KeepsConversions)
include hkeeps

/-- What an id is read as is selected as it is. -/
theorem accepted?_of_ofId (hread : kind.ofId id = .ok read) (hfinite : kind.ReadsFinite id) :
    kind.accepted? read = some read := by
  cases kind with
  | term options | custom other =>
    obtain rfl : read = .term (.text id) := ofId_eq_ok hkeeps hread
    rfl
  | numeric options =>
    obtain ⟨n, -, rfl⟩ := ofId_eq_ok hkeeps hread
    rfl
  | range options =>
    obtain ⟨bounds, hbounds, rfl⟩ := ofId_eq_ok hkeeps hread
    exact if_pos (Bounds.isEncodable_of_ofId? hbounds (hfinite options rfl bounds hbounds))

theorem answers_read (hread : kind.ofId id = .ok read) (hfinite : kind.ReadsFinite id) :
    kind.Answers id read :=
  ⟨read, accepted?_of_ofId hkeeps hread hfinite, canonicalId?_of_ofId hkeeps hread⟩

/-- A listed value that has the id, in whatever spelling it was given. -/
theorem answers_of_id (hread : kind.ofId id = .ok read) (hlists : kind.Lists value)
    (hid : value.id = id) : kind.Answers id value := by
  subst hid
  cases kind with
  | term options | custom other =>
    cases value with
    | term t => exact ⟨_, rfl, rfl⟩
    | range bounds => exact hlists.elim
  | numeric options =>
    obtain ⟨n, hn, rfl⟩ := ofId_eq_ok hkeeps hread
    refine ⟨_, ?_, canonicalId?_of_ofId hkeeps hread⟩
    cases value with
    | range bounds => exact hlists.elim
    | term t =>
      cases t with
      | float x => exact absurd rfl (hlists x)
      | int m =>
        obtain rfl : m = n :=
          Option.some.inj ((integerOfText?_integerText m).symm.trans hn)
        rfl
      | text s => exact congrArg (Option.map _) hn
  | range options =>
    obtain ⟨bounds, hbounds, rfl⟩ := ofId_eq_ok hkeeps hread
    cases value with
    | term t => exact hlists.elim
    | range other =>
      obtain rfl := Bounds.eq_of_ofId?_id hbounds
      exact ⟨_, if_pos (Bounds.isEncodable_of_ofId?_id hbounds),
        canonicalId?_of_ofId hkeeps hread⟩

/-- A listed value that equals what the id is read as. -/
theorem answers_of_sameValue (hread : kind.ofId id = .ok read) (hlists : kind.Lists value)
    (hfinite : kind.ReadsFinite id) (hsame : value.sameValue read = true) :
    kind.Answers id value := by
  cases kind with
  | term options | custom other =>
    obtain rfl : read = .term (.text id) := ofId_eq_ok hkeeps hread
    rw [FacetValue.eq_of_sameValue_text hsame]
    exact answers_read hkeeps hread hfinite
  | numeric options =>
    obtain ⟨n, -, rfl⟩ := ofId_eq_ok hkeeps hread
    rw [FacetValue.eq_of_sameValue_int hsame]
    exact answers_read hkeeps hread hfinite
  | range options =>
    obtain ⟨bounds, hbounds, rfl⟩ := ofId_eq_ok hkeeps hread
    have hencodable := Bounds.isEncodable_of_ofId? hbounds (hfinite options rfl bounds hbounds)
    have hzero : value.hasNegativeZero = false := by
      cases value with
      | term t => rfl
      | range other => exact hlists
    rw [FacetValue.eq_of_sameValue_range hencodable hzero hsame]
    exact answers_read hkeeps hread hfinite

/-- The id of a selected value is its one spelling. -/
theorem canonicalId?_id (haccepted : kind.accepted? value = some value) :
    kind.canonicalId? value.id = some value.id := by
  rcases ofId_id hkeeps haccepted with hself | ⟨n, -, hself⟩ | ⟨-, bounds, -, -, -, hself⟩
  · have htext := canonicalId?_of_ofId hkeeps hself
    exact htext
  · exact canonicalId?_of_ofId hkeeps hself
  · exact canonicalId?_of_ofId hkeeps hself

/-- A selected value whose id is the id as it was given, or its one spelling. -/
theorem answers_of_selected (hread : kind.ofId id = .ok read)
    (haccepted : kind.accepted? value = some value) (hid : value.id = id ∨ value.id = read.id) :
    kind.Answers id value := by
  refine ⟨value, haccepted, ?_⟩
  rcases hid with rfl | hid
  · exact canonicalId?_id hkeeps haccepted
  · rw [canonicalId?_of_ofId hkeeps hread, hid]

end Keeps

/-! ## What responses list -/

theorem exists_term_of_readSection {name : String} {raw : Json} {facets : List Facet}
    {total : UInt64} (h : TermsOptions.readSection name raw = .ok (facets, total)) {facet : Facet}
    (hfacet : facet ∈ facets) : ∃ t, facet.key = .term t := by
  unfold TermsOptions.readSection at h
  split at h
  · next entries _ =>
    split at h
    · obtain ⟨rfl, -⟩ := Prod.mk.inj (Except.ok.inj h)
      obtain ⟨entry, -, rfl⟩ := List.mem_map.1 hfacet
      exact ⟨entry.term, rfl⟩
    · cases h
  · cases h

theorem exists_range_of_readSection {options : RangeOptions} {name : String} {raw : Json}
    {facets : List Facet} {total : UInt64}
    (h : options.readSection name raw = .ok (facets, total)) {facet : Facet}
    (hfacet : facet ∈ facets) : ∃ bounds, facet.key = .range bounds := by
  unfold RangeOptions.readSection at h
  split at h
  · next entries _ =>
    obtain ⟨rfl, -⟩ := Prod.mk.inj (Except.ok.inj h)
    obtain ⟨entry, -, rfl⟩ := List.mem_map.1 hfacet
    exact ⟨entry.bounds, rfl⟩
  · cases h

end FilterKind

namespace Filter

variable {filter : Filter} {id : String}

/-- What is offered was read from a section of a response, or nothing is offered. -/
def OffersRead (filter : Filter) : Prop :=
  filter.available = [] ∨
    ∃ raw total, filter.kind.readSection filter.name raw = .ok (filter.available, total)

/-- What a section lists is what its kind lists, but for negative zeros among the bounds of
intervals, and for doubles where terms are to be integers. -/
theorem OffersRead.lists_or_double (h : filter.OffersRead) (hkind : filter.kind.isBuiltIn = true)
    {facet : Facet} (hfacet : facet ∈ filter.available)
    (hzero : ∀ options, filter.kind = .range options → facet.key.hasNegativeZero = false) :
    filter.kind.Lists facet.key ∨
      ∃ options x, filter.kind = .numeric options ∧ facet.key = .term (.float x) := by
  obtain hnone | ⟨raw, total, hraw⟩ := h
  · rw [hnone] at hfacet
    exact absurd hfacet List.not_mem_nil
  · cases hcase : filter.kind with
    | custom other =>
      rw [hcase] at hkind
      cases hkind
    | term options =>
      rw [hcase] at hraw
      obtain ⟨t, ht⟩ := FilterKind.exists_term_of_readSection hraw hfacet
      rw [ht]
      exact Or.inl trivial
    | numeric options =>
      rw [hcase] at hraw
      obtain ⟨t, ht⟩ := FilterKind.exists_term_of_readSection hraw hfacet
      rw [ht]
      cases t with
      | float x => exact Or.inr ⟨options, x, rfl, rfl⟩
      | int n => exact Or.inl fun x hx => by cases hx
      | text s => exact Or.inl fun x hx => by cases hx
    | range options =>
      rw [hcase] at hraw
      obtain ⟨bounds, hbounds⟩ := FilterKind.exists_range_of_readSection hraw hfacet
      have hsigned := hzero options hcase
      rw [hbounds] at hsigned ⊢
      exact Or.inl hsigned

/-- What is offered was read from a response that lists no double where terms are to be
integers, and no interval with a negative zero. -/
structure OffersPlainly (filter : Filter) : Prop where
  read : filter.OffersRead
  noDouble : ∀ options, filter.kind = .numeric options →
    ∀ facet ∈ filter.available, ∀ x, facet.key ≠ .term (.float x)
  noNegativeZero : filter.OffersNoNegativeZero

/-- Every section that is read lists what its kind lists. -/
theorem OffersPlainly.lists (h : filter.OffersPlainly) (hkind : filter.kind.isBuiltIn = true)
    {facet : Facet} (hfacet : facet ∈ filter.available) : filter.kind.Lists facet.key := by
  have hzero : ∀ options, filter.kind = .range options → facet.key.hasNegativeZero = false :=
    fun options hrange => h.noNegativeZero options hrange facet hfacet
  rcases h.read.lists_or_double hkind hfacet hzero with hlists | ⟨options, x, hnumeric, hdouble⟩
  · exact hlists
  · exact absurd hdouble (h.noDouble options hnumeric facet hfacet x)

/-! ## Looking up -/

theorem exists_selected_of_placeholder (settled : filter.Settled) {facet : Facet}
    (h : filter.placeholders.get? id = some facet) :
    ∃ value ∈ filter.selected, value.id = id ∧ facet = .placeholder value := by
  rw [settled.placeholders] at h
  obtain ⟨value, hvalue, hentry⟩ := exists_of_mem_placeholdersOf settled.keeps (Assoc.mem_of_get? h)
  obtain ⟨hid, hfacet⟩ := Prod.mk.inj hentry
  exact ⟨value, hvalue, hid.symm, hfacet⟩

/-- An id leads to an available facet, to a placeholder, or to what it is read as. -/
theorem facetOfId_eq_ok (hkeeps : filter.kind.KeepsConversions) {facet : Facet}
    (h : filter.facetOfId id = .ok facet) :
    ∃ read, filter.kind.ofId id = .ok read ∧
      (facet ∈ filter.available ∧ (facet.key.sameValue read = true ∨ facet.id = id) ∨
        filter.placeholders.get? id = some facet ∨
        filter.placeholders.get? read.id = some facet ∨
        facet = .placeholder read) := by
  rw [facetOfId_eq hkeeps] at h
  obtain ⟨read, hread, rfl⟩ := Fallible.map_eq_ok_iff.1 h
  refine ⟨read, hread, ?_⟩
  cases hlisted : filter.available.find? fun facet =>
      facet.key.sameValue read || facet.id == id with
  | some listed =>
    have hfits : (listed.key.sameValue read || listed.id == id) = true :=
      List.find?_some (p := fun facet : Facet => facet.key.sameValue read || facet.id == id) hlisted
    rw [Bool.or_eq_true, beq_iff_eq] at hfits
    exact Or.inl ⟨List.mem_of_find?_eq_some hlisted, hfits⟩
  | none =>
    cases hheld : filter.placeholders.get? id with
    | some held => exact Or.inr (Or.inl rfl)
    | none =>
      cases hspelled : filter.placeholders.get? read.id with
      | some held => exact Or.inr (Or.inr (Or.inl rfl))
      | none => exact Or.inr (Or.inr (Or.inr rfl))

/-- What an id leads to is an available facet that equals what the id is read as or that has the
id, or selecting it gives the one spelling of the id. -/
theorem listed_or_answers (settled : filter.Settled) (hfinite : filter.kind.ReadsFinite id)
    {facet : Facet} (h : filter.facetOfId id = .ok facet) :
    ∃ read, filter.kind.ofId id = .ok read ∧
      (facet ∈ filter.available ∧ (facet.key.sameValue read = true ∨ facet.id = id) ∨
        filter.kind.Answers id facet.key) := by
  obtain ⟨read, hread, hlisted | hheld | hheld | rfl⟩ := facetOfId_eq_ok settled.keeps h
  · exact ⟨read, hread, Or.inl hlisted⟩
  · obtain ⟨value, hvalue, hid, rfl⟩ := exists_selected_of_placeholder settled hheld
    exact ⟨read, hread, Or.inr (FilterKind.answers_of_selected settled.keeps hread
      (settled.accepted value hvalue) (Or.inl hid))⟩
  · obtain ⟨value, hvalue, hid, rfl⟩ := exists_selected_of_placeholder settled hheld
    exact ⟨read, hread, Or.inr (FilterKind.answers_of_selected settled.keeps hread
      (settled.accepted value hvalue) (Or.inr hid))⟩
  · exact ⟨read, hread, Or.inr (FilterKind.answers_read settled.keeps hread hfinite)⟩

/-- **Whatever an id leads to, selecting it gives the one spelling of the id.** -/
theorem answers_facetOfId (settled : filter.Settled)
    (hlists : ∀ facet ∈ filter.available, filter.kind.Lists facet.key)
    (hfinite : filter.kind.ReadsFinite id) {facet : Facet} (h : filter.facetOfId id = .ok facet) :
    filter.kind.Answers id facet.key := by
  obtain ⟨read, hread, ⟨hmem, hsame | hid⟩ | hanswers⟩ := listed_or_answers settled hfinite h
  · exact FilterKind.answers_of_sameValue settled.keeps hread (hlists facet hmem) hfinite hsame
  · exact FilterKind.answers_of_id settled.keeps hread (hlists facet hmem) hid
  · exact hanswers

/-! ## Several ids -/

/-- The look-up of an id fails only where the id cannot be read. -/
theorem exists_valueOfId_iff (hkeeps : filter.kind.KeepsConversions) :
    (∃ value, filter.valueOfId id = .ok value) ↔ (filter.kind.canonicalId? id).isSome = true := by
  rw [FilterKind.isSome_canonicalId?_iff hkeeps, valueOfId_eq hkeeps]
  constructor
  · rintro ⟨value, hvalue⟩
    obtain ⟨facet, hfacet, -⟩ := Fallible.map_eq_ok_iff.1 hvalue
    obtain ⟨read, hread, -⟩ := facetOfId_eq_ok hkeeps hfacet
    exact ⟨read, hread⟩
  · rintro ⟨read, hread⟩
    rw [facetOfId_eq hkeeps, hread]
    exact ⟨_, rfl⟩

theorem exists_valuesOfIds_iff (hkeeps : filter.kind.KeepsConversions) {ids : List String} :
    (∃ values, filter.valuesOfIds ids = .ok values) ↔
      ∀ id ∈ ids, (filter.kind.canonicalId? id).isSome = true := by
  constructor
  · rintro ⟨values, hvalues⟩ id hid
    obtain ⟨value, -, hvalue⟩ := Fallible.exists_eq_ok_of_mapM hvalues hid
    exact (exists_valueOfId_iff hkeeps).1 ⟨value, hvalue⟩
  · intro h
    exact Fallible.exists_mapM_eq_ok fun id hid => (exists_valueOfId_iff hkeeps).2 (h id hid)

/-- The values of ids are brought into a form whose ids are the one spellings. -/
theorem exists_accepted_of_valuesOfIds (settled : filter.Settled)
    (hlists : ∀ facet ∈ filter.available, filter.kind.Lists facet.key) {ids : List String}
    (hfinite : ∀ id ∈ ids, filter.kind.ReadsFinite id) {values : List FacetValue}
    (h : filter.valuesOfIds ids = .ok values) :
    ∃ accepted, values.mapM (filter.kind.accept filter.name) = .ok accepted ∧
      accepted.map FacetValue.id = ids.filterMap filter.kind.canonicalId? := by
  rw [valuesOfIds, Fallible.mapM_eq_ok_iff] at h
  induction h with
  | nil => exact ⟨[], rfl, rfl⟩
  | @cons id value ids values hvalue _ ih =>
    obtain ⟨hfirst, hrest⟩ := List.forall_mem_cons.1 hfinite
    rw [valueOfId_eq settled.keeps] at hvalue
    obtain ⟨facet, hfacet, rfl⟩ := Fallible.map_eq_ok_iff.1 hvalue
    obtain ⟨form, hform, hspelled⟩ := answers_facetOfId settled hlists hfirst hfacet
    obtain ⟨forms, hforms, hids⟩ := ih hrest
    refine ⟨form :: forms, ?_, ?_⟩
    · rw [List.mapM_cons, (FilterKind.accept_eq_ok_iff settled.keeps).2 hform, hforms]
      rfl
    · rw [List.map_cons, List.filterMap_cons_some hspelled, hids]

/-- **The values of ids can be selected, and the selected ids are their one spellings.** -/
theorem select_valuesOfIds (settled : filter.Settled)
    (hlists : ∀ facet ∈ filter.available, filter.kind.Lists facet.key) {ids : List String}
    (hfinite : ∀ id ∈ ids, filter.kind.ReadsFinite id) {values : List FacetValue}
    (h : filter.valuesOfIds ids = .ok values) :
    ∃ next, filter.select values = .ok next ∧
      next.selectedIds = .ok (ids.filterMap filter.kind.canonicalId?) := by
  obtain ⟨accepted, hmap, hids⟩ := exists_accepted_of_valuesOfIds settled hlists hfinite h
  have hselect := (select_eq_ok_iff_of_keeps settled.keeps).2 ⟨accepted, hmap, rfl⟩
  refine ⟨_, hselect, ?_⟩
  rw [selectedIds_eq (settled_select settled.keeps hselect), ← hids]

end Filter
end FacetedSearch
