import FacetedSearch.Filter.Ranges
import FacetedSearch.Filter.Terms

/-!
# Kinds of filters

What a filter can select, what it asks for and how it shows a line depend on its kind.
There are filters over terms, over integer terms and over intervals, and further kinds
may be supplied as a record of functions.

Facets have ids, by which they are selected.  Usually the id is the text of a term, or the id
of an interval, and it is taken for a text when it is read.  A kind can convert otherwise.  A
filter over integers reads an id as an integer, and one over intervals as an interval; and
both bring the values that they are told to select into one form, or refuse them.  A kind
that is supplied can replace any of the conversions.

## Main definitions

* `Conversions`, `Conversions.usual`: going between ids, values and what facets stand for;
* `FilterKind`, `CustomKind`: the kinds;
* `FilterKind.conversions`: how each kind converts;
* `FilterKind.ofId`, `FilterKind.accept`: the key of an id, and of a value;
* `FilterKind.condition?`, `FilterKind.aggregation`: what is asked for;
* `FilterKind.readSection`: what a response section says;
* `FilterKind.label`: the text of a line.
-/

namespace FacetedSearch

/-- What surrounds the value in the text of a line, and what is known about the line. -/
structure Decoration where
  lead : String
  trail : String
  /-- No result carries the value. -/
  muted : Bool
  /-- Every result carries the value and nothing is selected. -/
  matchAll : Bool
  deriving DecidableEq

/-- How a kind goes between ids, the keys of facets, and the values that are selected. -/
structure Conversions where
  /-- The id of a facet's key. -/
  idOf : FacetValue → String
  /-- The key that an id stands for. -/
  ofId : String → Except SearchError FacetValue
  /-- The value that is selected for a key. -/
  valueOf : FacetValue → FacetValue
  /-- The key of a value, by the name of the filter; not every value has one. -/
  keyOf : String → FacetValue → Except SearchError FacetValue

/-- What a kind does with a value that it cannot select. -/
def refuseValue (name : String) (value : FacetValue) : Except SearchError FacetValue :=
  .error (.incompatibleValue name value.shown)

/-- The conversions that hold unless a kind has its own: ids are texts, and only terms can be
selected. -/
def Conversions.usual : Conversions where
  idOf := FacetValue.id
  ofId id := .ok (.term (.text id))
  valueOf key := key
  keyOf name
    | .term t => .ok (.term t)
    | .range bounds => refuseValue name (.range bounds)

/-- A kind that is supplied from outside. -/
structure CustomKind where
  /-- A short name. -/
  word : String
  conversions : Conversions := .usual
  /-- The condition for a selected value, by the name of the filter. -/
  condition? : String → FacetValue → Option Json
  /-- The facet request, by the name of the filter. -/
  aggregation : String → Json
  /-- The facets of a response section and their number, by the name of the filter. -/
  readSection : String → Json → Except SearchError (List Facet × UInt64)
  /-- The text of a line. -/
  label : Decoration → Facet → String
  /-- Whether its options fit together. -/
  check : Except SearchError Unit := .ok ()

/-- The kinds of filters. -/
inductive FilterKind where
  | term (options : TermsOptions)
  | numeric (options : TermsOptions)
  | range (options : RangeOptions)
  | custom (kind : CustomKind)

namespace FilterKind

/-- A short name. -/
def word : FilterKind → String
  | .term _ => "term"
  | .numeric _ => "numeric"
  | .range _ => "range"
  | .custom kind => kind.word

/-! ## Ids and selected values -/

/-- The integer that a value denotes: itself, a double without a fractional part (clamped
to 64 bits), or the text of an integer. -/
def integerOf? : FacetValue → Option Int64
  | .term (.int n) => some n
  | .term (.float x) => if x.isIntegral then some x.toInt64 else none
  | .term (.text s) => integerOfText? s
  | .range _ => none

/-- How a kind converts.  Over integers and intervals ids are read as such, and only what an id
can carry is selected. -/
def conversions : FilterKind → Conversions
  | .term _ => .usual
  | .numeric _ =>
    { Conversions.usual with
      ofId id := match integerOfText? id with
        | some n => .ok (.term (.int n))
        | none => .error (.invalidNumericId id)
      keyOf name value := match integerOf? value with
        | some n => .ok (.term (.int n))
        | none => refuseValue name value }
  | .range _ =>
    { Conversions.usual with
      ofId id := match Bounds.ofId? id with
        | some bounds => .ok (.range bounds)
        | none => .error (.invalidRangeId id)
      keyOf name value := match value with
        | .range bounds =>
          if bounds.isEncodable then .ok (.range bounds) else refuseValue name value
        | .term _ => refuseValue name value }
  | .custom kind => kind.conversions

/-- The id of a facet's key. -/
def idOf (kind : FilterKind) (key : FacetValue) : String := kind.conversions.idOf key

/-- The key that an id stands for. -/
def ofId (kind : FilterKind) (id : String) : Except SearchError FacetValue :=
  kind.conversions.ofId id

@[simp] theorem ofId_term (options : TermsOptions) (id : String) :
    (term options).ofId id = .ok (.term (.text id)) := rfl

theorem ofId_numeric (options : TermsOptions) (id : String) :
    (numeric options).ofId id = match integerOfText? id with
      | some n => .ok (.term (.int n))
      | none => .error (.invalidNumericId id) := rfl

theorem ofId_range (options : RangeOptions) (id : String) :
    (range options).ofId id = match Bounds.ofId? id with
      | some bounds => .ok (.range bounds)
      | none => .error (.invalidRangeId id) := rfl

/-- The value that is selected for a key. -/
def valueOf (kind : FilterKind) (key : FacetValue) : FacetValue := kind.conversions.valueOf key

/-- The key under which the filter of a name selects a value. -/
def accept (kind : FilterKind) (name : String) (value : FacetValue) :
    Except SearchError FacetValue :=
  kind.conversions.keyOf name value

/-! ## Requests, responses and labels -/

/-- The condition for a selected value. -/
def condition? (kind : FilterKind) (name : String) (value : FacetValue) : Option Json :=
  match kind with
  | .term _ | .numeric _ => TermsOptions.phrase? name value
  | .range _ => RangeOptions.interval? name value
  | .custom kind => kind.condition? name value

/-- The facet request, before it is confined to the results of other filters. -/
def aggregation (kind : FilterKind) (name : String) : Json :=
  match kind with
  | .term options | .numeric options => options.aggregation name
  | .range options => options.aggregation name
  | .custom kind => kind.aggregation name

/-- The facets of a response section, and how many there are in all. -/
def readSection (kind : FilterKind) (name : String) (raw : Json) :
    Except SearchError (List Facet × UInt64) :=
  match kind with
  | .term _ | .numeric _ => TermsOptions.readSection name raw
  | .range options => options.readSection name raw
  | .custom kind => kind.readSection name raw

/-- The text of a line. -/
def label (kind : FilterKind) (decoration : Decoration) (facet : Facet) : String :=
  match kind with
  | .term _ | .numeric _ => TermsOptions.label decoration.lead decoration.trail facet
  | .range options => options.label decoration.lead decoration.trail facet
  | .custom kind => kind.label decoration facet

/-- Whether the options of a kind fit together. -/
def check : FilterKind → Except SearchError Unit
  | .term _ | .numeric _ => .ok ()
  | .range options => options.check
  | .custom kind => kind.check

end FilterKind

end FacetedSearch
