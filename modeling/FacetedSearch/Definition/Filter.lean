import FacetedSearch.Filter.Basic

/-!
# Definitions of filters

A filter can be defined by an object in a JSON document.  The members that every filter
has and the options of its kind stand side by side in the one object, and the member
`type` says which kind it is, by its name or by its number.

## Main definitions

* `KindDefinition`, `FilterDefinition`: the members of the kind, and the whole object;
* `FilterDefinition.build`: the filter that is defined;
* `FilterDefinition.toJson`, `FilterDefinition.ofJson?`: the object in documents.
-/

namespace FacetedSearch

/-- The kind of a defined filter with its options. -/
inductive KindDefinition where
  | term (options : TermsOptions)
  | numeric (options : TermsOptions)
  | range (options : RangeOptions)
  deriving DecidableEq

namespace KindDefinition

/-- The kind of a definition. -/
def build : KindDefinition → FilterKind
  | .term options => .term options
  | .numeric options => .numeric options
  | .range options => .range options

/-- The name of the kind and the options, as the members of a document. -/
def members : KindDefinition → Assoc Json
  | .term options => ("type", .str "term") :: options.members
  | .numeric options => ("type", .str "numeric") :: options.members
  | .range options => ("type", .str "range") :: options.members

/-- The order of terms among the members of a definition: beside the plain spelling, an
object whose one member is empty. -/
def orderOfJson? : Json → Option TermOrder
  | .obj [(word, .obj [])] => TermOrder.ofWord? word
  | document => TermOrder.ofJson? document

/-- The kind among the members of a definition. -/
def ofMembers? (members : Assoc Json) : Option KindDefinition :=
  let terms := TermsOptions.ofJsonWith? orderOfJson? (.obj members)
  match members.get? "type" with
  | some (.str "term") | some (.int 0) => terms.map .term
  | some (.str "numeric") | some (.int 1) => terms.map .numeric
  | some (.str "range") | some (.int 2) => (RangeOptions.ofJson? (.obj members)).map .range
  | _ => none

end KindDefinition

/-- The definition of a filter. -/
structure FilterDefinition where
  name : String
  label : Option String
  enabled : Bool
  multiple : Bool
  combination : Combination
  lead : String
  trail : String
  expandable : Bool
  collapsible : Bool
  kind : KindDefinition
  deriving DecidableEq

namespace FilterDefinition

/-- The filter of a definition; it is labelled by its name unless a label is given. -/
def build (definition : FilterDefinition) : Filter :=
  { Filter.ofKind definition.name definition.kind.build with
    label := definition.label.getD definition.name
    enabled := .fixed definition.enabled
    multiple := definition.multiple
    combination := definition.combination
    lead := definition.lead
    trail := definition.trail
    expandable := definition.expandable
    collapsible := definition.collapsible }

/-- The members that a definition has beside those of its kind. -/
def ownMembers (definition : FilterDefinition) : List (String × Option Json) :=
  [("fieldname", some (.str definition.name)), ("label", definition.label.map .str),
    ("enabled", some (.bool definition.enabled)), ("multiple", some (.bool definition.multiple)),
    ("operator", some definition.combination.toJson), ("prefix", some (.str definition.lead)),
    ("suffix", some (.str definition.trail)), ("expandable", some (.bool definition.expandable)),
    ("collapsible", some (.bool definition.collapsible))]

/-- A definition as a document. -/
def toJson (definition : FilterDefinition) : Json :=
  .ofFields (definition.ownMembers ++
    definition.kind.members.map fun member => (member.1, some member.2))

/-- The definition in a document, which has to be an object. -/
def ofJson? (document : Json) : Option FilterDefinition := do
  let members ← document.members?
  let record := Record.byKey members
  let name ← record.required? 0 "fieldname" Json.toText?
  let label ← record.optional? 1 "label" Json.toText?
  let enabled ← record.withDefault? 2 "enabled" true Json.toBool?
  let multiple ← record.withDefault? 3 "multiple" true Json.toBool?
  let combination ← record.withDefault? 4 "operator" .any Combination.ofJson?
  let lead ← record.withDefault? 5 "prefix" "" Json.toText?
  let trail ← record.withDefault? 6 "suffix" "" Json.toText?
  let expandable ← record.withDefault? 7 "expandable" true Json.toBool?
  let collapsible ← record.withDefault? 8 "collapsible" true Json.toBool?
  let kind ← KindDefinition.ofMembers? members
  return ⟨name, label, enabled, multiple, combination, lead, trail, expandable, collapsible, kind⟩

end FilterDefinition

end FacetedSearch
