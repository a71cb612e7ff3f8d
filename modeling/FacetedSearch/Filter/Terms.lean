import FacetedSearch.Error
import FacetedSearch.Response

/-!
# Terms facets

A terms facet has one line for each distinct term of a field.  Its options say what is
listed, how much of it and in which order; an option that is not set is left out of the
request, so that the index decides.  Selecting a term asks for documents in which it
occurs as a phrase.

## Main definitions

* `TermOrder`, `TermsOptions`: the options, with those that hold by default;
* `TermsOptions.aggregation`: the facet request;
* `TermsOptions.phrase?`: the condition for a selected term;
* `TermsOptions.readSection`: the facets of a response section and their number;
* `TermsOptions.label`: the text of a line.
-/

namespace FacetedSearch

/-- How the terms of a facet are ordered. -/
inductive TermOrder where
  | count
  | term
  | reverseCount
  | reverseTerm
  deriving DecidableEq

namespace TermOrder

/-- The word for an order. -/
def word : TermOrder → String
  | .count => "count"
  | .term => "term"
  | .reverseCount => "reverse_count"
  | .reverseTerm => "reverse_term"

/-- The order of a word. -/
def ofWord? : String → Option TermOrder
  | "count" => some .count
  | "term" => some .term
  | "reverse_count" => some .reverseCount
  | "reverse_term" => some .reverseTerm
  | _ => none

/-- An order as a document. -/
def toJson (order : TermOrder) : Json := .str order.word

/-- The order in a document. -/
def ofJson? (document : Json) : Option TermOrder := document.variant?.bind ofWord?

@[simp] theorem ofWord?_word (order : TermOrder) : ofWord? order.word = some order := by
  cases order <;> rfl

end TermOrder

/-- How many terms a facet lists unless it is said otherwise. -/
def defaultTermsSize : UInt32 := 5

/-- The options of a terms facet. -/
structure TermsOptions where
  /-- A script field to list instead of the field itself. -/
  scriptField : Option String
  /-- Several fields to list together. -/
  fields : Option (List String)
  size : Option UInt32
  /-- Whether terms that no result carries are listed too. -/
  allTerms : Option Bool
  order : Option TermOrder
  script : Option String
  deriving DecidableEq

namespace TermsOptions

/-- Nothing is set: the index decides everything. -/
def bare : TermsOptions := ⟨none, none, none, none, none, none⟩

/-- The options that hold unless it is said otherwise. -/
def default : TermsOptions :=
  { bare with size := some defaultTermsSize, allTerms := some false, order := some .term }

/-! ## Requests -/

/-- What is listed: the script field, the several fields, or the field of the filter. -/
def target (options : TermsOptions) (name : String) : String × Json :=
  match options.scriptField, options.fields with
  | some scriptField, _ => ("script_field", .str scriptField)
  | none, some fields => ("fields", .arr (fields.map .str))
  | none, none => ("field", .str name)

/-- The facet request of the filter of a name. -/
def aggregation (options : TermsOptions) (name : String) : Json :=
  let target := options.target name
  .single "terms" (.ofFields [
    (target.1, some target.2),
    ("size", options.size.map fun n => .int n.toNat),
    ("all_terms", options.allTerms.map .bool),
    ("script", options.script.map .str),
    ("order", options.order.map TermOrder.toJson)])

/-- The condition that a field holds a term as a phrase; intervals have none. -/
def phrase? (name : String) : FacetValue → Option Json
  | .term t =>
    let matcher := Json.single name (.obj [("query", t.toJson), ("type", .str "phrase")])
    some (.single "query" (.single "match" matcher))
  | .range _ => none

/-! ## Responses -/

/-- The facets of a response section, and how many there are in all.  Their number is a
checked sum. -/
def readSection (name : String) (raw : Json) : Except SearchError (List Facet × UInt64) :=
  match TermsSection.ofJson? raw with
  | some entries => match entries.facetCount? with
    | some count => .ok (entries.facets, count)
    | none => .error .overflow
  | none => .error (.malformedResponse (.termsSection name))

/-- The text of a line: the value between its decorations, then the count. -/
def label (lead trail : String) (facet : Facet) : String :=
  lead ++ facet.key.shown ++ trail ++ " (" ++ integerText facet.count.toNat ++ ")"

/-! ## Documents -/

/-- The options as the members of a document; what is not set is `null`. -/
def members (options : TermsOptions) : Assoc Json :=
  [("script_field", .ofOption .str options.scriptField),
    ("fields", .ofOption (fun fields => .arr (fields.map .str)) options.fields),
    ("size", .ofOption (fun n => .int n.toNat) options.size),
    ("all_terms", .ofOption .bool options.allTerms),
    ("order", .ofOption TermOrder.toJson options.order),
    ("script", .ofOption .str options.script)]

/-- The options as a document. -/
def toJson (options : TermsOptions) : Json := .obj options.members

/-- The options in a document, given the reading of an order.  What is missing is as by
default, and `null` unsets it. -/
def ofJsonWith? (readOrder : Json → Option TermOrder) (document : Json) :
    Option TermsOptions := do
  let record ← Record.ofJson? 6 document
  let scriptField ← record.optional? 0 "script_field" Json.toText?
  let fields ← record.optional? 1 "fields" (Json.toList? Json.toText?)
  let size ← record.withDefault? 2 "size" default.size (Json.toOption? Json.toUInt32?)
  let allTerms ← record.withDefault? 3 "all_terms" default.allTerms (Json.toOption? Json.toBool?)
  let order ← record.withDefault? 4 "order" default.order (Json.toOption? readOrder)
  let script ← record.optional? 5 "script" Json.toText?
  return ⟨scriptField, fields, size, allTerms, order, script⟩

/-- The options in a document. -/
def ofJson? (document : Json) : Option TermsOptions := ofJsonWith? TermOrder.ofJson? document

end TermsOptions

end FacetedSearch
