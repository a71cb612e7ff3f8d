import FacetedSearch.Error
import FacetedSearch.Response
import FacetedSearch.Text.Integer

/-!
# Range facets

A range facet has one line for each configured interval.  What is bucketed and what is
counted can be different things, two fields or two scripts, which are set in pairs.
Labels name an interval in words, with the integer parts of its bounds or with the texts
that are configured for them.

## Main definitions

* `Bucket`, `RangeOptions`: the intervals and the pairs of fields or scripts;
* `RangeOptions.check`: the pairs are complete;
* `RangeOptions.aggregation`: the facet request;
* `RangeOptions.interval?`: the condition for a selected interval;
* `RangeOptions.readSection`: the facets of a response section;
* `RangeOptions.label`: the text of a line.
-/

namespace FacetedSearch

/-- A configured interval, with texts to show for its bounds. -/
structure Bucket where
  bounds : Bounds
  displayLower : Option String
  displayUpper : Option String
  deriving DecidableEq

namespace Bucket

/-- A configured interval as a document. -/
def toJson (bucket : Bucket) : Json :=
  .ofFields [("from", bucket.bounds.lower.map .ofBinary64),
    ("to", bucket.bounds.upper.map .ofBinary64),
    ("display_from", bucket.displayLower.map .str), ("display_to", bucket.displayUpper.map .str)]

/-- The configured interval in a document. -/
def ofJson? (document : Json) : Option Bucket := do
  let record ← Record.ofJson? 4 document
  let lower ← record.optional? 0 "from" Json.toBinary64?
  let upper ← record.optional? 1 "to" Json.toBinary64?
  let displayLower ← record.optional? 2 "display_from" Json.toText?
  let displayUpper ← record.optional? 3 "display_to" Json.toText?
  return ⟨⟨lower, upper⟩, displayLower, displayUpper⟩

end Bucket

/-- The options of a range facet. -/
structure RangeOptions where
  /-- The field that is bucketed, where it is not the field that is counted. -/
  keyField : Option String
  valueField : Option String
  /-- The script that is bucketed, where it is not the script that is counted. -/
  keyScript : Option String
  valueScript : Option String
  ranges : List Bucket
  deriving DecidableEq

namespace RangeOptions

/-- A facet of the given intervals over the field of the filter. -/
def ofRanges (ranges : List Bucket) : RangeOptions := ⟨none, none, none, none, ranges⟩

/-- The fields come as a pair, and so do the scripts. -/
def check (options : RangeOptions) : Except SearchError Unit :=
  if options.keyField.isSome ≠ options.valueField.isSome then
    .error (.configuration .unpairedFields)
  else if options.keyScript.isSome ≠ options.valueScript.isSome then
    .error (.configuration .unpairedScripts)
  else .ok ()

/-! ## Requests -/

/-- What is bucketed and counted: the pair of fields, the pair of scripts, or the field of
the filter. -/
def target (options : RangeOptions) (name : String) : Assoc Json :=
  match options.keyField, options.keyScript with
  | some keyField, _ =>
    [("key_field", .str keyField), ("value_field", .ofOption .str options.valueField)]
  | none, some keyScript =>
    [("key_script", .str keyScript), ("value_script", .ofOption .str options.valueScript)]
  | none, none => [("field", .str name)]

/-- The facet request of the filter of a name. -/
def aggregation (options : RangeOptions) (name : String) : Json :=
  let buckets := options.ranges.map fun bucket => bucket.bounds.toJson
  .single "range" (.obj (options.target name ++ [("ranges", .arr buckets)]))

/-- The condition that a field lies in an interval; terms have none. -/
def interval? (name : String) : FacetValue → Option Json
  | .range bounds =>
    let ends := [("from", bounds.lower.map .ofBinary64), ("to", bounds.upper.map .ofBinary64),
      ("include_lower", some (.bool true)), ("include_upper", some (.bool false))]
    some (.single "range" (.single name (.ofFields ends)))
  | .term _ => none

/-! ## Responses -/

/-- The facets of a response section.  There are as many in all as there are configured
intervals. -/
def readSection (options : RangeOptions) (name : String) (raw : Json) :
    Except SearchError (List Facet × UInt64) :=
  match RangeSection.ofJson? raw with
  | some entries => .ok (entries.facets, UInt64.ofNat options.ranges.length)
  | none => .error (.malformedResponse (.rangeSection name))

/-! ## Labels -/

/-- The configured interval with the given bounds. -/
def bucket? (options : RangeOptions) (bounds : Bounds) : Option Bucket :=
  options.ranges.find? fun bucket => bucket.bounds.sameValue bounds

/-- The text of a bound between its decorations. -/
def boundLabel (lead trail : String) (display : Option String) (bound : Option Binary64) : String :=
  let shown := display.getD ((bound.map Binary64.groupedText).getD "")
  lead ++ shown ++ trail

/-- The text of a line: an interval in words, then the count. -/
def label (options : RangeOptions) (lead trail : String) (facet : Facet) : String :=
  let count := " (" ++ integerText facet.count.toNat ++ ")"
  match facet.key with
  | .term t => lead ++ t.shown ++ trail ++ count
  | .range bounds =>
    let bucket := options.bucket? bounds
    let lower := boundLabel lead trail (bucket.bind Bucket.displayLower) bounds.lower
    let upper := boundLabel lead trail (bucket.bind Bucket.displayUpper) bounds.upper
    match bounds.lower, bounds.upper with
    | some _, some _ => "from " ++ lower ++ " to " ++ upper ++ count
    | some _, none => "more than " ++ lower ++ count
    | none, some _ => "less than " ++ upper ++ count
    | none, none => "any" ++ count

/-! ## Documents -/

/-- The options as the members of a document. -/
def members (options : RangeOptions) : Assoc Json :=
  [("key_field", .ofOption .str options.keyField), ("value_field", .ofOption .str options.valueField),
    ("key_script", .ofOption .str options.keyScript),
    ("value_script", .ofOption .str options.valueScript),
    ("ranges", .arr (options.ranges.map Bucket.toJson))]

/-- The options as a document. -/
def toJson (options : RangeOptions) : Json := .obj options.members

/-- The options in a document; whatever is missing is absent. -/
def ofJson? (document : Json) : Option RangeOptions := do
  let record ← Record.ofJson? 5 document
  let keyField ← record.optional? 0 "key_field" Json.toText?
  let valueField ← record.optional? 1 "value_field" Json.toText?
  let keyScript ← record.optional? 2 "key_script" Json.toText?
  let valueScript ← record.optional? 3 "value_script" Json.toText?
  let ranges ← record.withDefault? 4 "ranges" [] (Json.toList? Bucket.ofJson?)
  return ⟨keyField, valueField, keyScript, valueScript, ranges⟩

end RangeOptions

end FacetedSearch
