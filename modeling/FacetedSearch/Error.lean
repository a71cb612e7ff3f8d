import FacetedSearch.Text.Quoted

/-!
# Why an operation is refused

An error says what was wrong as a value; `message` gives its wording.  Names and ids
that come from outside are quoted in messages, values are shown as labels show them.

Where a document does not have the shape that is wanted, the wording ends before the
complaint of the decoder.  What that says is the decoder's own, and nothing depends on it.

One cause is no refusal.  Where a sum does not fit into its 64 bits the program does not
go on: the operation is broken off at that point and does not return.  `breaksOff` tells this
cause from the others.

## Main definitions

* `ConfigurationFault`, `ResponseFault`, `SearchError`: the causes;
* `ConfigurationFault.message`, `ResponseFault.message`, `SearchError.message`: their wording;
* `SearchError.breaksOff`: whether the operation does not return.
-/

namespace FacetedSearch

/-- What makes a field, a filter, a request or a definition unusable. -/
inductive ConfigurationFault where
  /-- A field or filter has an empty name. -/
  | nameRequired
  /-- A filter can be neither expanded nor collapsed. -/
  | undisplayable (filter : String)
  /-- Only one of the key and value fields of a range filter is set. -/
  | unpairedFields
  /-- Only one of the key and value scripts of a range filter is set. -/
  | unpairedScripts
  /-- The page length is zero. -/
  | emptyPage
  /-- A section of the request has to be an object and is something else. -/
  | notAnObject (key : String)
  /-- A section of the request has to be an array and is something else. -/
  | notAnArray (key : String)
  /-- The list of conditions in the request's filter is not an array. -/
  | conditionsNotAnArray
  /-- The definition of a search is a JSON document, but no object. -/
  | definitionNotAnObject
  /-- The definition of a search cannot be read; the complaint of the decoder is left out. -/
  | unreadableDefinition
  deriving DecidableEq

/-- The wording of a configuration fault. -/
def ConfigurationFault.message : ConfigurationFault → String
  | .nameRequired => "a fieldname is required"
  | .undisplayable filter =>
    "filter " ++ quoted filter ++ " cannot be displayed: neither expandable nor collapsible"
  | .unpairedFields => "key_field and value_field go together"
  | .unpairedScripts => "key_script and value_script go together"
  | .emptyPage => "page length must be positive"
  | .notAnObject key => "request key " ++ quoted key ++ " must be an object"
  | .notAnArray key => "request key " ++ quoted key ++ " must be an array"
  | .conditionsNotAnArray => "request key filter.and must be an array"
  | .definitionNotAnObject => "engine config must be a JSON object"
  | .unreadableDefinition => "invalid engine config"

/-- What makes a response unusable. -/
inductive ResponseFault where
  /-- The document is no response; the complaint of the decoder is left out, here and below. -/
  | document
  /-- The section of a filter is no terms section. -/
  | termsSection (filter : String)
  /-- The section of a filter is no range section. -/
  | rangeSection (filter : String)
  /-- A filter of a kind of its own cannot read its section. -/
  | other (text : String)
  deriving DecidableEq

/-- The wording of a response fault, as what follows the class of the error. -/
def ResponseFault.message : ResponseFault → String
  | .document => ""
  | .termsSection filter => ": terms facet " ++ quoted filter
  | .rangeSection filter => ": range facet " ++ quoted filter
  | .other text => ": " ++ text

/-- Why an operation on a query is refused. -/
inductive SearchError where
  /-- A field, filter, request or definition cannot be used as given. -/
  | configuration (fault : ConfigurationFault)
  /-- A query is neither nothing, a text, a list of texts nor an object. -/
  | unparseableQuery (shown : String)
  /-- An id does not have the shape of a range id. -/
  | invalidRangeId (id : String)
  /-- An id is not the text of an integer. -/
  | invalidNumericId (id : String)
  /-- A filter cannot select a value of this sort. -/
  | incompatibleValue (filter value : String)
  | unknownField (name : String)
  | unknownFilter (name : String)
  | duplicateName (name : String)
  /-- A response cannot be read. -/
  | malformedResponse (fault : ResponseFault)
  /-- A sum does not fit into 64 bits, and the operation is broken off. -/
  | overflow
  deriving DecidableEq

/-- Whether the operation does not return. -/
def SearchError.breaksOff : SearchError → Bool
  | .overflow => true
  | _ => false

/-- The wording of an error. -/
def SearchError.message : SearchError → String
  | .configuration fault => "Configuration error: " ++ fault.message
  | .unparseableQuery shown => "Unable to parse given query: " ++ shown
  | .invalidRangeId id => "Invalid range id: " ++ quoted id
  | .invalidNumericId id => "Invalid numeric id: " ++ quoted id
  | .incompatibleValue filter value => "Filter " ++ quoted filter ++ " cannot use value " ++ value
  | .unknownField name => "Unknown field: " ++ quoted name
  | .unknownFilter name => "Unknown filter: " ++ quoted name
  | .duplicateName name => "Fieldname already defined: " ++ quoted name
  | .malformedResponse fault => "Malformed search response" ++ fault.message
  | .overflow => "attempt to add with overflow"

end FacetedSearch
