import FacetedSearch.Json.Token

/-!
# Reading JSON text

Tokens are assembled into a document on a stack of the arrays and objects that are still
open.  `Expects` says what may come next, so no trailing comma, no missing one
and nothing behind the document is let through.  A key that an object repeats keeps its
first place and takes the last value.  The number of open arrays and objects is bounded.

## Main definitions

* `Assembly.step?`: takes one token;
* `Json.read?`: the document of a text, with a bound on nesting;
* `Json.nestingLimit`: the bound on nesting of documents from outside.
-/

namespace FacetedSearch

/-- An array or object that is still open. -/
inductive Frame where
  /-- An array with the items so far, in reverse. -/
  | items (before : List Json)
  /-- An object with the members so far, and the key whose value is due. -/
  | members (before : Assoc Json) (key : String)

/-- What may come next. -/
inductive Expects where
  /-- A value. -/
  | value
  /-- The first item of an array, or its end. -/
  | itemOrEnd
  /-- The first key of an object, or its end. -/
  | keyOrEnd
  /-- A key. -/
  | key
  /-- The colon behind a key. -/
  | colon
  /-- A comma, or the end of the innermost array or object. -/
  | commaOrEnd
  /-- Nothing: the document is complete. -/
  | nothing (document : Json)

/-- The open arrays and objects, innermost first, and what may come next. -/
structure Assembly where
  frames : List Frame
  expects : Expects

namespace Assembly

/-- Nothing read yet. -/
def start : Assembly := ⟨[], .value⟩

/-- Puts a complete value into the innermost open array or object. -/
def place (frames : List Frame) (value : Json) : Assembly :=
  match frames with
  | [] => ⟨[], .nothing value⟩
  | .items before :: rest => ⟨.items (value :: before) :: rest, .commaOrEnd⟩
  | .members before key :: rest => ⟨.members (before.insert key value) key :: rest, .commaOrEnd⟩

/-- Opens an array or object, unless too many are open. -/
def open? (limit : Nat) (frames : List Frame) (c : Char) : Option Assembly :=
  if frames.length < limit then
    if c = '[' then some ⟨.items [] :: frames, .itemOrEnd⟩
    else if c = '\x7b' then some ⟨.members [] "" :: frames, .keyOrEnd⟩
    else none
  else none

/-- Closes the innermost array or object. -/
def close? (frames : List Frame) (c : Char) : Option Assembly :=
  match frames with
  | .items before :: rest => if c = ']' then some (place rest (.arr before.reverse)) else none
  | .members before _ :: rest => if c = '\x7d' then some (place rest (.obj before)) else none
  | [] => none

/-- Takes a comma, or closes. -/
def next? (frames : List Frame) (c : Char) : Option Assembly :=
  if c = ',' then
    match frames with
    | .items _ :: _ => some ⟨frames, .value⟩
    | .members _ _ :: _ => some ⟨frames, .key⟩
    | [] => none
  else close? frames c

/-- Takes a key of the innermost object. -/
def key? (frames : List Frame) (value : Json) : Option Assembly :=
  match frames, value with
  | .members before _ :: rest, .str key => some ⟨.members before key :: rest, .colon⟩
  | _, _ => none

/-- Takes one token. -/
def step? (limit : Nat) (assembly : Assembly) (token : Token) : Option Assembly :=
  let frames := assembly.frames
  match assembly.expects, token with
  | .value, .value value => some (place frames value)
  | .value, .mark c => open? limit frames c
  | .itemOrEnd, .value value => some (place frames value)
  | .itemOrEnd, .mark c => if c = ']' then close? frames c else open? limit frames c
  | .keyOrEnd, .value value => key? frames value
  | .keyOrEnd, .mark c => close? frames c
  | .key, .value value => key? frames value
  | .colon, .mark c => if c = ':' then some ⟨frames, .value⟩ else none
  | .commaOrEnd, .mark c => next? frames c
  | _, _ => none

end Assembly

namespace Json

/-- Takes one character of a text. -/
def readChar? (limit : Nat) (state : Scan × Assembly) (c : Char) : Option (Scan × Assembly) := do
  let (tokens, scan) ← state.1.step? c
  let assembly ← tokens.foldlM (Assembly.step? limit) state.2
  return (scan, assembly)

/-- The document of a text in which at most `limit` arrays and objects are nested. -/
def read? (limit : Nat) (text : String) : Option Json := do
  let (scan, assembly) ← text.toList.foldlM (readChar? limit) (.between, .start)
  let tokens ← scan.finish?
  let assembly ← tokens.foldlM (Assembly.step? limit) assembly
  match assembly.expects with
  | .nothing document => some document
  | _ => none

/-- How many arrays and objects may be nested in a document from outside. -/
abbrev nestingLimit : Nat := 127

end Json

end FacetedSearch
