import FacetedSearch.Json.Numeral

/-!
# Tokens of JSON text

The text of a document is cut into tokens by a machine that looks at one character at a
time: punctuation marks, and the values that hold no others.  `Scan` is what the machine
remembers between two characters.  A numeral or word is gathered as long as its
characters last and judged as a whole; a string is decoded as it comes.

Only space, tab, line feed and carriage return separate tokens.  A string may hold no
raw control character, and an escape that names half of a surrogate pair must be
followed by the escape of the other half.

## Main definitions

* `Token`: marks and single values;
* `Scan.step?`: the machine's step, giving the tokens that end with a character;
* `Scan.finish?`: the tokens that end with the text.
-/

namespace FacetedSearch

/-- A punctuation mark, or a value that holds no others. -/
inductive Token where
  | mark (c : Char)
  | value (value : Json)

/-- What has been read of a token so far; gathered characters are in reverse. -/
inductive Scan where
  /-- Between two tokens. -/
  | between
  /-- In a numeral or word. -/
  | lexeme (gathered : List Char)
  /-- In a string. -/
  | string (gathered : List Char)
  /-- Behind a backslash, after the first half of a surrogate pair if one is given. -/
  | escape (gathered : List Char) (lead : Option Nat)
  /-- In the hexadecimal digits of an escape: their value and how many are missing. -/
  | code (gathered : List Char) (lead : Option Nat) (value missing : Nat)
  /-- Behind the first half of a surrogate pair. -/
  | half (gathered : List Char) (lead : Nat)

namespace Scan

/-- Whether a character separates tokens. -/
def isSeparator (c : Char) : Bool :=
  c == ' ' || c == '\t' || c == '\n' || c == '\r'

/-- Whether a character is a punctuation mark. -/
def isMark (c : Char) : Bool :=
  c == '[' || c == ']' || c == '\x7b' || c == '\x7d' || c == ',' || c == ':'

/-- Whether a character can stand in a numeral or word. -/
def isLexemeChar (c : Char) : Bool :=
  c.isAlphanum || c == '-' || c == '+' || c == '.'

/-- The value of a numeral or word. -/
def lexemeValue? (gathered : List Char) : Option Json :=
  match String.ofList gathered.reverse with
  | "null" => some .null
  | "true" => some (.bool true)
  | "false" => some (.bool false)
  | _ => Json.ofNumeral? gathered.reverse

/-- The value of a hexadecimal digit. -/
def hexDigit? (c : Char) : Option Nat :=
  if c.isDigit then some (c.toNat - '0'.toNat)
  else if 'a' ≤ c ∧ c ≤ 'f' then some (c.toNat - 'a'.toNat + 10)
  else if 'A' ≤ c ∧ c ≤ 'F' then some (c.toNat - 'A'.toNat + 10)
  else none

/-- The character of a short escape. -/
def shortEscape? (c : Char) : Option Char :=
  match c with
  | '"' => some '"'
  | '\\' => some '\\'
  | '/' => some '/'
  | 'b' => some '\x08'
  | 'f' => some '\x0c'
  | 'n' => some '\n'
  | 'r' => some '\r'
  | 't' => some '\t'
  | _ => none

/-- What follows a complete escape by code unit. -/
def afterCode? (gathered : List Char) (lead : Option Nat) (unit : Nat) : Option Scan :=
  let isLead := 0xD800 ≤ unit ∧ unit ≤ 0xDBFF
  let isTrail := 0xDC00 ≤ unit ∧ unit ≤ 0xDFFF
  match lead with
  | some first =>
    if isTrail then
      some (.string (Char.ofNat (0x10000 + (first - 0xD800) * 0x400 + (unit - 0xDC00)) :: gathered))
    else none
  | none =>
    if isLead then some (.half gathered unit)
    else if isTrail then none
    else some (.string (Char.ofNat unit :: gathered))

/-- The step from between two tokens. -/
def start? (c : Char) : Option (List Token × Scan) :=
  if isSeparator c then some ([], .between)
  else if isMark c then some ([.mark c], .between)
  else if c = '"' then some ([], .string [])
  else if isLexemeChar c then some ([], .lexeme [c])
  else none

/-- One character further: the tokens that ended, and what is remembered. -/
def step? (scan : Scan) (c : Char) : Option (List Token × Scan) :=
  match scan with
  | .between => start? c
  | .lexeme gathered =>
    if isLexemeChar c then some ([], .lexeme (c :: gathered))
    else do
      let value ← lexemeValue? gathered
      let (tokens, next) ← start? c
      return (.value value :: tokens, next)
  | .string gathered =>
    if c = '"' then some ([.value (.str (String.ofList gathered.reverse))], .between)
    else if c = '\\' then some ([], .escape gathered none)
    else if c.toNat < 0x20 then none
    else some ([], .string (c :: gathered))
  | .escape gathered lead =>
    if c = 'u' then some ([], .code gathered lead 0 4)
    else if lead.isSome then none
    else (shortEscape? c).map fun e => ([], .string (e :: gathered))
  | .code gathered lead value missing => do
    let digit ← hexDigit? c
    let value := value * 16 + digit
    if missing ≤ 1 then
      let next ← afterCode? gathered lead value
      return ([], next)
    else return ([], .code gathered lead value (missing - 1))
  | .half gathered lead =>
    if c = '\\' then some ([], .escape gathered (some lead)) else none

/-- The tokens that end with the text; a string may not. -/
def finish? : Scan → Option (List Token)
  | .between => some []
  | .lexeme gathered => (lexemeValue? gathered).map fun value => [.value value]
  | _ => none

end Scan

end FacetedSearch
