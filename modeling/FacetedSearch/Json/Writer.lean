import FacetedSearch.Json.Basic
import FacetedSearch.Number.PlainText
import FacetedSearch.Text.Integer

/-!
# Compact JSON text

A document is written without any blanks.  Integers are plain digits.  A double shows
that it is one: it has a point or an exponent.  It is written in positional notation
when its leading digit stands for at least `10 ^ (-5)` and less than `10 ^ 16`, and
otherwise as one leading digit, the rest of the shortest digits behind the point, and
an exponent with its sign.  Where two shortest decimals are equally near, the even one
is taken.

In a string the quote, the backslash and the control characters are escaped, the
latter with their short escape if they have one.  Everything else stands for itself.

## Main definitions

* `Decimal.jsonChars`, `Json.floatChars`: the text of a double;
* `Json.stringChars`: the text of a string;
* `Json.text`: the text of a document.
-/

namespace FacetedSearch

/-- A decimal as JSON writes it, marked as a double by a point or an exponent. -/
def Decimal.jsonChars (d : Decimal) : List Char :=
  let ds := digits d.significand
  let leading : Int := ds.length + d.exponent - 1
  if d.significand = 0 ∨ (-5 ≤ leading ∧ leading < 16) then
    if 0 ≤ d.exponent then d.positional ++ ['.', '0'] else d.positional
  else
    let mantissa := match ds with
      | first :: second :: rest => first :: '.' :: second :: rest
      | short => short
    mantissa ++ 'e' :: (if 0 ≤ leading then '+' else '-') :: digits leading.natAbs

namespace Json

/-- The text of a double. -/
def floatChars : Binary64 → List Char
  | .finite negative rank =>
    Binary64.signChars negative ++ (Decimal.shortest .even rank.val).jsonChars
  | _ => "null".toList

/-- How one character is written in a string. -/
def escaped (c : Char) : List Char :=
  match c with
  | '"' => ['\\', '"']
  | '\\' => ['\\', '\\']
  | '\x08' => ['\\', 'b']
  | '\x0c' => ['\\', 'f']
  | '\n' => ['\\', 'n']
  | '\r' => ['\\', 'r']
  | '\t' => ['\\', 't']
  | c =>
    if c.toNat < 0x20 then
      ['\\', 'u', '0', '0', Nat.digitChar (c.toNat / 16), Nat.digitChar (c.toNat % 16)]
    else [c]

/-- The text of a string. -/
def stringChars (s : String) : List Char :=
  '"' :: (s.toList.flatMap escaped ++ ['"'])

mutual

/-- The characters of a document. -/
def chars : Json → List Char
  | .null => "null".toList
  | .bool value => if value then "true".toList else "false".toList
  | .int value => integerChars value
  | .float value => floatChars value
  | .str value => stringChars value
  | .arr items => '[' :: (itemsChars items ++ [']'])
  | .obj members => '\x7b' :: (membersChars members ++ ['\x7d'])

/-- The characters of the items of an array, between commas. -/
def itemsChars : List Json → List Char
  | [] => []
  | [item] => chars item
  | item :: rest => chars item ++ ',' :: itemsChars rest

/-- The characters of the members of an object, between commas. -/
def membersChars : List (String × Json) → List Char
  | [] => []
  | [(key, value)] => stringChars key ++ ':' :: chars value
  | (key, value) :: rest => stringChars key ++ ':' :: (chars value ++ ',' :: membersChars rest)

end

/-- The compact text of a document. -/
def text (document : Json) : String := String.ofList document.chars

end Json

end FacetedSearch
