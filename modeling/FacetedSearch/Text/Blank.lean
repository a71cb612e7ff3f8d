/-!
# Blank characters

Numbers typed by a person may stand between blanks.  A blank is a character of the
white-space property: five control characters, the space, the next-line and
non-breaking characters, and the typographic spaces.  The zero-width space is not one.

## Main definitions

* `isBlank`: membership of a character;
* `trimBlanks`: a list of characters without the blanks at its two ends.
-/

namespace FacetedSearch

/-- The code points of the blanks, as closed ranges in increasing order. -/
def Blank.ranges : List (Nat × Nat) :=
  [(0x9, 0xD), (0x20, 0x20), (0x85, 0x85), (0xA0, 0xA0), (0x1680, 0x1680),
    (0x2000, 0x200A), (0x2028, 0x2029), (0x202F, 0x202F), (0x205F, 0x205F), (0x3000, 0x3000)]

/-- Whether a character is a blank. -/
def isBlank (c : Char) : Bool :=
  Blank.ranges.any fun range => range.1 ≤ c.toNat && c.toNat ≤ range.2

/-- The characters between the blanks at the two ends. -/
def trimBlanks (cs : List Char) : List Char :=
  ((cs.dropWhile isBlank).reverse.dropWhile isBlank).reverse

@[simp] theorem trimBlanks_nil : trimBlanks [] = [] := rfl

end FacetedSearch
