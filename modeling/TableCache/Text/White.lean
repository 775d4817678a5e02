/-!
# White space

The characters with the `White_Space` property: the line ends, the tabs, and the spaces of all
widths, also those that do not break a line.
-/

namespace TableCache.Text

/-- The runs of white space, by their first and last code points. -/
def whiteRuns : List (Nat × Nat) :=
  [(0x9, 0xD), (0x20, 0x20), (0x85, 0x85), (0xA0, 0xA0), (0x1680, 0x1680), (0x2000, 0x200A),
    (0x2028, 0x2029), (0x202F, 0x202F), (0x205F, 0x205F), (0x3000, 0x3000)]

/-- Whether a character is white space. -/
def isWhite (char : Char) : Bool :=
  whiteRuns.any fun (first, last) => first ≤ char.toNat && char.toNat ≤ last

/-- Characters without the white space around them. -/
def trimWhite (chars : List Char) : List Char :=
  ((chars.dropWhile isWhite).reverse.dropWhile isWhite).reverse

end TableCache.Text
