/-!
# Blank characters

The characters with the Unicode property White_Space, and the text without
those at its two ends.
-/

namespace RowTree.Text

/-- The ranges of White_Space, both ends included. -/
def blankRanges : List (Nat × Nat) :=
  [(0x9, 0xD), (0x20, 0x20), (0x85, 0x85), (0xA0, 0xA0), (0x1680, 0x1680), (0x2000, 0x200A),
    (0x2028, 0x2029), (0x202F, 0x202F), (0x205F, 0x205F), (0x3000, 0x3000)]

def isBlank (c : Char) : Bool :=
  blankRanges.any fun range => range.1 ≤ c.toNat && c.toNat ≤ range.2

def dropBlank (text : List Char) : List Char := text.dropWhile isBlank

def dropBlankEnd (text : List Char) : List Char := (dropBlank text.reverse).reverse

def trim (text : List Char) : List Char := dropBlankEnd (dropBlank text)

end RowTree.Text
