/-!
# Letters without their case

Words are compared in two ways: by ASCII letters alone, or by simple case
folding, under which two characters beyond ASCII are letters of ASCII too, the
long s and the Kelvin sign.
-/

namespace RowTree.Text

def lower (word : List Char) : List Char := word.map Char.toLower

def sameWord (a b : List Char) : Bool := lower a == lower b

/-- The ASCII letter in lower case that a character folds to, or the character. -/
def foldLetter (c : Char) : Char :=
  if c = '\u017F' then 's' else if c = '\u212A' then 'k' else c.toLower

def fold (word : List Char) : List Char := word.map foldLetter

end RowTree.Text
