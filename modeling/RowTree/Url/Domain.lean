import RowTree.Url.Domain.Direction
import RowTree.Url.Domain.Joiner
import RowTree.Url.Domain.Mapping
import RowTree.Url.Punycode

/-!
# Domains

A domain in the one form in which it is looked up: labels of ASCII characters in
lower case between points. A label with other characters is written in Punycode
after a mark. A label that is given in that form must stand for a text that could
have been given itself.
-/

namespace RowTree.Url.Domain

/-- The characters that have a meaning in a URL and are in no name. -/
def reserved : List Char :=
  ['\x00', '\t', '\n', '\r', ' ', '#', '/', ':', '<', '>', '?', '@', '[', '\\', ']', '^', '|']

def isReserved (c : Char) : Bool := reserved.contains c

/-- A domain has no control character and no percent sign either. -/
def isForbidden (c : Char) : Bool :=
  isReserved c || c.toNat < 0x20 || c == '%' || c.toNat == 0x7F

def isAscii (text : List Char) : Bool := text.all (·.toNat < 0x80)

def codedMark : List Char := ['x', 'n', '-', '-']

def codedText? (label : List Char) : Option (List Char) :=
  if codedMark.isPrefixOf label then some (label.drop 4) else none

/-- What Punycode of at most 2000 characters stands for, if it is a mapped text.
A hyphen at the end would say that only ASCII characters are coded. -/
def decoded? (code : List Char) : Option (List Char) :=
  if code.getLast?.getD '-' = '-' ∨ 2000 < code.length ∨ !isAscii code then none
  else (Punycode.decode? code).filter fun text => isMapped text && !text.contains '.'

def shown? (label : List Char) : Option (List Char) :=
  match codedText? label with
  | some code => decoded? code
  | none => some label

/-- A label has no forbidden character, starts with no mark, has its joiners in
their places, and is not longer than what Punycode may take. -/
def isLabel (text : List Char) : Bool :=
  !text.any isForbidden && !text.head?.any Text.isMark && fitJoiners [] text
    && (isAscii text || text.length ≤ 1000)

def coded (label : List Char) : List Char :=
  if isAscii label then label else codedMark ++ Punycode.encode label

/-- The mapped labels of a domain. Other points than the ASCII one are mapped to
it. -/
def labels? (domain : List Char) : Option (List (List Char)) :=
  ((Text.split (· == '.') domain).mapM mapText?).map (·.flatMap (Text.split (· == '.')))

def ascii? (domain : List Char) : Option (List Char) := do
  let labels ← labels? domain
  let shown ← labels.mapM shown?
  if shown.all isLabel && haveOneDirection shown then
    some (['.'].intercalate (labels.map coded))
  else none

end RowTree.Url.Domain
