import RowTree.Text.Mark

/-!
# The direction of labels

In a domain with a character that is written from right to left every label must
have one direction, so that the order in which it is shown is the order in which
it is written.
-/

namespace RowTree.Url.Domain

inductive Direction where
  | left
  | right
  | arabic
  | arabicNumber
  | europeanNumber
  | numberSign
  | numberSeparator
  | numberUnit
  | neutral
  | boundary
  | nonspacing
  | other
  deriving DecidableEq

def Direction.ofText : List Char → Direction
  | ['L'] => left
  | ['R'] => right
  | ['A', 'L'] => arabic
  | ['A', 'N'] => arabicNumber
  | ['E', 'N'] => europeanNumber
  | ['E', 'S'] => numberSign
  | ['C', 'S'] => numberSeparator
  | ['E', 'T'] => numberUnit
  | ['O', 'N'] => neutral
  | ['B', 'N'] => boundary
  | _ => other

/-- The directions of all characters but nonspacing marks. -/
def directionRuns : Text.Runs Direction := .ofText Direction.ofText "
  0:BN 9:S A:B B:S C:WS D:B E:BN 1C:B 1F:S 20:WS 21:ON 23:ET 26:ON 2B:ES 2C:CS 2D:ES 2E:CS 30:EN
  3A:CS 3B:ON 61:L 7B:ON 7F:BN A1:ON A2:ET A6:ON B0:ET B6:ON DF:L F7:ON F8:L 2B9:ON 2BB:L 2C2:ON
  2D0:L 2D2:ON 2EE:L 2EF:ON 371:L 375:ON 377:L 3F6:ON 3F8:L 58A:ON 58F:ET 5BE:R 606:ON 608:AL
  609:ET 60B:AL 60C:CS 60D:AL 60E:ON 61B:AL 660:AN 66A:ET 66B:AN 66D:AL 6DE:ON 6E5:AL 6E9:ON
  6EE:AL 6F0:EN 6FA:AL 7C0:R 7F6:ON 7FA:R 860:AL 903:L 9F2:ET 9F4:L 9FB:ET 9FC:L AF1:ET AF9:L
  BF3:ON BF9:ET BFA:ON C01:L C78:ON C7F:L E3F:ET E40:L F3A:ON F3E:L 1390:ON 13A0:L 1400:ON 1401:L
  169B:ON 16A0:L 17DB:ET 17DC:L 17F0:ON 1810:L 1940:ON 1946:L 19DE:ON 1A00:L 200C:BN 2010:ON
  2030:ET 2035:ON 2044:CS 2045:ON 20A0:ET 2104:ON 212E:ET 213A:ON 214E:L 218A:ON 2212:ES 2213:ET
  2214:ON 2336:L 237B:ON 2395:L 2396:ON 26AC:L 26AD:ON 2800:L 2900:ON 2C30:L 2CE5:ON 2CEC:L
  2CF9:ON 2D00:L 2E00:ON 3005:L 3008:ON 3021:L 3030:ON 3031:L 3037:ON 303B:L 303D:ON 3041:L
  30A0:ON 30A1:L 30FB:ON 30FC:L 31C0:ON 31F0:L 4DC0:ON 4E00:L A490:ON A4D0:L A60D:ON A610:L
  A673:ON A681:L A700:ON A723:L A788:ON A789:L A828:ON A830:L A838:ET A840:L A874:ON A880:L
  AB6A:ON ABC0:L FBB2:AL FBC3:ON FE73:AL 10000:L 10101:ON 10102:L 10140:ON 1018D:L 10190:ON
  101D0:L 102E1:EN 10300:L 10800:R 1091F:ON 10920:R 10B39:ON 10B40:R 10D00:AL 10D30:AN 10D40:R
  10D6E:ON 10D6F:R 10E60:AN 10E80:R 10EC2:AL 10ED0:ON 10F00:R 10F30:AL 10F70:R 11000:L 11052:ON
  11066:L 11660:ON 11680:L 11FD5:ON 11FDD:ET 11FE1:ON 11FFF:L 16FE2:ON 16FE3:L 1CC00:ON 1CF50:L
  1D1E9:ON 1D2C0:L 1D300:ON 1D360:L 1E2FF:ET 1E4D0:L 1E800:R 1EC71:AL 1EEF0:ON 1F150:L 1F16D:ON
  1F170:L 1F1AD:ON 1F1E6:L 1F260:ON 20000:L"

/-- The nonspacing marks that run from left to right like a letter. -/
def leftMarks : List Nat := [0xCBF, 0xCC6, 0x11A07, 0x11A08, 0x11C3F]

def direction (c : Char) : Direction :=
  if Text.isNonspacing c && !leftMarks.contains c.toNat then .nonspacing
  else (directionRuns.get? c).getD .other

/-- A character that makes a domain one with two directions. -/
def isRightToLeft (c : Char) : Bool :=
  [Direction.right, .arabic, .arabicNumber].contains (direction c)

def fitsLeft (d : Direction) : Bool :=
  [Direction.left, .europeanNumber, .numberSign, .numberSeparator, .numberUnit, .neutral,
    .boundary, .nonspacing].contains d

def fitsRight (d : Direction) : Bool :=
  [Direction.right, .arabic, .arabicNumber, .europeanNumber, .numberSign, .numberSeparator,
    .numberUnit, .neutral, .boundary, .nonspacing].contains d

/-- The directions of a label, without the nonspacing marks at its end, are those
of a label from left to right or of one from right to left, as its first one
says. A label from right to left has no numbers of both kinds. -/
def hasOneDirection (label : List Char) : Bool :=
  let directions := label.map direction
  let shown := (directions.reverse.dropWhile (· == .nonspacing)).reverse
  let last := shown.getLast?.getD .other
  match directions with
  | [] => true
  | .left :: _ => shown.all fitsLeft && [Direction.left, .europeanNumber].contains last
  | .right :: _ | .arabic :: _ =>
    shown.all fitsRight
      && [Direction.right, .arabic, .europeanNumber, .arabicNumber].contains last
      && !(shown.contains .europeanNumber && shown.contains .arabicNumber)
  | _ => false

/-- Every label of a domain has one direction if a character asks for it. -/
def haveOneDirection (labels : List (List Char)) : Bool :=
  !(labels.any (·.any isRightToLeft)) || labels.all hasOneDirection

end RowTree.Url.Domain
