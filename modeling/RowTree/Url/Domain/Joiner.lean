import RowTree.Text.CombiningClass
import RowTree.Text.Mark

/-!
# Joiners in labels

Two characters that are not seen join the letters around them or keep them
apart. A label may have one only where it changes what is seen: after a virama,
and the one that keeps letters apart also between letters that would join.
-/

namespace RowTree.Url.Domain

inductive Joining where
  | never
  | before
  | after
  | both
  /-- Letters join through it. -/
  | transparent
  deriving DecidableEq

def Joining.ofText : List Char → Joining
  | ['R'] => before
  | ['L'] => after
  | ['D'] => both
  | ['T'] => transparent
  | _ => never

/-- The joining of all characters but nonspacing marks. -/
def joiningRuns : Text.Runs Joining := .ofText Joining.ofText "
  0:U 620:D 621:U 622:R 626:D 627:R 628:D 629:R 62A:D 62F:R 633:D 640:C 641:D 648:R 649:D 660:U
  66E:D 671:R 674:U 679:D 688:R 69A:D 6C0:R 6C1:D 6C3:R 6CC:D 6CD:R 6CE:D 6CF:R 6D0:D 6D2:R 6D4:U
  6D5:R 6DE:U 6EE:R 6F0:U 6FA:D 6FD:U 6FF:D 700:U 710:R 712:D 715:R 71A:D 71E:R 71F:D 728:R 729:D
  72A:R 72B:D 72C:R 72D:D 72F:R 74E:D 759:R 75C:D 76B:R 76D:D 771:R 772:D 773:R 775:D 778:R 77A:D
  780:U 7CA:D 7F4:U 7FA:C 7FE:U 840:R 841:D 846:R 848:D 849:R 84A:D 854:R 855:D 856:R 85E:U 860:D
  861:U 862:D 866:U 867:R 868:D 869:R 883:C 886:D 887:U 889:D 88E:R 88F:D 8AA:R 8AD:U 8AE:R 8AF:D
  8B1:R 8B3:D 8B9:R 8BA:D 8C9:U 1807:D 1808:U 180A:C 1810:U 1820:D 1880:U 1887:D 18B0:U 200D:C
  2010:U A840:D A872:L A873:U 10AC0:D 10AC5:R 10AC6:U 10AC7:R 10AC8:U 10AC9:R 10ACB:U 10ACD:L
  10ACE:R 10AD3:D 10AD7:L 10AD8:D 10ADD:R 10ADE:D 10AE1:R 10AE2:U 10AE4:R 10AEB:D 10AEF:R 10AF0:U
  10B80:D 10B81:R 10B82:D 10B83:R 10B86:D 10B89:R 10B8A:D 10B8C:R 10B8D:D 10B8E:R 10B90:D 10B91:R
  10B99:U 10BA9:R 10BAD:D 10BAF:U 10D00:L 10D01:D 10D22:R 10D23:D 10D30:U 10EC2:R 10EC3:D 10EC5:U
  10EC6:D 10ED0:U 10F30:D 10F33:R 10F34:D 10F45:U 10F51:D 10F54:R 10F55:U 10F70:D 10F74:R 10F76:D
  10F86:U 10FB0:D 10FB1:U 10FB2:D 10FB4:R 10FB7:U 10FB8:D 10FB9:R 10FBB:D 10FBD:R 10FBE:D 10FC0:U
  10FC1:D 10FC2:R 10FC4:D 10FC5:U 10FC9:R 10FCA:D 10FCB:L 10FE0:U 1E922:D 1E94B:T 1E950:U"

def joining (c : Char) : Joining :=
  if Text.isNonspacing c then .transparent else (joiningRuns.get? c).getD .never

/-- The nearest letter in a direction joins in one of the given ways. -/
def joins (ways : List Joining) (text : List Char) : Bool :=
  ((text.map joining).find? (· != .transparent)).any ways.contains

/-- A joiner is in its place. The text before it is given backwards. -/
def fitsJoiner (before after : List Char) (c : Char) : Bool :=
  if c = '\u200D' then before.head?.any Text.isVirama
  else if c = '\u200C' then
    before.head?.any Text.isVirama || (joins [.after, .both] before && joins [.before, .both] after)
  else true

/-- Every joiner of a text is in its place. -/
def fitJoiners (before : List Char) : List Char → Bool
  | [] => true
  | c :: after => fitsJoiner before after c && fitJoiners (c :: before) after

end RowTree.Url.Domain
