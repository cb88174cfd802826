import RowTree.Text.Runs

/-!
# Marks

Characters that belong to the one before them: marks that take no room of their
own, Unicode's general categories Mn and Me, and marks that do, Mc. Characters
that no text of a domain has may be on any run.
-/

namespace RowTree.Text

inductive Mark where
  | none
  | nonspacing
  | spacing
  deriving DecidableEq

def Mark.ofText : List Char → Mark
  | ['n'] => nonspacing
  | ['s'] => spacing
  | _ => none

def markRuns : Runs Mark := .ofText Mark.ofText "
  0:o 300:n 371:o 483:n 48B:o 591:n 5BE:o 5BF:n 5C0:o 5C1:n 5C3:o 5C4:n 5C6:o 5C7:n 5D0:o 610:n
  61B:o 64B:n 660:o 670:n 671:o 6D6:n 6DE:o 6DF:n 6E5:o 6E7:n 6E9:o 6EA:n 6EE:o 711:n 712:o 730:n
  74D:o 7A6:n 7B1:o 7EB:n 7F4:o 7FD:n 7FE:o 816:n 81A:o 81B:n 824:o 825:n 828:o 829:n 830:o 859:n
  85E:o 897:n 8A0:o 8CA:n 903:s 904:o 93A:n 93B:s 93C:n 93D:o 93E:s 941:n 949:s 94D:n 94E:s 950:o
  951:n 960:o 962:n 964:o 981:n 982:s 985:o 9BC:n 9BD:o 9BE:s 9C1:n 9C7:s 9CD:n 9CE:o 9D7:s 9E0:o
  9E2:n 9E6:o 9FE:n A03:s A05:o A3C:n A3E:s A41:n A5C:o A70:n A72:o A75:n A76:o A81:n A83:s A85:o
  ABC:n ABD:o ABE:s AC1:n AC9:s ACD:n AD0:o AE2:n AE6:o AFA:n B02:s B05:o B3C:n B3D:o B3E:s B3F:n
  B40:s B41:n B47:s B4D:n B57:s B5F:o B62:n B66:o B82:n B83:o BBE:s BC0:n BC1:s BCD:n BD0:o BD7:s
  BE6:o C00:n C01:s C04:n C05:o C3C:n C3D:o C3E:n C41:s C46:n C58:o C62:n C66:o C81:n C82:s C84:o
  CBC:n CBD:o CBE:s CBF:n CC0:s CC6:n CC7:s CCC:n CD5:s CDC:o CE2:n CE6:o CF3:s D00:n D02:s D04:o
  D3B:n D3D:o D3E:s D41:n D46:s D4D:n D4E:o D57:s D58:o D62:n D66:o D81:n D82:s D85:o DCA:n DCF:s
  DD2:n DD8:s DE6:o DF2:s DF4:o E31:n E32:o E34:n E3F:o E47:n E4F:o EB1:n EB2:o EB4:n EBD:o EC8:n
  ED0:o F18:n F1A:o F35:n F36:o F37:n F38:o F39:n F3A:o F3E:s F40:o F71:n F7F:s F80:n F85:o F86:n
  F88:o F8D:n FBE:o FC6:n FC7:o 102B:s 102D:n 1031:s 1032:n 1038:s 1039:n 103B:s 103D:n 103F:o
  1056:s 1058:n 105A:o 105E:n 1061:o 1062:s 1065:o 1067:s 106E:o 1071:n 1075:o 1082:n 1083:s
  1085:n 1087:s 108D:n 108E:o 108F:s 1090:o 109A:s 109D:n 109E:o 135D:n 1360:o 1712:n 1715:s
  171F:o 1732:n 1734:s 1735:o 1752:n 1760:o 1772:n 1780:o 17B6:s 17B7:n 17BE:s 17C6:n 17C7:s
  17C9:n 17D4:o 17DD:n 17E0:o 1885:n 1887:o 18A9:n 18AA:o 1920:n 1923:s 1927:n 1929:s 1932:n
  1933:s 1939:n 1940:o 1A17:n 1A19:s 1A1B:n 1A1E:o 1A55:s 1A56:n 1A57:s 1A58:n 1A61:s 1A62:n
  1A63:s 1A65:n 1A6D:s 1A73:n 1A80:o 1AB0:n 1B04:s 1B05:o 1B34:n 1B35:s 1B36:n 1B3B:s 1B3C:n
  1B3D:s 1B42:n 1B43:s 1B45:o 1B6B:n 1B74:o 1B80:n 1B82:s 1B83:o 1BA1:s 1BA2:n 1BA6:s 1BA8:n
  1BAA:s 1BAB:n 1BAE:o 1BE6:n 1BE7:s 1BE8:n 1BEA:s 1BED:n 1BEE:s 1BEF:n 1BF2:s 1BFC:o 1C24:s
  1C2C:n 1C34:s 1C36:n 1C3B:o 1CD0:n 1CD3:o 1CD4:n 1CE1:s 1CE2:n 1CE9:o 1CED:n 1CEE:o 1CF4:n
  1CF5:o 1CF7:s 1CF8:n 1CFA:o 1DC0:n 1E01:o 20D0:n 2104:o 2CEF:n 2CF3:o 2D7F:n 2D80:o 2DE0:n
  2E00:o 302A:n 302E:s 3030:o 3099:n 309D:o A66F:n A673:o A674:n A67E:o A69E:n A6A0:o A6F0:n
  A6F2:o A802:n A803:o A806:n A807:o A80B:n A80C:o A823:s A825:n A827:s A828:o A82C:n A830:o
  A880:s A882:o A8B4:s A8C4:n A8CE:o A8E0:n A8F2:o A8FF:n A900:o A926:n A92E:o A947:n A952:s
  A95F:o A980:n A983:s A984:o A9B3:n A9B4:s A9B6:n A9BA:s A9BC:n A9BE:s A9C1:o A9E5:n A9E6:o
  AA29:n AA2F:s AA31:n AA33:s AA35:n AA40:o AA43:n AA44:o AA4C:n AA4D:s AA50:o AA7B:s AA7C:n
  AA7D:s AA7E:o AAB0:n AAB1:o AAB2:n AAB5:o AAB7:n AAB9:o AABE:n AAC0:o AAC1:n AAC2:o AAEB:s
  AAEC:n AAEE:s AAF0:o AAF5:s AAF6:n AB01:o ABE3:s ABE5:n ABE6:s ABE8:n ABE9:s ABEB:o ABEC:s
  ABED:n ABF0:o FB1E:n FBB2:o FE20:n FE45:o 101FD:n 10280:o 102E0:n 102E1:o 10376:n 10380:o
  10A01:n 10A10:o 10A38:n 10A40:o 10AE5:n 10AEB:o 10D24:n 10D30:o 10D69:n 10D6E:o 10EAB:n 10EAD:o
  10EFA:n 10F00:o 10F46:n 10F51:o 10F82:n 10F86:o 11000:s 11001:n 11002:s 11003:o 11038:n 11047:o
  11070:n 11071:o 11073:n 11075:o 1107F:n 11082:s 11083:o 110B0:s 110B3:n 110B7:s 110B9:n 110BB:o
  110C2:n 110D0:o 11100:n 11103:o 11127:n 1112C:s 1112D:n 11136:o 11145:s 11147:o 11173:n 11174:o
  11180:n 11182:s 11183:o 111B3:s 111B6:n 111BF:s 111C1:o 111C9:n 111CD:o 111CE:s 111CF:n 111D0:o
  1122C:s 1122F:n 11232:s 11234:n 11235:s 11236:n 11238:o 1123E:n 1123F:o 11241:n 11280:o 112DF:n
  112E0:s 112E3:n 112F0:o 11300:n 11302:s 11305:o 1133B:n 1133D:o 1133E:s 11340:n 11341:s 11350:o
  11357:s 1135D:o 11362:s 11366:n 11380:o 113B8:s 113BB:n 113C2:s 113CE:n 113CF:s 113D0:n 113D1:o
  113D2:n 113D3:o 113E1:n 11400:o 11435:s 11438:n 11440:s 11442:n 11445:s 11446:n 11447:o 1145E:n
  1145F:o 114B0:s 114B3:n 114B9:s 114BA:n 114BB:s 114BF:n 114C1:s 114C2:n 114C4:o 115AF:s 115B2:n
  115B8:s 115BC:n 115BE:s 115BF:n 115C1:o 115DC:n 11600:o 11630:s 11633:n 1163B:s 1163D:n 1163E:s
  1163F:n 11641:o 116AB:n 116AC:s 116AD:n 116AE:s 116B0:n 116B6:s 116B7:n 116B8:o 1171D:n 1171E:s
  1171F:n 11720:s 11722:n 11726:s 11727:n 11730:o 1182C:s 1182F:n 11838:s 11839:n 1183B:o 11930:s
  1193B:n 1193D:s 1193E:n 1193F:o 11940:s 11941:o 11942:s 11943:n 11944:o 119D1:s 119D4:n 119DC:s
  119E0:n 119E1:o 119E4:s 11A00:o 11A01:n 11A0B:o 11A33:n 11A39:s 11A3A:o 11A3B:n 11A3F:o 11A47:n
  11A50:o 11A51:n 11A57:s 11A59:n 11A5C:o 11A8A:n 11A97:s 11A98:n 11A9A:o 11B60:n 11B61:s 11B62:n
  11B65:s 11B66:n 11B67:s 11BC0:o 11C2F:s 11C30:n 11C3E:s 11C3F:n 11C40:o 11C92:n 11CA9:s 11CAA:n
  11CB1:s 11CB2:n 11CB4:s 11CB5:n 11D00:o 11D31:n 11D46:o 11D47:n 11D50:o 11D8A:s 11D90:n 11D93:s
  11D95:n 11D96:s 11D97:n 11D98:o 11EF3:n 11EF5:s 11EF7:o 11F00:n 11F02:o 11F03:s 11F04:o 11F34:s
  11F36:n 11F3E:s 11F40:n 11F41:s 11F42:n 11F43:o 11F5A:n 11FB0:o 13440:n 13441:o 13447:n 13460:o
  1611E:n 1612A:s 1612D:n 16130:o 16AF0:n 16AF5:o 16B30:n 16B37:o 16F4F:n 16F50:o 16F51:s 16F8F:n
  16F93:o 16FE4:n 16FF0:s 16FF2:o 1BC9D:n 1BC9F:o 1CF00:n 1CF50:o 1D165:s 1D167:n 1D16A:o 1D16D:s
  1D17B:n 1D183:o 1D185:n 1D18C:o 1D1AA:n 1D1AE:o 1D242:n 1D245:o 1DA00:n 1DA37:o 1DA3B:n 1DA6D:o
  1DA75:n 1DA76:o 1DA84:n 1DA85:o 1DA9B:n 1DF00:o 1E000:n 1E100:o 1E130:n 1E137:o 1E2AE:n 1E2C0:o
  1E2EC:n 1E2F0:o 1E4EC:n 1E4F0:o 1E5EE:n 1E5F0:o 1E6E3:n 1E6E4:o 1E6E6:n 1E6E7:o 1E6EE:n 1E6F0:o
  1E6F5:n 1E6FE:o 1E8D0:n 1E922:o 1E944:n 1E94B:o"

def mark (c : Char) : Mark := (markRuns.get? c).getD .none

def isMark (c : Char) : Bool := mark c != .none

def isNonspacing (c : Char) : Bool := mark c == .nonspacing

end RowTree.Text
