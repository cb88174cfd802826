import RowTree.Text.Runs

/-!
# Combining classes

Where a mark stands around its character, as Unicode's canonical combining class:
marks of different classes may be written in any order, and one of class zero
keeps its place.
-/

namespace RowTree.Text

def combiningClassRuns : Runs Nat := .ofText (fun text => (natural? text).getD 0) "
  0:0 300:230 315:232 316:220 31A:232 31B:216 31C:220 321:202 323:220 327:202 329:220 334:1
  339:220 33D:230 347:220 34A:230 34D:220 350:230 353:220 357:230 358:232 359:220 35B:230 35C:233
  35D:234 35F:233 360:234 362:233 363:230 371:0 483:230 488:0 591:220 592:230 596:220 597:230
  59A:222 59B:220 59C:230 5A2:220 5A8:230 5AA:220 5AB:230 5AD:222 5AE:228 5AF:230 5B0:10 5B1:11
  5B2:12 5B3:13 5B4:14 5B5:15 5B6:16 5B7:17 5B8:18 5B9:19 5BB:20 5BC:21 5BD:22 5BE:0 5BF:23 5C0:0
  5C1:24 5C2:25 5C3:0 5C4:230 5C5:220 5C6:0 5C7:18 5D0:0 610:230 618:30 619:31 61A:32 61B:0 64B:27
  64C:28 64D:29 64E:30 64F:31 650:32 651:33 652:34 653:230 655:220 657:230 65C:220 65D:230 65F:220
  660:0 670:35 671:0 6D6:230 6DE:0 6DF:230 6E3:220 6E4:230 6E5:0 6E7:230 6E9:0 6EA:220 6EB:230
  6ED:220 6EE:0 711:36 712:0 730:230 731:220 732:230 734:220 735:230 737:220 73A:230 73B:220
  73D:230 73E:220 73F:230 742:220 743:230 744:220 745:230 746:220 747:230 748:220 749:230 74D:0
  7EB:230 7F2:220 7F3:230 7F4:0 7FD:220 7FE:0 816:230 81A:0 81B:230 824:0 825:230 828:0 829:230
  830:0 859:220 85E:0 897:230 899:220 89C:230 8A0:0 8CA:230 8CF:220 8D4:230 8E3:220 8E4:230
  8E6:220 8E7:230 8E9:220 8EA:230 8ED:220 8F0:27 8F1:28 8F2:29 8F3:230 8F6:220 8F7:230 8F9:220
  8FB:230 900:0 93C:7 93D:0 94D:9 94E:0 951:230 952:220 953:230 955:0 9BC:7 9BD:0 9CD:9 9CE:0
  9FE:230 A01:0 A3C:7 A3E:0 A4D:9 A51:0 ABC:7 ABD:0 ACD:9 AD0:0 B3C:7 B3D:0 B4D:9 B55:0 BCD:9
  BD0:0 C3C:7 C3D:0 C4D:9 C55:84 C56:91 C58:0 CBC:7 CBD:0 CCD:9 CD5:0 D3B:9 D3D:0 D4D:9 D4E:0
  DCA:9 DCF:0 E38:103 E3A:9 E3F:0 E48:107 E4C:0 EB8:118 EBA:9 EBB:0 EC8:122 ECC:0 F18:220 F1A:0
  F35:220 F36:0 F37:220 F38:0 F39:216 F3A:0 F71:129 F72:130 F74:132 F7A:130 F7E:0 F80:130 F82:230
  F84:9 F85:0 F86:230 F88:0 FC6:220 FC7:0 1037:7 1038:0 1039:9 103B:0 108D:220 108E:0 135D:230
  1360:0 1714:9 171F:0 1734:9 1735:0 17D2:9 17D3:0 17DD:230 17E0:0 18A9:228 18AA:0 1939:222
  193A:230 193B:220 1940:0 1A17:230 1A18:220 1A19:0 1A60:9 1A61:0 1A75:230 1A7F:220 1A80:0
  1AB0:230 1AB5:220 1ABB:230 1ABD:220 1ABE:0 1ABF:220 1AC1:230 1AC3:220 1AC5:230 1ACA:220 1ACB:230
  1ADD:220 1AE0:230 1AE6:220 1AE7:230 1AEB:234 1B00:0 1B34:7 1B35:0 1B44:9 1B45:0 1B6B:230
  1B6C:220 1B6D:230 1B74:0 1BAA:9 1BAC:0 1BE6:7 1BE7:0 1BF2:9 1BFC:0 1C37:7 1C3B:0 1CD0:230 1CD3:0
  1CD4:1 1CD5:220 1CDA:230 1CDC:220 1CE0:230 1CE1:0 1CE2:1 1CE9:0 1CED:220 1CEE:0 1CF4:230 1CF5:0
  1CF8:230 1CFA:0 1DC0:230 1DC2:220 1DC3:230 1DCA:220 1DCB:230 1DCD:234 1DCE:214 1DCF:220 1DD0:202
  1DD1:230 1DF6:232 1DF7:228 1DF9:220 1DFA:218 1DFB:230 1DFC:233 1DFD:220 1DFE:230 1DFF:220 1E01:0
  20D0:230 20D2:1 20D4:230 20D8:1 20DB:230 20DD:0 20E1:230 20E2:0 20E5:1 20E7:230 20E8:220
  20E9:230 20EA:1 20EC:220 20F0:230 2104:0 2CEF:230 2CF3:0 2D7F:9 2D80:0 2DE0:230 2E00:0 302A:218
  302B:228 302C:232 302D:222 302E:224 3030:0 3099:8 309D:0 A66F:230 A670:0 A674:230 A67E:0
  A69E:230 A6A0:0 A6F0:230 A6F2:0 A806:9 A807:0 A82C:9 A830:0 A8C4:9 A8C5:0 A8E0:230 A8F2:0
  A92B:220 A92E:0 A953:9 A95F:0 A9B3:7 A9B4:0 A9C0:9 A9C1:0 AAB0:230 AAB1:0 AAB2:230 AAB4:220
  AAB5:0 AAB7:230 AAB9:0 AABE:230 AAC0:0 AAC1:230 AAC2:0 AAF6:9 AB01:0 ABED:9 ABF0:0 FB1E:26
  FBB2:0 FE20:230 FE27:220 FE2E:230 FE45:0 101FD:220 10280:0 102E0:220 102E1:0 10376:230 10380:0
  10A0D:220 10A0E:0 10A0F:230 10A10:0 10A38:230 10A39:1 10A3A:220 10A3F:9 10A40:0 10AE5:230
  10AE6:220 10AEB:0 10D24:230 10D30:0 10D69:230 10D6E:0 10EAB:230 10EAD:0 10EFA:220 10EFC:0
  10EFD:220 10F00:0 10F46:220 10F48:230 10F4B:220 10F4C:230 10F4D:220 10F51:0 10F82:230 10F83:220
  10F84:230 10F85:220 10F86:0 11046:9 11047:0 11070:9 11071:0 1107F:9 11080:0 110B9:9 110BA:7
  110BB:0 11100:230 11103:0 11133:9 11136:0 11173:7 11174:0 111C0:9 111C1:0 111CA:7 111CB:0
  11235:9 11236:7 11237:0 112E9:7 112EA:9 112F0:0 1133B:7 1133D:0 1134D:9 11350:0 11366:230
  11380:0 113CE:9 113D1:0 11442:9 11443:0 11446:7 11447:0 1145E:230 1145F:0 114C2:9 114C3:7
  114C4:0 115BF:9 115C0:7 115C1:0 1163F:9 11640:0 116B6:9 116B7:7 116B8:0 1172B:9 11730:0 11839:9
  1183A:7 1183B:0 1193D:9 1193F:0 11943:7 11944:0 119E0:9 119E1:0 11A34:9 11A35:0 11A47:9 11A50:0
  11A99:9 11A9A:0 11C3F:9 11C40:0 11D42:7 11D43:0 11D44:9 11D46:0 11D97:9 11D98:0 11F41:9 11F43:0
  1612F:9 16130:0 16AF0:1 16AF5:0 16B30:230 16B37:0 16FF0:6 16FF2:0 1BC9E:1 1BC9F:0 1D165:216
  1D167:1 1D16A:0 1D16D:226 1D16E:216 1D17B:220 1D183:0 1D185:230 1D18A:220 1D18C:0 1D1AA:230
  1D1AE:0 1D242:230 1D245:0 1E000:230 1E100:0 1E130:230 1E137:0 1E2AE:230 1E2C0:0 1E2EC:230
  1E2F0:0 1E4EC:232 1E4EE:220 1E4EF:230 1E4F0:0 1E5EE:230 1E5EF:220 1E5F0:0 1E6E3:230 1E6E4:0
  1E6E6:230 1E6E7:0 1E6EE:230 1E6F0:0 1E6F5:230 1E6FE:0 1E8D0:220 1E922:0 1E944:230 1E94A:7
  1E94B:0"

def combiningClass (c : Char) : Nat := (combiningClassRuns.get? c).getD 0

/-- A sign that takes the vowel from the letter before it. -/
def isVirama (c : Char) : Bool := combiningClass c == 9

end RowTree.Text
