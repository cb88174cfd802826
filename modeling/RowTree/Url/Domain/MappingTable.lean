import RowTree.Text.Runs
import RowTree.Text.Split

/-!
# The mapping of characters in domains

What becomes of a character of a domain: it is kept, left out, refused, or
replaced by what stands for all characters that are taken for the same. The
table is that of Unicode for domains. The sharp s, the final sigma and the two
joiners are kept, as characters of their own.

A word of the table says so for a run of characters: `k`, `d` and `x` keep, drop
and refuse them, `c` puts the same text for each, `t` puts the characters from a
given one on, and `a` puts the next character for every other one.
-/

namespace RowTree.Url.Domain

inductive MappingRule where
  | keep
  | drop
  | refuse
  | constant (text : List Char)
  | translate (first : Nat)
  | alternate

def charactersOf (text : List Char) : List Char :=
  (Text.split (· == ',') text).map fun digits => Char.ofNat (Text.hexNumber digits)

def MappingRule.ofText : List Char → MappingRule
  | 'k' :: _ => keep
  | 'd' :: _ => drop
  | 'c' :: text => constant (charactersOf text)
  | 't' :: text => translate (Text.hexNumber text)
  | 'a' :: _ => alternate
  | _ => refuse

def mappingRuns : Text.Runs MappingRule := .ofText MappingRule.ofText "
  0:k 41:t61 5B:k 80:x A0:c20 A1:k A8:c20,308 A9:k AA:c61 AB:k AD:d AE:k AF:c20,304 B0:k B2:t32
  B4:c20,301 B5:c3BC B6:k B8:c20,327 B9:c31 BA:c6F BB:k BC:c31,2044,34 BD:c31,2044,32
  BE:c33,2044,34 BF:k C0:tE0 D7:k D8:tF8 DF:k 100:a 130:c69,307 131:k 132:c69,6A 134:a 138:k 139:a
  13F:c6C,B7 141:a 149:c2BC,6E 14A:a 178:cFF 179:a 17F:c73 180:k 181:c253 182:a 186:c254 187:c188
  188:k 189:t256 18B:c18C 18C:k 18E:c1DD 18F:c259 190:c25B 191:c192 192:k 193:c260 194:c263 195:k
  196:c269 197:c268 198:c199 199:k 19C:c26F 19D:c272 19E:k 19F:c275 1A0:a 1A6:c280 1A7:c1A8 1A8:k
  1A9:c283 1AA:k 1AC:c1AD 1AD:k 1AE:c288 1AF:c1B0 1B0:k 1B1:t28A 1B3:a 1B7:c292 1B8:c1B9 1B9:k
  1BC:c1BD 1BD:k 1C4:c64,17E 1C7:c6C,6A 1CA:c6E,6A 1CD:a 1DD:k 1DE:a 1F0:k 1F1:c64,7A 1F4:c1F5
  1F5:k 1F6:c195 1F7:c1BF 1F8:a 220:c19E 221:k 222:a 234:k 23A:c2C65 23B:c23C 23C:k 23D:c19A
  23E:c2C66 23F:k 241:c242 242:k 243:c180 244:c289 245:c28C 246:a 250:k 2B0:c68 2B1:c266 2B2:c6A
  2B3:c72 2B4:c279 2B5:c27B 2B6:c281 2B7:c77 2B8:c79 2B9:k 2D8:c20,306 2D9:c20,307 2DA:c20,30A
  2DB:c20,328 2DC:c20,303 2DD:c20,30B 2DE:k 2E0:c263 2E1:c6C 2E2:c73 2E3:c78 2E4:c295 2E5:k
  340:t300 342:k 343:c313 344:c308,301 345:c3B9 346:k 34F:d 350:k 370:a 374:c2B9 375:k 376:c377
  377:k 378:x 37A:c20,3B9 37B:k 37E:c3B 37F:c3F3 380:x 384:c20,301 385:c20,308,301 386:c3AC
  387:cB7 388:t3AD 38B:x 38C:c3CC 38D:x 38E:t3CD 390:k 391:t3B1 3A2:x 3A3:t3C3 3AC:k 3CF:c3D7
  3D0:c3B2 3D1:c3B8 3D2:c3C5 3D3:c3CD 3D4:c3CB 3D5:c3C6 3D6:c3C0 3D7:k 3D8:a 3F0:c3BA 3F1:c3C1
  3F2:c3C3 3F3:k 3F4:c3B8 3F5:c3B5 3F6:k 3F7:c3F8 3F8:k 3F9:c3C3 3FA:c3FB 3FB:k 3FD:t37B 400:t450
  410:t430 430:k 460:a 482:k 48A:a 4C0:c4CF 4C1:a 4CF:k 4D0:a 530:x 531:t561 557:x 559:k
  587:c565,582 588:k 58B:x 58D:k 590:x 591:k 5C8:x 5D0:k 5EB:x 5EF:k 5F5:x 606:k 61C:x 61D:k
  675:c627,674 676:c648,674 677:c6C7,674 678:c64A,674 679:k 6DD:x 6DE:k 70E:x 710:k 74B:x 74D:k
  7B2:x 7C0:k 7FB:x 7FD:k 82E:x 830:k 83F:x 840:k 85C:x 85E:k 85F:x 860:k 86B:x 870:k 890:x 897:k
  8E2:x 8E3:k 958:c915,93C 959:c916,93C 95A:c917,93C 95B:c91C,93C 95C:c921,93C 95D:c922,93C
  95E:c92B,93C 95F:c92F,93C 960:k 984:x 985:k 98D:x 98F:k 991:x 993:k 9A9:x 9AA:k 9B1:x 9B2:k
  9B3:x 9B6:k 9BA:x 9BC:k 9C5:x 9C7:k 9C9:x 9CB:k 9CF:x 9D7:k 9D8:x 9DC:c9A1,9BC 9DD:c9A2,9BC
  9DE:x 9DF:c9AF,9BC 9E0:k 9E4:x 9E6:k 9FF:x A01:k A04:x A05:k A0B:x A0F:k A11:x A13:k A29:x A2A:k
  A31:x A32:k A33:cA32,A3C A34:x A35:k A36:cA38,A3C A37:x A38:k A3A:x A3C:k A3D:x A3E:k A43:x
  A47:k A49:x A4B:k A4E:x A51:k A52:x A59:cA16,A3C A5A:cA17,A3C A5B:cA1C,A3C A5C:k A5D:x
  A5E:cA2B,A3C A5F:x A66:k A77:x A81:k A84:x A85:k A8E:x A8F:k A92:x A93:k AA9:x AAA:k AB1:x AB2:k
  AB4:x AB5:k ABA:x ABC:k AC6:x AC7:k ACA:x ACB:k ACE:x AD0:k AD1:x AE0:k AE4:x AE6:k AF2:x AF9:k
  B00:x B01:k B04:x B05:k B0D:x B0F:k B11:x B13:k B29:x B2A:k B31:x B32:k B34:x B35:k B3A:x B3C:k
  B45:x B47:k B49:x B4B:k B4E:x B55:k B58:x B5C:cB21,B3C B5D:cB22,B3C B5E:x B5F:k B64:x B66:k
  B78:x B82:k B84:x B85:k B8B:x B8E:k B91:x B92:k B96:x B99:k B9B:x B9C:k B9D:x B9E:k BA0:x BA3:k
  BA5:x BA8:k BAB:x BAE:k BBA:x BBE:k BC3:x BC6:k BC9:x BCA:k BCE:x BD0:k BD1:x BD7:k BD8:x BE6:k
  BFB:x C00:k C0D:x C0E:k C11:x C12:k C29:x C2A:k C3A:x C3C:k C45:x C46:k C49:x C4A:k C4E:x C55:k
  C57:x C58:k C5B:x C5C:k C5E:x C60:k C64:x C66:k C70:x C77:k C8D:x C8E:k C91:x C92:k CA9:x CAA:k
  CB4:x CB5:k CBA:x CBC:k CC5:x CC6:k CC9:x CCA:k CCE:x CD5:k CD7:x CDC:k CDF:x CE0:k CE4:x CE6:k
  CF0:x CF1:k CF4:x D00:k D0D:x D0E:k D11:x D12:k D45:x D46:k D49:x D4A:k D50:x D54:k D64:x D66:k
  D80:x D81:k D84:x D85:k D97:x D9A:k DB2:x DB3:k DBC:x DBD:k DBE:x DC0:k DC7:x DCA:k DCB:x DCF:k
  DD5:x DD6:k DD7:x DD8:k DE0:x DE6:k DF0:x DF2:k DF5:x E01:k E33:cE4D,E32 E34:k E3B:x E3F:k E5C:x
  E81:k E83:x E84:k E85:x E86:k E8B:x E8C:k EA4:x EA5:k EA6:x EA7:k EB3:cECD,EB2 EB4:k EBE:x EC0:k
  EC5:x EC6:k EC7:x EC8:k ECF:x ED0:k EDA:x EDC:cEAB,E99 EDD:cEAB,EA1 EDE:k EE0:x F00:k F0C:cF0B
  F0D:k F43:cF42,FB7 F44:k F48:x F49:k F4D:cF4C,FB7 F4E:k F52:cF51,FB7 F53:k F57:cF56,FB7 F58:k
  F5C:cF5B,FB7 F5D:k F69:cF40,FB5 F6A:k F6D:x F71:k F73:cF71,F72 F74:k F75:cF71,F74 F76:cFB2,F80
  F77:cFB2,F71,F80 F78:cFB3,F80 F79:cFB3,F71,F80 F7A:k F81:cF71,F80 F82:k F93:cF92,FB7 F94:k F98:x
  F99:k F9D:cF9C,FB7 F9E:k FA2:cFA1,FB7 FA3:k FA7:cFA6,FB7 FA8:k FAC:cFAB,FB7 FAD:k FB9:cF90,FB5
  FBA:k FBD:x FBE:k FCD:x FCE:k FDB:x 1000:k 10A0:t2D00 10C6:x 10C7:c2D27 10C8:x 10CD:c2D2D 10CE:x
  10D0:k 10FC:c10DC 10FD:k 115F:d 1161:k 1249:x 124A:k 124E:x 1250:k 1257:x 1258:k 1259:x 125A:k
  125E:x 1260:k 1289:x 128A:k 128E:x 1290:k 12B1:x 12B2:k 12B6:x 12B8:k 12BF:x 12C0:k 12C1:x
  12C2:k 12C6:x 12C8:k 12D7:x 12D8:k 1311:x 1312:k 1316:x 1318:k 135B:x 135D:k 137D:x 1380:k
  139A:x 13A0:k 13F6:x 13F8:t13F0 13FE:x 1400:k 1680:x 1681:k 169D:x 16A0:k 16F9:x 1700:k 1716:x
  171F:k 1737:x 1740:k 1754:x 1760:k 176D:x 176E:k 1771:x 1772:k 1774:x 1780:k 17B4:d 17B6:k
  17DE:x 17E0:k 17EA:x 17F0:k 17FA:x 1800:k 180B:d 1810:k 181A:x 1820:k 1879:x 1880:k 18AB:x
  18B0:k 18F6:x 1900:k 191F:x 1920:k 192C:x 1930:k 193C:x 1940:k 1941:x 1944:k 196E:x 1970:k
  1975:x 1980:k 19AC:x 19B0:k 19CA:x 19D0:k 19DB:x 19DE:k 1A1C:x 1A1E:k 1A5F:x 1A60:k 1A7D:x
  1A7F:k 1A8A:x 1A90:k 1A9A:x 1AA0:k 1AAE:x 1AB0:k 1ADE:x 1AE0:k 1AEC:x 1B00:k 1B4D:x 1B4E:k
  1BF4:x 1BFC:k 1C38:x 1C3B:k 1C4A:x 1C4D:k 1C80:c432 1C81:c434 1C82:c43E 1C83:t441 1C85:c442
  1C86:c44A 1C87:c463 1C88:cA64B 1C89:c1C8A 1C8A:k 1C8B:x 1C90:t10D0 1CBB:x 1CBD:t10FD 1CC0:k
  1CC8:x 1CD0:k 1CFB:x 1D00:k 1D2C:c61 1D2D:cE6 1D2E:c62 1D2F:k 1D30:t64 1D32:c1DD 1D33:t67 1D3B:k
  1D3C:c6F 1D3D:c223 1D3E:c70 1D3F:c72 1D40:t74 1D42:c77 1D43:c61 1D44:t250 1D46:c1D02 1D47:c62
  1D48:t64 1D4A:c259 1D4B:t25B 1D4D:c67 1D4E:k 1D4F:c6B 1D50:c6D 1D51:c14B 1D52:c6F 1D53:c254
  1D54:t1D16 1D56:c70 1D57:t74 1D59:c1D1D 1D5A:c26F 1D5B:c76 1D5C:c1D25 1D5D:t3B2 1D60:t3C6
  1D62:c69 1D63:c72 1D64:t75 1D66:t3B2 1D68:c3C1 1D69:t3C6 1D6B:k 1D78:c43D 1D79:k 1D9B:c252
  1D9C:c63 1D9D:c255 1D9E:cF0 1D9F:c25C 1DA0:c66 1DA1:c25F 1DA2:c261 1DA3:c265 1DA4:t268
  1DA7:c1D7B 1DA8:c29D 1DA9:c26D 1DAA:c1D85 1DAB:c29F 1DAC:c271 1DAD:c270 1DAE:t272 1DB2:c278
  1DB3:t282 1DB5:c1AB 1DB6:t289 1DB8:c1D1C 1DB9:t28B 1DBB:c7A 1DBC:t290 1DBF:c3B8 1DC0:k 1E00:a
  1E96:k 1E9A:c61,2BE 1E9B:c1E61 1E9C:k 1E9E:cDF 1E9F:k 1EA0:a 1F00:k 1F08:t1F00 1F10:k 1F16:x
  1F18:t1F10 1F1E:x 1F20:k 1F28:t1F20 1F30:k 1F38:t1F30 1F40:k 1F46:x 1F48:t1F40 1F4E:x 1F50:k
  1F58:x 1F59:c1F51 1F5A:x 1F5B:c1F53 1F5C:x 1F5D:c1F55 1F5E:x 1F5F:c1F57 1F60:k 1F68:t1F60 1F70:k
  1F71:c3AC 1F72:k 1F73:c3AD 1F74:k 1F75:c3AE 1F76:k 1F77:c3AF 1F78:k 1F79:c3CC 1F7A:k 1F7B:c3CD
  1F7C:k 1F7D:c3CE 1F7E:x 1F80:c1F00,3B9 1F81:c1F01,3B9 1F82:c1F02,3B9 1F83:c1F03,3B9
  1F84:c1F04,3B9 1F85:c1F05,3B9 1F86:c1F06,3B9 1F87:c1F07,3B9 1F88:c1F00,3B9 1F89:c1F01,3B9
  1F8A:c1F02,3B9 1F8B:c1F03,3B9 1F8C:c1F04,3B9 1F8D:c1F05,3B9 1F8E:c1F06,3B9 1F8F:c1F07,3B9
  1F90:c1F20,3B9 1F91:c1F21,3B9 1F92:c1F22,3B9 1F93:c1F23,3B9 1F94:c1F24,3B9 1F95:c1F25,3B9
  1F96:c1F26,3B9 1F97:c1F27,3B9 1F98:c1F20,3B9 1F99:c1F21,3B9 1F9A:c1F22,3B9 1F9B:c1F23,3B9
  1F9C:c1F24,3B9 1F9D:c1F25,3B9 1F9E:c1F26,3B9 1F9F:c1F27,3B9 1FA0:c1F60,3B9 1FA1:c1F61,3B9
  1FA2:c1F62,3B9 1FA3:c1F63,3B9 1FA4:c1F64,3B9 1FA5:c1F65,3B9 1FA6:c1F66,3B9 1FA7:c1F67,3B9
  1FA8:c1F60,3B9 1FA9:c1F61,3B9 1FAA:c1F62,3B9 1FAB:c1F63,3B9 1FAC:c1F64,3B9 1FAD:c1F65,3B9
  1FAE:c1F66,3B9 1FAF:c1F67,3B9 1FB0:k 1FB2:c1F70,3B9 1FB3:c3B1,3B9 1FB4:c3AC,3B9 1FB5:x 1FB6:k
  1FB7:c1FB6,3B9 1FB8:t1FB0 1FBA:c1F70 1FBB:c3AC 1FBC:c3B1,3B9 1FBD:c20,313 1FBE:c3B9 1FBF:c20,313
  1FC0:c20,342 1FC1:c20,308,342 1FC2:c1F74,3B9 1FC3:c3B7,3B9 1FC4:c3AE,3B9 1FC5:x 1FC6:k
  1FC7:c1FC6,3B9 1FC8:c1F72 1FC9:c3AD 1FCA:c1F74 1FCB:c3AE 1FCC:c3B7,3B9 1FCD:c20,313,300
  1FCE:c20,313,301 1FCF:c20,313,342 1FD0:k 1FD3:c390 1FD4:x 1FD6:k 1FD8:t1FD0 1FDA:c1F76 1FDB:c3AF
  1FDC:x 1FDD:c20,314,300 1FDE:c20,314,301 1FDF:c20,314,342 1FE0:k 1FE3:c3B0 1FE4:k 1FE8:t1FE0
  1FEA:c1F7A 1FEB:c3CD 1FEC:c1FE5 1FED:c20,308,300 1FEE:c20,308,301 1FEF:c60 1FF0:x 1FF2:c1F7C,3B9
  1FF3:c3C9,3B9 1FF4:c3CE,3B9 1FF5:x 1FF6:k 1FF7:c1FF6,3B9 1FF8:c1F78 1FF9:c3CC 1FFA:c1F7C
  1FFB:c3CE 1FFC:c3C9,3B9 1FFD:c20,301 1FFE:c20,314 1FFF:x 2000:c20 200B:d 200C:k 200E:x 2010:k
  2011:c2010 2012:k 2017:c20,333 2018:k 2024:x 2027:k 2028:x 202F:c20 2030:k 2033:c2032,2032
  2034:c2032,2032,2032 2035:k 2036:c2035,2035 2037:c2035,2035,2035 2038:k 203C:c21,21 203D:k
  203E:c20,305 203F:k 2047:c3F,3F 2048:c3F,21 2049:c21,3F 204A:k 2057:c2032,2032,2032,2032 2058:k
  205F:c20 2060:d 2065:x 206A:d 2070:c30 2071:c69 2072:x 2074:t34 207A:c2B 207B:c2212 207C:c3D
  207D:t28 207F:c6E 2080:t30 208A:c2B 208B:c2212 208C:c3D 208D:t28 208F:x 2090:c61 2091:c65
  2092:c6F 2093:c78 2094:c259 2095:c68 2096:t6B 209A:c70 209B:t73 209D:x 20A0:k 20A8:c72,73 20A9:k
  20C2:x 20D0:k 20F1:x 2100:c61,2F,63 2101:c61,2F,73 2102:c63 2103:cB0,63 2104:k 2105:c63,2F,6F
  2106:c63,2F,75 2107:c25B 2108:k 2109:cB0,66 210A:t67 210C:c68 210F:c127 2110:c69 2112:c6C 2114:k
  2115:c6E 2116:c6E,6F 2117:k 2119:t70 211C:c72 211E:k 2120:c73,6D 2121:c74,65,6C 2122:c74,6D
  2123:k 2124:c7A 2125:k 2126:c3C9 2127:k 2128:c7A 2129:k 212A:c6B 212B:cE5 212C:t62 212E:k
  212F:c65 2131:c66 2132:c214E 2133:c6D 2134:c6F 2135:t5D0 2139:c69 213A:k 213B:c66,61,78
  213C:c3C0 213D:c3B3 213F:c3C0 2140:c2211 2141:k 2145:c64 2147:c65 2148:t69 214A:k
  2150:c31,2044,37 2151:c31,2044,39 2152:c31,2044,31,30 2153:c31,2044,33 2154:c32,2044,33
  2155:c31,2044,35 2156:c32,2044,35 2157:c33,2044,35 2158:c34,2044,35 2159:c31,2044,36
  215A:c35,2044,36 215B:c31,2044,38 215C:c33,2044,38 215D:c35,2044,38 215E:c37,2044,38
  215F:c31,2044 2160:c69 2161:c69,69 2162:c69,69,69 2163:c69,76 2164:c76 2165:c76,69
  2166:c76,69,69 2167:c76,69,69,69 2168:c69,78 2169:c78 216A:c78,69 216B:c78,69,69 216C:c6C
  216D:t63 216F:c6D 2170:c69 2171:c69,69 2172:c69,69,69 2173:c69,76 2174:c76 2175:c76,69
  2176:c76,69,69 2177:c76,69,69,69 2178:c69,78 2179:c78 217A:c78,69 217B:c78,69,69 217C:c6C
  217D:t63 217F:c6D 2180:k 2183:c2184 2184:k 2189:c30,2044,33 218A:k 218C:x 2190:k 222C:c222B,222B
  222D:c222B,222B,222B 222E:k 222F:c222E,222E 2230:c222E,222E,222E 2231:k 2329:t3008 232B:k 242A:x
  2440:k 244B:x 2460:t31 2469:c31,30 246A:c31,31 246B:c31,32 246C:c31,33 246D:c31,34 246E:c31,35
  246F:c31,36 2470:c31,37 2471:c31,38 2472:c31,39 2473:c32,30 2474:c28,31,29 2475:c28,32,29
  2476:c28,33,29 2477:c28,34,29 2478:c28,35,29 2479:c28,36,29 247A:c28,37,29 247B:c28,38,29
  247C:c28,39,29 247D:c28,31,30,29 247E:c28,31,31,29 247F:c28,31,32,29 2480:c28,31,33,29
  2481:c28,31,34,29 2482:c28,31,35,29 2483:c28,31,36,29 2484:c28,31,37,29 2485:c28,31,38,29
  2486:c28,31,39,29 2487:c28,32,30,29 2488:x 249C:c28,61,29 249D:c28,62,29 249E:c28,63,29
  249F:c28,64,29 24A0:c28,65,29 24A1:c28,66,29 24A2:c28,67,29 24A3:c28,68,29 24A4:c28,69,29
  24A5:c28,6A,29 24A6:c28,6B,29 24A7:c28,6C,29 24A8:c28,6D,29 24A9:c28,6E,29 24AA:c28,6F,29
  24AB:c28,70,29 24AC:c28,71,29 24AD:c28,72,29 24AE:c28,73,29 24AF:c28,74,29 24B0:c28,75,29
  24B1:c28,76,29 24B2:c28,77,29 24B3:c28,78,29 24B4:c28,79,29 24B5:c28,7A,29 24B6:t61 24D0:t61
  24EA:c30 24EB:k 2A0C:c222B,222B,222B,222B 2A0D:k 2A74:c3A,3A,3D 2A75:c3D,3D 2A76:c3D,3D,3D
  2A77:k 2ADC:c2ADD,338 2ADD:k 2B74:x 2B76:k 2C00:t2C30 2C30:k 2C60:c2C61 2C61:k 2C62:c26B
  2C63:c1D7D 2C64:c27D 2C65:k 2C67:a 2C6D:c251 2C6E:c271 2C6F:c250 2C70:c252 2C71:k 2C72:c2C73
  2C73:k 2C75:c2C76 2C76:k 2C7C:c6A 2C7D:c76 2C7E:t23F 2C80:a 2CE4:k 2CEB:a 2CEF:k 2CF2:c2CF3
  2CF3:k 2CF4:x 2CF9:k 2D26:x 2D27:k 2D28:x 2D2D:k 2D2E:x 2D30:k 2D68:x 2D6F:c2D61 2D70:k 2D71:x
  2D7F:k 2D97:x 2DA0:k 2DA7:x 2DA8:k 2DAF:x 2DB0:k 2DB7:x 2DB8:k 2DBF:x 2DC0:k 2DC7:x 2DC8:k
  2DCF:x 2DD0:k 2DD7:x 2DD8:k 2DDF:x 2DE0:k 2E5E:x 2E80:k 2E9A:x 2E9B:k 2E9F:c6BCD 2EA0:k
  2EF3:c9F9F 2EF4:x 2F00:c4E00 2F01:c4E28 2F02:c4E36 2F03:c4E3F 2F04:c4E59 2F05:c4E85 2F06:c4E8C
  2F07:c4EA0 2F08:c4EBA 2F09:c513F 2F0A:c5165 2F0B:c516B 2F0C:c5182 2F0D:c5196 2F0E:c51AB
  2F0F:c51E0 2F10:c51F5 2F11:c5200 2F12:c529B 2F13:c52F9 2F14:c5315 2F15:c531A 2F16:c5338
  2F17:c5341 2F18:c535C 2F19:c5369 2F1A:c5382 2F1B:c53B6 2F1C:c53C8 2F1D:c53E3 2F1E:c56D7
  2F1F:c571F 2F20:c58EB 2F21:c5902 2F22:c590A 2F23:c5915 2F24:c5927 2F25:c5973 2F26:c5B50
  2F27:c5B80 2F28:c5BF8 2F29:c5C0F 2F2A:c5C22 2F2B:c5C38 2F2C:c5C6E 2F2D:c5C71 2F2E:c5DDB
  2F2F:c5DE5 2F30:c5DF1 2F31:c5DFE 2F32:c5E72 2F33:c5E7A 2F34:c5E7F 2F35:c5EF4 2F36:c5EFE
  2F37:c5F0B 2F38:c5F13 2F39:c5F50 2F3A:c5F61 2F3B:c5F73 2F3C:c5FC3 2F3D:c6208 2F3E:c6236
  2F3F:c624B 2F40:c652F 2F41:c6534 2F42:c6587 2F43:c6597 2F44:c65A4 2F45:c65B9 2F46:c65E0
  2F47:c65E5 2F48:c66F0 2F49:c6708 2F4A:c6728 2F4B:c6B20 2F4C:c6B62 2F4D:c6B79 2F4E:c6BB3
  2F4F:c6BCB 2F50:c6BD4 2F51:c6BDB 2F52:c6C0F 2F53:c6C14 2F54:c6C34 2F55:c706B 2F56:c722A
  2F57:c7236 2F58:c723B 2F59:c723F 2F5A:c7247 2F5B:c7259 2F5C:c725B 2F5D:c72AC 2F5E:c7384
  2F5F:c7389 2F60:c74DC 2F61:c74E6 2F62:c7518 2F63:c751F 2F64:c7528 2F65:c7530 2F66:c758B
  2F67:c7592 2F68:c7676 2F69:c767D 2F6A:c76AE 2F6B:c76BF 2F6C:c76EE 2F6D:c77DB 2F6E:c77E2
  2F6F:c77F3 2F70:c793A 2F71:c79B8 2F72:c79BE 2F73:c7A74 2F74:c7ACB 2F75:c7AF9 2F76:c7C73
  2F77:c7CF8 2F78:c7F36 2F79:c7F51 2F7A:c7F8A 2F7B:c7FBD 2F7C:c8001 2F7D:c800C 2F7E:c8012
  2F7F:c8033 2F80:c807F 2F81:c8089 2F82:c81E3 2F83:c81EA 2F84:c81F3 2F85:c81FC 2F86:c820C
  2F87:c821B 2F88:c821F 2F89:c826E 2F8A:c8272 2F8B:c8278 2F8C:c864D 2F8D:c866B 2F8E:c8840
  2F8F:c884C 2F90:c8863 2F91:c897E 2F92:c898B 2F93:c89D2 2F94:c8A00 2F95:c8C37 2F96:c8C46
  2F97:c8C55 2F98:c8C78 2F99:c8C9D 2F9A:c8D64 2F9B:c8D70 2F9C:c8DB3 2F9D:c8EAB 2F9E:c8ECA
  2F9F:c8F9B 2FA0:c8FB0 2FA1:c8FB5 2FA2:c9091 2FA3:c9149 2FA4:c91C6 2FA5:c91CC 2FA6:c91D1
  2FA7:c9577 2FA8:c9580 2FA9:c961C 2FAA:c96B6 2FAB:c96B9 2FAC:c96E8 2FAD:c9751 2FAE:c975E
  2FAF:c9762 2FB0:c9769 2FB1:c97CB 2FB2:c97ED 2FB3:c97F3 2FB4:c9801 2FB5:c98A8 2FB6:c98DB
  2FB7:c98DF 2FB8:c9996 2FB9:c9999 2FBA:c99AC 2FBB:c9AA8 2FBC:c9AD8 2FBD:c9ADF 2FBE:c9B25
  2FBF:c9B2F 2FC0:c9B32 2FC1:c9B3C 2FC2:c9B5A 2FC3:c9CE5 2FC4:c9E75 2FC5:c9E7F 2FC6:c9EA5
  2FC7:c9EBB 2FC8:c9EC3 2FC9:c9ECD 2FCA:c9ED1 2FCB:c9EF9 2FCC:c9EFD 2FCD:c9F0E 2FCE:c9F13
  2FCF:c9F20 2FD0:c9F3B 2FD1:c9F4A 2FD2:c9F52 2FD3:c9F8D 2FD4:c9F9C 2FD5:c9FA0 2FD6:x 3000:c20
  3001:k 3002:c2E 3003:k 3036:c3012 3037:k 3038:c5341 3039:t5344 303B:k 3040:x 3041:k 3097:x
  3099:k 309B:c20,3099 309C:c20,309A 309D:k 309F:c3088,308A 30A0:k 30FF:c30B3,30C8 3100:x 3105:k
  3130:x 3131:t1100 3133:c11AA 3134:c1102 3135:t11AC 3137:t1103 313A:t11B0 3140:c111A 3141:t1106
  3144:c1121 3145:t1109 314F:t1161 3164:d 3165:t1114 3167:t11C7 3169:c11CC 316A:c11CE 316B:c11D3
  316C:c11D7 316D:c11D9 316E:c111C 316F:c11DD 3170:c11DF 3171:t111D 3173:c1120 3174:t1122
  3176:c1127 3177:c1129 3178:t112B 317D:c1132 317E:c1136 317F:c1140 3180:c1147 3181:c114C
  3182:t11F1 3184:t1157 3187:t1184 3189:c1188 318A:t1191 318C:c1194 318D:c119E 318E:c11A1 318F:x
  3190:k 3192:c4E00 3193:c4E8C 3194:c4E09 3195:c56DB 3196:c4E0A 3197:c4E2D 3198:c4E0B 3199:c7532
  319A:c4E59 319B:c4E19 319C:c4E01 319D:c5929 319E:c5730 319F:c4EBA 31A0:k 31E6:x 31F0:k
  3200:c28,1100,29 3201:c28,1102,29 3202:c28,1103,29 3203:c28,1105,29 3204:c28,1106,29
  3205:c28,1107,29 3206:c28,1109,29 3207:c28,110B,29 3208:c28,110C,29 3209:c28,110E,29
  320A:c28,110F,29 320B:c28,1110,29 320C:c28,1111,29 320D:c28,1112,29 320E:c28,AC00,29
  320F:c28,B098,29 3210:c28,B2E4,29 3211:c28,B77C,29 3212:c28,B9C8,29 3213:c28,BC14,29
  3214:c28,C0AC,29 3215:c28,C544,29 3216:c28,C790,29 3217:c28,CC28,29 3218:c28,CE74,29
  3219:c28,D0C0,29 321A:c28,D30C,29 321B:c28,D558,29 321C:c28,C8FC,29 321D:c28,C624,C804,29
  321E:c28,C624,D6C4,29 321F:x 3220:c28,4E00,29 3221:c28,4E8C,29 3222:c28,4E09,29 3223:c28,56DB,29
  3224:c28,4E94,29 3225:c28,516D,29 3226:c28,4E03,29 3227:c28,516B,29 3228:c28,4E5D,29
  3229:c28,5341,29 322A:c28,6708,29 322B:c28,706B,29 322C:c28,6C34,29 322D:c28,6728,29
  322E:c28,91D1,29 322F:c28,571F,29 3230:c28,65E5,29 3231:c28,682A,29 3232:c28,6709,29
  3233:c28,793E,29 3234:c28,540D,29 3235:c28,7279,29 3236:c28,8CA1,29 3237:c28,795D,29
  3238:c28,52B4,29 3239:c28,4EE3,29 323A:c28,547C,29 323B:c28,5B66,29 323C:c28,76E3,29
  323D:c28,4F01,29 323E:c28,8CC7,29 323F:c28,5354,29 3240:c28,796D,29 3241:c28,4F11,29
  3242:c28,81EA,29 3243:c28,81F3,29 3244:c554F 3245:c5E7C 3246:c6587 3247:c7B8F 3248:k
  3250:c70,74,65 3251:c32,31 3252:c32,32 3253:c32,33 3254:c32,34 3255:c32,35 3256:c32,36
  3257:c32,37 3258:c32,38 3259:c32,39 325A:c33,30 325B:c33,31 325C:c33,32 325D:c33,33 325E:c33,34
  325F:c33,35 3260:c1100 3261:t1102 3263:t1105 3266:c1109 3267:t110B 3269:t110E 326E:cAC00
  326F:cB098 3270:cB2E4 3271:cB77C 3272:cB9C8 3273:cBC14 3274:cC0AC 3275:cC544 3276:cC790
  3277:cCC28 3278:cCE74 3279:cD0C0 327A:cD30C 327B:cD558 327C:cCC38,ACE0 327D:cC8FC,C758
  327E:cC6B0 327F:k 3280:c4E00 3281:c4E8C 3282:c4E09 3283:c56DB 3284:c4E94 3285:c516D 3286:c4E03
  3287:c516B 3288:c4E5D 3289:c5341 328A:c6708 328B:c706B 328C:c6C34 328D:c6728 328E:c91D1
  328F:c571F 3290:c65E5 3291:c682A 3292:c6709 3293:c793E 3294:c540D 3295:c7279 3296:c8CA1
  3297:c795D 3298:c52B4 3299:c79D8 329A:c7537 329B:c5973 329C:c9069 329D:c512A 329E:c5370
  329F:c6CE8 32A0:c9805 32A1:c4F11 32A2:c5199 32A3:c6B63 32A4:c4E0A 32A5:c4E2D 32A6:c4E0B
  32A7:c5DE6 32A8:c53F3 32A9:c533B 32AA:c5B97 32AB:c5B66 32AC:c76E3 32AD:c4F01 32AE:c8CC7
  32AF:c5354 32B0:c591C 32B1:c33,36 32B2:c33,37 32B3:c33,38 32B4:c33,39 32B5:c34,30 32B6:c34,31
  32B7:c34,32 32B8:c34,33 32B9:c34,34 32BA:c34,35 32BB:c34,36 32BC:c34,37 32BD:c34,38 32BE:c34,39
  32BF:c35,30 32C0:c31,6708 32C1:c32,6708 32C2:c33,6708 32C3:c34,6708 32C4:c35,6708 32C5:c36,6708
  32C6:c37,6708 32C7:c38,6708 32C8:c39,6708 32C9:c31,30,6708 32CA:c31,31,6708 32CB:c31,32,6708
  32CC:c68,67 32CD:c65,72,67 32CE:c65,76 32CF:c6C,74,64 32D0:c30A2 32D1:c30A4 32D2:c30A6
  32D3:c30A8 32D4:t30AA 32D6:c30AD 32D7:c30AF 32D8:c30B1 32D9:c30B3 32DA:c30B5 32DB:c30B7
  32DC:c30B9 32DD:c30BB 32DE:c30BD 32DF:c30BF 32E0:c30C1 32E1:c30C4 32E2:c30C6 32E3:c30C8
  32E4:t30CA 32EA:c30D2 32EB:c30D5 32EC:c30D8 32ED:c30DB 32EE:t30DE 32F3:c30E4 32F4:c30E6
  32F5:t30E8 32FB:t30EF 32FF:c4EE4,548C 3300:c30A2,30D1,30FC,30C8 3301:c30A2,30EB,30D5,30A1
  3302:c30A2,30F3,30DA,30A2 3303:c30A2,30FC,30EB 3304:c30A4,30CB,30F3,30B0 3305:c30A4,30F3,30C1
  3306:c30A6,30A9,30F3 3307:c30A8,30B9,30AF,30FC,30C9 3308:c30A8,30FC,30AB,30FC
  3309:c30AA,30F3,30B9 330A:c30AA,30FC,30E0 330B:c30AB,30A4,30EA 330C:c30AB,30E9,30C3,30C8
  330D:c30AB,30ED,30EA,30FC 330E:c30AC,30ED,30F3 330F:c30AC,30F3,30DE 3310:c30AE,30AC
  3311:c30AE,30CB,30FC 3312:c30AD,30E5,30EA,30FC 3313:c30AE,30EB,30C0,30FC 3314:c30AD,30ED
  3315:c30AD,30ED,30B0,30E9,30E0 3316:c30AD,30ED,30E1,30FC,30C8,30EB
  3317:c30AD,30ED,30EF,30C3,30C8 3318:c30B0,30E9,30E0 3319:c30B0,30E9,30E0,30C8,30F3
  331A:c30AF,30EB,30BC,30A4,30ED 331B:c30AF,30ED,30FC,30CD 331C:c30B1,30FC,30B9
  331D:c30B3,30EB,30CA 331E:c30B3,30FC,30DD 331F:c30B5,30A4,30AF,30EB
  3320:c30B5,30F3,30C1,30FC,30E0 3321:c30B7,30EA,30F3,30B0 3322:c30BB,30F3,30C1
  3323:c30BB,30F3,30C8 3324:c30C0,30FC,30B9 3325:c30C7,30B7 3326:c30C9,30EB 3327:c30C8,30F3
  3328:c30CA,30CE 3329:c30CE,30C3,30C8 332A:c30CF,30A4,30C4 332B:c30D1,30FC,30BB,30F3,30C8
  332C:c30D1,30FC,30C4 332D:c30D0,30FC,30EC,30EB 332E:c30D4,30A2,30B9,30C8,30EB
  332F:c30D4,30AF,30EB 3330:c30D4,30B3 3331:c30D3,30EB 3332:c30D5,30A1,30E9,30C3,30C9
  3333:c30D5,30A3,30FC,30C8 3334:c30D6,30C3,30B7,30A7,30EB 3335:c30D5,30E9,30F3
  3336:c30D8,30AF,30BF,30FC,30EB 3337:c30DA,30BD 3338:c30DA,30CB,30D2 3339:c30D8,30EB,30C4
  333A:c30DA,30F3,30B9 333B:c30DA,30FC,30B8 333C:c30D9,30FC,30BF 333D:c30DD,30A4,30F3,30C8
  333E:c30DC,30EB,30C8 333F:c30DB,30F3 3340:c30DD,30F3,30C9 3341:c30DB,30FC,30EB
  3342:c30DB,30FC,30F3 3343:c30DE,30A4,30AF,30ED 3344:c30DE,30A4,30EB 3345:c30DE,30C3,30CF
  3346:c30DE,30EB,30AF 3347:c30DE,30F3,30B7,30E7,30F3 3348:c30DF,30AF,30ED,30F3 3349:c30DF,30EA
  334A:c30DF,30EA,30D0,30FC,30EB 334B:c30E1,30AC 334C:c30E1,30AC,30C8,30F3
  334D:c30E1,30FC,30C8,30EB 334E:c30E4,30FC,30C9 334F:c30E4,30FC,30EB 3350:c30E6,30A2,30F3
  3351:c30EA,30C3,30C8,30EB 3352:c30EA,30E9 3353:c30EB,30D4,30FC 3354:c30EB,30FC,30D6,30EB
  3355:c30EC,30E0 3356:c30EC,30F3,30C8,30B2,30F3 3357:c30EF,30C3,30C8 3358:c30,70B9 3359:c31,70B9
  335A:c32,70B9 335B:c33,70B9 335C:c34,70B9 335D:c35,70B9 335E:c36,70B9 335F:c37,70B9
  3360:c38,70B9 3361:c39,70B9 3362:c31,30,70B9 3363:c31,31,70B9 3364:c31,32,70B9 3365:c31,33,70B9
  3366:c31,34,70B9 3367:c31,35,70B9 3368:c31,36,70B9 3369:c31,37,70B9 336A:c31,38,70B9
  336B:c31,39,70B9 336C:c32,30,70B9 336D:c32,31,70B9 336E:c32,32,70B9 336F:c32,33,70B9
  3370:c32,34,70B9 3371:c68,70,61 3372:c64,61 3373:c61,75 3374:c62,61,72 3375:c6F,76 3376:c70,63
  3377:c64,6D 3378:c64,6D,32 3379:c64,6D,33 337A:c69,75 337B:c5E73,6210 337C:c662D,548C
  337D:c5927,6B63 337E:c660E,6CBB 337F:c682A,5F0F,4F1A,793E 3380:c70,61 3381:c6E,61 3382:c3BC,61
  3383:c6D,61 3384:c6B,61 3385:c6B,62 3386:c6D,62 3387:c67,62 3388:c63,61,6C 3389:c6B,63,61,6C
  338A:c70,66 338B:c6E,66 338C:c3BC,66 338D:c3BC,67 338E:c6D,67 338F:c6B,67 3390:c68,7A
  3391:c6B,68,7A 3392:c6D,68,7A 3393:c67,68,7A 3394:c74,68,7A 3395:c3BC,6C 3396:c6D,6C 3397:c64,6C
  3398:c6B,6C 3399:c66,6D 339A:c6E,6D 339B:c3BC,6D 339C:c6D,6D 339D:c63,6D 339E:c6B,6D
  339F:c6D,6D,32 33A0:c63,6D,32 33A1:c6D,32 33A2:c6B,6D,32 33A3:c6D,6D,33 33A4:c63,6D,33
  33A5:c6D,33 33A6:c6B,6D,33 33A7:c6D,2215,73 33A8:c6D,2215,73,32 33A9:c70,61 33AA:c6B,70,61
  33AB:c6D,70,61 33AC:c67,70,61 33AD:c72,61,64 33AE:c72,61,64,2215,73 33AF:c72,61,64,2215,73,32
  33B0:c70,73 33B1:c6E,73 33B2:c3BC,73 33B3:c6D,73 33B4:c70,76 33B5:c6E,76 33B6:c3BC,76
  33B7:c6D,76 33B8:c6B,76 33B9:c6D,76 33BA:c70,77 33BB:c6E,77 33BC:c3BC,77 33BD:c6D,77 33BE:c6B,77
  33BF:c6D,77 33C0:c6B,3C9 33C1:c6D,3C9 33C2:x 33C3:c62,71 33C4:c63,63 33C5:c63,64
  33C6:c63,2215,6B,67 33C7:x 33C8:c64,62 33C9:c67,79 33CA:c68,61 33CB:c68,70 33CC:c69,6E
  33CD:c6B,6B 33CE:c6B,6D 33CF:c6B,74 33D0:c6C,6D 33D1:c6C,6E 33D2:c6C,6F,67 33D3:c6C,78
  33D4:c6D,62 33D5:c6D,69,6C 33D6:c6D,6F,6C 33D7:c70,68 33D8:x 33D9:c70,70,6D 33DA:c70,72
  33DB:c73,72 33DC:c73,76 33DD:c77,62 33DE:c76,2215,6D 33DF:c61,2215,6D 33E0:c31,65E5
  33E1:c32,65E5 33E2:c33,65E5 33E3:c34,65E5 33E4:c35,65E5 33E5:c36,65E5 33E6:c37,65E5
  33E7:c38,65E5 33E8:c39,65E5 33E9:c31,30,65E5 33EA:c31,31,65E5 33EB:c31,32,65E5 33EC:c31,33,65E5
  33ED:c31,34,65E5 33EE:c31,35,65E5 33EF:c31,36,65E5 33F0:c31,37,65E5 33F1:c31,38,65E5
  33F2:c31,39,65E5 33F3:c32,30,65E5 33F4:c32,31,65E5 33F5:c32,32,65E5 33F6:c32,33,65E5
  33F7:c32,34,65E5 33F8:c32,35,65E5 33F9:c32,36,65E5 33FA:c32,37,65E5 33FB:c32,38,65E5
  33FC:c32,39,65E5 33FD:c33,30,65E5 33FE:c33,31,65E5 33FF:c67,61,6C 3400:k A48D:x A490:k A4C7:x
  A4D0:k A62C:x A640:a A66E:k A680:a A69C:c44A A69D:c44C A69E:k A6F8:x A700:k A722:a A730:k A732:a
  A770:cA76F A771:k A779:a A77D:c1D79 A77E:a A788:k A78B:cA78C A78C:k A78D:c265 A78E:k A790:a
  A794:k A796:a A7AA:c266 A7AB:c25C A7AC:c261 A7AD:c26C A7AE:c26A A7AF:k A7B0:c29E A7B1:c287
  A7B2:c29D A7B3:cAB53 A7B4:a A7C4:cA794 A7C5:c282 A7C6:c1D8E A7C7:a A7CB:c264 A7CC:a A7DC:c19B
  A7DD:x A7F1:c73 A7F2:c63 A7F3:c66 A7F4:c71 A7F5:cA7F6 A7F6:k A7F8:c127 A7F9:c153 A7FA:k A82D:x
  A830:k A83A:x A840:k A878:x A880:k A8C6:x A8CE:k A8DA:x A8E0:k A954:x A95F:k A97D:x A980:k
  A9CE:x A9CF:k A9DA:x A9DE:k A9FF:x AA00:k AA37:x AA40:k AA4E:x AA50:k AA5A:x AA5C:k AAC3:x
  AADB:k AAF7:x AB01:k AB07:x AB09:k AB0F:x AB11:k AB17:x AB20:k AB27:x AB28:k AB2F:x AB30:k
  AB5C:cA727 AB5D:cAB37 AB5E:c26B AB5F:cAB52 AB60:k AB69:c28D AB6A:k AB6C:x AB70:t13A0 ABC0:k
  ABEE:x ABF0:k ABFA:x AC00:k D7A4:x D7B0:k D7C7:x D7CB:k D7FC:x F900:c8C48 F901:c66F4 F902:c8ECA
  F903:c8CC8 F904:c6ED1 F905:c4E32 F906:c53E5 F907:c9F9C F909:c5951 F90A:c91D1 F90B:c5587
  F90C:c5948 F90D:c61F6 F90E:c7669 F90F:c7F85 F910:c863F F911:c87BA F912:c88F8 F913:c908F
  F914:c6A02 F915:c6D1B F916:c70D9 F917:c73DE F918:c843D F919:c916A F91A:c99F1 F91B:c4E82
  F91C:c5375 F91D:c6B04 F91E:c721B F91F:c862D F920:c9E1E F921:c5D50 F922:c6FEB F923:c85CD
  F924:c8964 F925:c62C9 F926:c81D8 F927:c881F F928:c5ECA F929:c6717 F92A:c6D6A F92B:c72FC
  F92C:c90CE F92D:c4F86 F92E:c51B7 F92F:c52DE F930:c64C4 F931:c6AD3 F932:c7210 F933:c76E7
  F934:c8001 F935:c8606 F936:c865C F937:c8DEF F938:c9732 F939:c9B6F F93A:c9DFA F93B:c788C
  F93C:c797F F93D:c7DA0 F93E:c83C9 F93F:c9304 F940:c9E7F F941:c8AD6 F942:c58DF F943:c5F04
  F944:c7C60 F945:c807E F946:c7262 F947:c78CA F948:c8CC2 F949:c96F7 F94A:c58D8 F94B:c5C62
  F94C:c6A13 F94D:c6DDA F94E:c6F0F F94F:c7D2F F950:c7E37 F951:c964B F952:c52D2 F953:c808B
  F954:c51DC F955:c51CC F956:c7A1C F957:c7DBE F958:c83F1 F959:c9675 F95A:c8B80 F95B:c62CF
  F95C:c6A02 F95D:c8AFE F95E:c4E39 F95F:c5BE7 F960:c6012 F961:c7387 F962:c7570 F963:c5317
  F964:c78FB F965:c4FBF F966:c5FA9 F967:c4E0D F968:c6CCC F969:c6578 F96A:c7D22 F96B:c53C3
  F96C:c585E F96D:c7701 F96E:c8449 F96F:c8AAA F970:c6BBA F971:c8FB0 F972:c6C88 F973:c62FE
  F974:c82E5 F975:c63A0 F976:c7565 F977:c4EAE F978:c5169 F979:c51C9 F97A:c6881 F97B:c7CE7
  F97C:c826F F97D:c8AD2 F97E:c91CF F97F:c52F5 F980:c5442 F981:c5973 F982:c5EEC F983:c65C5
  F984:c6FFE F985:c792A F986:c95AD F987:c9A6A F988:c9E97 F989:c9ECE F98A:c529B F98B:c66C6
  F98C:c6B77 F98D:c8F62 F98E:c5E74 F98F:c6190 F990:c6200 F991:c649A F992:c6F23 F993:c7149
  F994:c7489 F995:c79CA F996:c7DF4 F997:c806F F998:c8F26 F999:c84EE F99A:c9023 F99B:c934A
  F99C:c5217 F99D:c52A3 F99E:c54BD F99F:c70C8 F9A0:c88C2 F9A1:c8AAA F9A2:c5EC9 F9A3:c5FF5
  F9A4:c637B F9A5:c6BAE F9A6:c7C3E F9A7:c7375 F9A8:c4EE4 F9A9:c56F9 F9AA:c5BE7 F9AB:c5DBA
  F9AC:c601C F9AD:c73B2 F9AE:c7469 F9AF:c7F9A F9B0:c8046 F9B1:c9234 F9B2:c96F6 F9B3:c9748
  F9B4:c9818 F9B5:c4F8B F9B6:c79AE F9B7:c91B4 F9B8:c96B8 F9B9:c60E1 F9BA:c4E86 F9BB:c50DA
  F9BC:c5BEE F9BD:c5C3F F9BE:c6599 F9BF:c6A02 F9C0:c71CE F9C1:c7642 F9C2:c84FC F9C3:c907C
  F9C4:c9F8D F9C5:c6688 F9C6:c962E F9C7:c5289 F9C8:c677B F9C9:c67F3 F9CA:c6D41 F9CB:c6E9C
  F9CC:c7409 F9CD:c7559 F9CE:c786B F9CF:c7D10 F9D0:c985E F9D1:c516D F9D2:c622E F9D3:c9678
  F9D4:c502B F9D5:c5D19 F9D6:c6DEA F9D7:c8F2A F9D8:c5F8B F9D9:c6144 F9DA:c6817 F9DB:c7387
  F9DC:c9686 F9DD:c5229 F9DE:c540F F9DF:c5C65 F9E0:c6613 F9E1:c674E F9E2:c68A8 F9E3:c6CE5
  F9E4:c7406 F9E5:c75E2 F9E6:c7F79 F9E7:c88CF F9E8:c88E1 F9E9:c91CC F9EA:c96E2 F9EB:c533F
  F9EC:c6EBA F9ED:c541D F9EE:c71D0 F9EF:c7498 F9F0:c85FA F9F1:c96A3 F9F2:c9C57 F9F3:c9E9F
  F9F4:c6797 F9F5:c6DCB F9F6:c81E8 F9F7:c7ACB F9F8:c7B20 F9F9:c7C92 F9FA:c72C0 F9FB:c7099
  F9FC:c8B58 F9FD:c4EC0 F9FE:c8336 F9FF:c523A FA00:c5207 FA01:c5EA6 FA02:c62D3 FA03:c7CD6
  FA04:c5B85 FA05:c6D1E FA06:c66B4 FA07:c8F3B FA08:c884C FA09:c964D FA0A:c898B FA0B:c5ED3
  FA0C:c5140 FA0D:c55C0 FA0E:k FA10:c585A FA11:k FA12:c6674 FA13:k FA15:c51DE FA16:c732A
  FA17:c76CA FA18:c793C FA19:c795E FA1A:c7965 FA1B:c798F FA1C:c9756 FA1D:c7CBE FA1E:c7FBD FA1F:k
  FA20:c8612 FA21:k FA22:c8AF8 FA23:k FA25:c9038 FA26:c90FD FA27:k FA2A:c98EF FA2B:c98FC
  FA2C:c9928 FA2D:c9DB4 FA2E:c90DE FA2F:c96B7 FA30:c4FAE FA31:c50E7 FA32:c514D FA33:c52C9
  FA34:c52E4 FA35:c5351 FA36:c559D FA37:c5606 FA38:c5668 FA39:c5840 FA3A:c58A8 FA3B:c5C64
  FA3C:c5C6E FA3D:c6094 FA3E:c6168 FA3F:c618E FA40:c61F2 FA41:c654F FA42:c65E2 FA43:c6691
  FA44:c6885 FA45:c6D77 FA46:c6E1A FA47:c6F22 FA48:c716E FA49:c722B FA4A:c7422 FA4B:c7891
  FA4C:c793E FA4D:c7949 FA4E:c7948 FA4F:c7950 FA50:c7956 FA51:c795D FA52:t798D FA54:c7A40
  FA55:c7A81 FA56:c7BC0 FA57:c7DF4 FA58:c7E09 FA59:c7E41 FA5A:c7F72 FA5B:c8005 FA5C:c81ED
  FA5D:c8279 FA5F:c8457 FA60:c8910 FA61:c8996 FA62:c8B01 FA63:c8B39 FA64:c8CD3 FA65:c8D08
  FA66:c8FB6 FA67:c9038 FA68:c96E3 FA69:c97FF FA6A:c983B FA6B:c6075 FA6C:c242EE FA6D:c8218 FA6E:x
  FA70:c4E26 FA71:c51B5 FA72:c5168 FA73:c4F80 FA74:c5145 FA75:c5180 FA76:c52C7 FA77:c52FA
  FA78:c559D FA79:c5555 FA7A:c5599 FA7B:c55E2 FA7C:c585A FA7D:c58B3 FA7E:c5944 FA7F:c5954
  FA80:c5A62 FA81:c5B28 FA82:c5ED2 FA83:c5ED9 FA84:c5F69 FA85:c5FAD FA86:c60D8 FA87:c614E
  FA88:c6108 FA89:c618E FA8A:c6160 FA8B:c61F2 FA8C:c6234 FA8D:c63C4 FA8E:c641C FA8F:c6452
  FA90:c6556 FA91:c6674 FA92:c6717 FA93:c671B FA94:c6756 FA95:c6B79 FA96:c6BBA FA97:c6D41
  FA98:c6EDB FA99:c6ECB FA9A:c6F22 FA9B:c701E FA9C:c716E FA9D:c77A7 FA9E:c7235 FA9F:c72AF
  FAA0:c732A FAA1:c7471 FAA2:c7506 FAA3:c753B FAA4:c761D FAA5:c761F FAA6:c76CA FAA7:c76DB
  FAA8:c76F4 FAA9:c774A FAAA:c7740 FAAB:c78CC FAAC:c7AB1 FAAD:c7BC0 FAAE:c7C7B FAAF:c7D5B
  FAB0:c7DF4 FAB1:c7F3E FAB2:c8005 FAB3:c8352 FAB4:c83EF FAB5:c8779 FAB6:c8941 FAB7:c8986
  FAB8:c8996 FAB9:c8ABF FABA:c8AF8 FABB:c8ACB FABC:c8B01 FABD:c8AFE FABE:c8AED FABF:c8B39
  FAC0:c8B8A FAC1:c8D08 FAC2:c8F38 FAC3:c9072 FAC4:c9199 FAC5:c9276 FAC6:c967C FAC7:c96E3
  FAC8:c9756 FAC9:c97DB FACA:c97FF FACB:c980B FACC:c983B FACD:c9B12 FACE:c9F9C FACF:c2284A
  FAD0:c22844 FAD1:c233D5 FAD2:c3B9D FAD3:c4018 FAD4:c4039 FAD5:c25249 FAD6:c25CD0 FAD7:c27ED3
  FAD8:c9F43 FAD9:c9F8E FADA:x FB00:c66,66 FB01:c66,69 FB02:c66,6C FB03:c66,66,69 FB04:c66,66,6C
  FB05:c73,74 FB07:x FB13:c574,576 FB14:c574,565 FB15:c574,56B FB16:c57E,576 FB17:c574,56D FB18:x
  FB1D:c5D9,5B4 FB1E:k FB1F:c5F2,5B7 FB20:c5E2 FB21:c5D0 FB22:t5D3 FB24:t5DB FB27:c5E8 FB28:c5EA
  FB29:c2B FB2A:c5E9,5C1 FB2B:c5E9,5C2 FB2C:c5E9,5BC,5C1 FB2D:c5E9,5BC,5C2 FB2E:c5D0,5B7
  FB2F:c5D0,5B8 FB30:c5D0,5BC FB31:c5D1,5BC FB32:c5D2,5BC FB33:c5D3,5BC FB34:c5D4,5BC
  FB35:c5D5,5BC FB36:c5D6,5BC FB37:x FB38:c5D8,5BC FB39:c5D9,5BC FB3A:c5DA,5BC FB3B:c5DB,5BC
  FB3C:c5DC,5BC FB3D:x FB3E:c5DE,5BC FB3F:x FB40:c5E0,5BC FB41:c5E1,5BC FB42:x FB43:c5E3,5BC
  FB44:c5E4,5BC FB45:x FB46:c5E6,5BC FB47:c5E7,5BC FB48:c5E8,5BC FB49:c5E9,5BC FB4A:c5EA,5BC
  FB4B:c5D5,5B9 FB4C:c5D1,5BF FB4D:c5DB,5BF FB4E:c5E4,5BF FB4F:c5D0,5DC FB50:c671 FB52:c67B
  FB56:c67E FB5A:c680 FB5E:c67A FB62:c67F FB66:c679 FB6A:c6A4 FB6E:c6A6 FB72:c684 FB76:c683
  FB7A:c686 FB7E:c687 FB82:c68D FB84:c68C FB86:c68E FB88:c688 FB8A:c698 FB8C:c691 FB8E:c6A9
  FB92:c6AF FB96:c6B3 FB9A:c6B1 FB9E:c6BA FBA0:c6BB FBA4:c6C0 FBA6:c6C1 FBAA:c6BE FBAE:c6D2
  FBB0:c6D3 FBB2:k FBD3:c6AD FBD7:c6C7 FBD9:c6C6 FBDB:c6C8 FBDD:c6C7,674 FBDE:c6CB FBE0:c6C5
  FBE2:c6C9 FBE4:c6D0 FBE8:c649 FBEA:c626,627 FBEC:c626,6D5 FBEE:c626,648 FBF0:c626,6C7
  FBF2:c626,6C6 FBF4:c626,6C8 FBF6:c626,6D0 FBF9:c626,649 FBFC:c6CC FC00:c626,62C FC01:c626,62D
  FC02:c626,645 FC03:c626,649 FC04:c626,64A FC05:c628,62C FC06:c628,62D FC07:c628,62E
  FC08:c628,645 FC09:c628,649 FC0A:c628,64A FC0B:c62A,62C FC0C:c62A,62D FC0D:c62A,62E
  FC0E:c62A,645 FC0F:c62A,649 FC10:c62A,64A FC11:c62B,62C FC12:c62B,645 FC13:c62B,649
  FC14:c62B,64A FC15:c62C,62D FC16:c62C,645 FC17:c62D,62C FC18:c62D,645 FC19:c62E,62C
  FC1A:c62E,62D FC1B:c62E,645 FC1C:c633,62C FC1D:c633,62D FC1E:c633,62E FC1F:c633,645
  FC20:c635,62D FC21:c635,645 FC22:c636,62C FC23:c636,62D FC24:c636,62E FC25:c636,645
  FC26:c637,62D FC27:c637,645 FC28:c638,645 FC29:c639,62C FC2A:c639,645 FC2B:c63A,62C
  FC2C:c63A,645 FC2D:c641,62C FC2E:c641,62D FC2F:c641,62E FC30:c641,645 FC31:c641,649
  FC32:c641,64A FC33:c642,62D FC34:c642,645 FC35:c642,649 FC36:c642,64A FC37:c643,627
  FC38:c643,62C FC39:c643,62D FC3A:c643,62E FC3B:c643,644 FC3C:c643,645 FC3D:c643,649
  FC3E:c643,64A FC3F:c644,62C FC40:c644,62D FC41:c644,62E FC42:c644,645 FC43:c644,649
  FC44:c644,64A FC45:c645,62C FC46:c645,62D FC47:c645,62E FC48:c645,645 FC49:c645,649
  FC4A:c645,64A FC4B:c646,62C FC4C:c646,62D FC4D:c646,62E FC4E:c646,645 FC4F:c646,649
  FC50:c646,64A FC51:c647,62C FC52:c647,645 FC53:c647,649 FC54:c647,64A FC55:c64A,62C
  FC56:c64A,62D FC57:c64A,62E FC58:c64A,645 FC59:c64A,649 FC5A:c64A,64A FC5B:c630,670
  FC5C:c631,670 FC5D:c649,670 FC5E:c20,64C,651 FC5F:c20,64D,651 FC60:c20,64E,651 FC61:c20,64F,651
  FC62:c20,650,651 FC63:c20,651,670 FC64:c626,631 FC65:c626,632 FC66:c626,645 FC67:c626,646
  FC68:c626,649 FC69:c626,64A FC6A:c628,631 FC6B:c628,632 FC6C:c628,645 FC6D:c628,646
  FC6E:c628,649 FC6F:c628,64A FC70:c62A,631 FC71:c62A,632 FC72:c62A,645 FC73:c62A,646
  FC74:c62A,649 FC75:c62A,64A FC76:c62B,631 FC77:c62B,632 FC78:c62B,645 FC79:c62B,646
  FC7A:c62B,649 FC7B:c62B,64A FC7C:c641,649 FC7D:c641,64A FC7E:c642,649 FC7F:c642,64A
  FC80:c643,627 FC81:c643,644 FC82:c643,645 FC83:c643,649 FC84:c643,64A FC85:c644,645
  FC86:c644,649 FC87:c644,64A FC88:c645,627 FC89:c645,645 FC8A:c646,631 FC8B:c646,632
  FC8C:c646,645 FC8D:c646,646 FC8E:c646,649 FC8F:c646,64A FC90:c649,670 FC91:c64A,631
  FC92:c64A,632 FC93:c64A,645 FC94:c64A,646 FC95:c64A,649 FC96:c64A,64A FC97:c626,62C
  FC98:c626,62D FC99:c626,62E FC9A:c626,645 FC9B:c626,647 FC9C:c628,62C FC9D:c628,62D
  FC9E:c628,62E FC9F:c628,645 FCA0:c628,647 FCA1:c62A,62C FCA2:c62A,62D FCA3:c62A,62E
  FCA4:c62A,645 FCA5:c62A,647 FCA6:c62B,645 FCA7:c62C,62D FCA8:c62C,645 FCA9:c62D,62C
  FCAA:c62D,645 FCAB:c62E,62C FCAC:c62E,645 FCAD:c633,62C FCAE:c633,62D FCAF:c633,62E
  FCB0:c633,645 FCB1:c635,62D FCB2:c635,62E FCB3:c635,645 FCB4:c636,62C FCB5:c636,62D
  FCB6:c636,62E FCB7:c636,645 FCB8:c637,62D FCB9:c638,645 FCBA:c639,62C FCBB:c639,645
  FCBC:c63A,62C FCBD:c63A,645 FCBE:c641,62C FCBF:c641,62D FCC0:c641,62E FCC1:c641,645
  FCC2:c642,62D FCC3:c642,645 FCC4:c643,62C FCC5:c643,62D FCC6:c643,62E FCC7:c643,644
  FCC8:c643,645 FCC9:c644,62C FCCA:c644,62D FCCB:c644,62E FCCC:c644,645 FCCD:c644,647
  FCCE:c645,62C FCCF:c645,62D FCD0:c645,62E FCD1:c645,645 FCD2:c646,62C FCD3:c646,62D
  FCD4:c646,62E FCD5:c646,645 FCD6:c646,647 FCD7:c647,62C FCD8:c647,645 FCD9:c647,670
  FCDA:c64A,62C FCDB:c64A,62D FCDC:c64A,62E FCDD:c64A,645 FCDE:c64A,647 FCDF:c626,645
  FCE0:c626,647 FCE1:c628,645 FCE2:c628,647 FCE3:c62A,645 FCE4:c62A,647 FCE5:c62B,645
  FCE6:c62B,647 FCE7:c633,645 FCE8:c633,647 FCE9:c634,645 FCEA:c634,647 FCEB:c643,644
  FCEC:c643,645 FCED:c644,645 FCEE:c646,645 FCEF:c646,647 FCF0:c64A,645 FCF1:c64A,647
  FCF2:c640,64E,651 FCF3:c640,64F,651 FCF4:c640,650,651 FCF5:c637,649 FCF6:c637,64A FCF7:c639,649
  FCF8:c639,64A FCF9:c63A,649 FCFA:c63A,64A FCFB:c633,649 FCFC:c633,64A FCFD:c634,649
  FCFE:c634,64A FCFF:c62D,649 FD00:c62D,64A FD01:c62C,649 FD02:c62C,64A FD03:c62E,649
  FD04:c62E,64A FD05:c635,649 FD06:c635,64A FD07:c636,649 FD08:c636,64A FD09:c634,62C
  FD0A:c634,62D FD0B:c634,62E FD0C:c634,645 FD0D:c634,631 FD0E:c633,631 FD0F:c635,631
  FD10:c636,631 FD11:c637,649 FD12:c637,64A FD13:c639,649 FD14:c639,64A FD15:c63A,649
  FD16:c63A,64A FD17:c633,649 FD18:c633,64A FD19:c634,649 FD1A:c634,64A FD1B:c62D,649
  FD1C:c62D,64A FD1D:c62C,649 FD1E:c62C,64A FD1F:c62E,649 FD20:c62E,64A FD21:c635,649
  FD22:c635,64A FD23:c636,649 FD24:c636,64A FD25:c634,62C FD26:c634,62D FD27:c634,62E
  FD28:c634,645 FD29:c634,631 FD2A:c633,631 FD2B:c635,631 FD2C:c636,631 FD2D:c634,62C
  FD2E:c634,62D FD2F:c634,62E FD30:c634,645 FD31:c633,647 FD32:c634,647 FD33:c637,645
  FD34:c633,62C FD35:c633,62D FD36:c633,62E FD37:c634,62C FD38:c634,62D FD39:c634,62E
  FD3A:c637,645 FD3B:c638,645 FD3C:c627,64B FD3E:k FD50:c62A,62C,645 FD51:c62A,62D,62C
  FD53:c62A,62D,645 FD54:c62A,62E,645 FD55:c62A,645,62C FD56:c62A,645,62D FD57:c62A,645,62E
  FD58:c62C,645,62D FD5A:c62D,645,64A FD5B:c62D,645,649 FD5C:c633,62D,62C FD5D:c633,62C,62D
  FD5E:c633,62C,649 FD5F:c633,645,62D FD61:c633,645,62C FD62:c633,645,645 FD64:c635,62D,62D
  FD66:c635,645,645 FD67:c634,62D,645 FD69:c634,62C,64A FD6A:c634,645,62E FD6C:c634,645,645
  FD6E:c636,62D,649 FD6F:c636,62E,645 FD71:c637,645,62D FD73:c637,645,645 FD74:c637,645,64A
  FD75:c639,62C,645 FD76:c639,645,645 FD78:c639,645,649 FD79:c63A,645,645 FD7A:c63A,645,64A
  FD7B:c63A,645,649 FD7C:c641,62E,645 FD7E:c642,645,62D FD7F:c642,645,645 FD80:c644,62D,645
  FD81:c644,62D,64A FD82:c644,62D,649 FD83:c644,62C,62C FD85:c644,62E,645 FD87:c644,645,62D
  FD89:c645,62D,62C FD8A:c645,62D,645 FD8B:c645,62D,64A FD8C:c645,62C,62D FD8D:c645,62C,645
  FD8E:c645,62E,62C FD8F:c645,62E,645 FD90:k FD92:c645,62C,62E FD93:c647,645,62C FD94:c647,645,645
  FD95:c646,62D,645 FD96:c646,62D,649 FD97:c646,62C,645 FD99:c646,62C,649 FD9A:c646,645,64A
  FD9B:c646,645,649 FD9C:c64A,645,645 FD9E:c628,62E,64A FD9F:c62A,62C,64A FDA0:c62A,62C,649
  FDA1:c62A,62E,64A FDA2:c62A,62E,649 FDA3:c62A,645,64A FDA4:c62A,645,649 FDA5:c62C,645,64A
  FDA6:c62C,62D,649 FDA7:c62C,645,649 FDA8:c633,62E,649 FDA9:c635,62D,64A FDAA:c634,62D,64A
  FDAB:c636,62D,64A FDAC:c644,62C,64A FDAD:c644,645,64A FDAE:c64A,62D,64A FDAF:c64A,62C,64A
  FDB0:c64A,645,64A FDB1:c645,645,64A FDB2:c642,645,64A FDB3:c646,62D,64A FDB4:c642,645,62D
  FDB5:c644,62D,645 FDB6:c639,645,64A FDB7:c643,645,64A FDB8:c646,62C,62D FDB9:c645,62E,64A
  FDBA:c644,62C,645 FDBB:c643,645,645 FDBC:c644,62C,645 FDBD:c646,62C,62D FDBE:c62C,62D,64A
  FDBF:c62D,62C,64A FDC0:c645,62C,64A FDC1:c641,645,64A FDC2:c628,62D,64A FDC3:c643,645,645
  FDC4:c639,62C,645 FDC5:c635,645,645 FDC6:c633,62E,64A FDC7:c646,62C,64A FDC8:k FDD0:x
  FDF0:c635,644,6D2 FDF1:c642,644,6D2 FDF2:c627,644,644,647 FDF3:c627,643,628,631
  FDF4:c645,62D,645,62F FDF5:c635,644,639,645 FDF6:c631,633,648,644 FDF7:c639,644,64A,647
  FDF8:c648,633,644,645 FDF9:c635,644,649
  FDFA:c635,644,649,20,627,644,644,647,20,639,644,64A,647,20,648,633,644,645
  FDFB:c62C,644,20,62C,644,627,644,647 FDFC:c631,6CC,627,644 FDFD:k FE00:d FE10:c2C FE11:c3001
  FE12:x FE13:t3A FE15:c21 FE16:c3F FE17:t3016 FE19:x FE20:k FE30:x FE31:c2014 FE32:c2013 FE33:c5F
  FE35:t28 FE37:c7B FE38:c7D FE39:t3014 FE3B:t3010 FE3D:t300A FE3F:t3008 FE41:t300C FE45:k
  FE47:c5B FE48:c5D FE49:c20,305 FE4D:c5F FE50:c2C FE51:c3001 FE52:x FE54:c3B FE55:c3A FE56:c3F
  FE57:c21 FE58:c2014 FE59:t28 FE5B:c7B FE5C:c7D FE5D:t3014 FE5F:c23 FE60:c26 FE61:t2A FE63:c2D
  FE64:c3C FE65:c3E FE66:c3D FE67:x FE68:c5C FE69:t24 FE6B:c40 FE6C:x FE70:c20,64B FE71:c640,64B
  FE72:c20,64C FE73:k FE74:c20,64D FE75:x FE76:c20,64E FE77:c640,64E FE78:c20,64F FE79:c640,64F
  FE7A:c20,650 FE7B:c640,650 FE7C:c20,651 FE7D:c640,651 FE7E:c20,652 FE7F:c640,652 FE80:t621
  FE82:t622 FE84:t623 FE86:t624 FE88:t625 FE8A:c626 FE8D:c627 FE8F:c628 FE93:c629 FE95:c62A
  FE99:c62B FE9D:c62C FEA1:c62D FEA5:c62E FEA9:c62F FEAB:c630 FEAD:c631 FEAF:c632 FEB1:c633
  FEB5:c634 FEB9:c635 FEBD:c636 FEC1:c637 FEC5:c638 FEC9:c639 FECD:c63A FED1:c641 FED5:c642
  FED9:c643 FEDD:c644 FEE1:c645 FEE5:c646 FEE9:c647 FEED:c648 FEEF:c649 FEF1:c64A FEF5:c644,622
  FEF7:c644,623 FEF9:c644,625 FEFB:c644,627 FEFD:x FEFF:d FF00:x FF01:t21 FF21:t61 FF3B:t5B
  FF5F:t2985 FF61:c2E FF62:t300C FF64:c3001 FF65:c30FB FF66:c30F2 FF67:c30A1 FF68:c30A3 FF69:c30A5
  FF6A:c30A7 FF6B:c30A9 FF6C:c30E3 FF6D:c30E5 FF6E:c30E7 FF6F:c30C3 FF70:c30FC FF71:c30A2
  FF72:c30A4 FF73:c30A6 FF74:c30A8 FF75:t30AA FF77:c30AD FF78:c30AF FF79:c30B1 FF7A:c30B3
  FF7B:c30B5 FF7C:c30B7 FF7D:c30B9 FF7E:c30BB FF7F:c30BD FF80:c30BF FF81:c30C1 FF82:c30C4
  FF83:c30C6 FF84:c30C8 FF85:t30CA FF8B:c30D2 FF8C:c30D5 FF8D:c30D8 FF8E:c30DB FF8F:t30DE
  FF94:c30E4 FF95:c30E6 FF96:t30E8 FF9C:c30EF FF9D:c30F3 FF9E:t3099 FFA0:d FFA1:t1100 FFA3:c11AA
  FFA4:c1102 FFA5:t11AC FFA7:t1103 FFAA:t11B0 FFB0:c111A FFB1:t1106 FFB4:c1121 FFB5:t1109 FFBF:x
  FFC2:t1161 FFC8:x FFCA:t1167 FFD0:x FFD2:t116D FFD8:x FFDA:t1173 FFDD:x FFE0:tA2 FFE2:cAC
  FFE3:c20,304 FFE4:cA6 FFE5:cA5 FFE6:c20A9 FFE7:x FFE8:c2502 FFE9:t2190 FFED:c25A0 FFEE:c25CB
  FFEF:x 10000:k 1000C:x 1000D:k 10027:x 10028:k 1003B:x 1003C:k 1003E:x 1003F:k 1004E:x 10050:k
  1005E:x 10080:k 100FB:x 10100:k 10103:x 10107:k 10134:x 10137:k 1018F:x 10190:k 1019D:x 101A0:k
  101A1:x 101D0:k 101FE:x 10280:k 1029D:x 102A0:k 102D1:x 102E0:k 102FC:x 10300:k 10324:x 1032D:k
  1034B:x 10350:k 1037B:x 10380:k 1039E:x 1039F:k 103C4:x 103C8:k 103D6:x 10400:t10428 10428:k
  1049E:x 104A0:k 104AA:x 104B0:t104D8 104D4:x 104D8:k 104FC:x 10500:k 10528:x 10530:k 10564:x
  1056F:k 10570:t10597 1057B:x 1057C:t105A3 1058B:x 1058C:t105B3 10593:x 10594:t105BB 10596:x
  10597:k 105A2:x 105A3:k 105B2:x 105B3:k 105BA:x 105BB:k 105BD:x 105C0:k 105F4:x 10600:k 10737:x
  10740:k 10756:x 10760:k 10768:x 10780:k 10781:t2D0 10783:cE6 10784:c299 10785:c253 10786:x
  10787:c2A3 10788:cAB66 10789:c2A5 1078A:c2A4 1078B:t256 1078D:c1D91 1078E:c258 1078F:c25E
  10790:c2A9 10791:c264 10792:c262 10793:c260 10794:c29B 10795:c127 10796:c29C 10797:c267
  10798:c284 10799:t2AA 1079B:c26C 1079C:c1DF04 1079D:cA78E 1079E:c26E 1079F:c1DF05 107A0:c28E
  107A1:c1DF06 107A2:cF8 107A3:t276 107A5:c71 107A6:c27A 107A7:c1DF08 107A8:t27D 107AA:c280
  107AB:c2A8 107AC:c2A6 107AD:cAB67 107AE:c2A7 107AF:c288 107B0:c2C71 107B1:x 107B2:c28F
  107B3:t2A1 107B5:c298 107B6:t1C0 107B9:c1DF0A 107BA:c1DF1E 107BB:x 10800:k 10806:x 10808:k
  10809:x 1080A:k 10836:x 10837:k 10839:x 1083C:k 1083D:x 1083F:k 10856:x 10857:k 1089F:x 108A7:k
  108B0:x 108E0:k 108F3:x 108F4:k 108F6:x 108FB:k 1091C:x 1091F:k 1093A:x 1093F:k 1095A:x 10980:k
  109B8:x 109BC:k 109D0:x 109D2:k 10A04:x 10A05:k 10A07:x 10A0C:k 10A14:x 10A15:k 10A18:x 10A19:k
  10A36:x 10A38:k 10A3B:x 10A3F:k 10A49:x 10A50:k 10A59:x 10A60:k 10AA0:x 10AC0:k 10AE7:x 10AEB:k
  10AF7:x 10B00:k 10B36:x 10B39:k 10B56:x 10B58:k 10B73:x 10B78:k 10B92:x 10B99:k 10B9D:x 10BA9:k
  10BB0:x 10C00:k 10C49:x 10C80:t10CC0 10CB3:x 10CC0:k 10CF3:x 10CFA:k 10D28:x 10D30:k 10D3A:x
  10D40:k 10D50:t10D70 10D66:x 10D69:k 10D86:x 10D8E:k 10D90:x 10E60:k 10E7F:x 10E80:k 10EAA:x
  10EAB:k 10EAE:x 10EB0:k 10EB2:x 10EC2:k 10EC8:x 10ED0:k 10ED9:x 10EFA:k 10F28:x 10F30:k 10F5A:x
  10F70:k 10F8A:x 10FB0:k 10FCC:x 10FE0:k 10FF7:x 11000:k 1104E:x 11052:k 11076:x 1107F:k 110BD:x
  110BE:k 110C3:x 110D0:k 110E9:x 110F0:k 110FA:x 11100:k 11135:x 11136:k 11148:x 11150:k 11177:x
  11180:k 111E0:x 111E1:k 111F5:x 11200:k 11212:x 11213:k 11242:x 11280:k 11287:x 11288:k 11289:x
  1128A:k 1128E:x 1128F:k 1129E:x 1129F:k 112AA:x 112B0:k 112EB:x 112F0:k 112FA:x 11300:k 11304:x
  11305:k 1130D:x 1130F:k 11311:x 11313:k 11329:x 1132A:k 11331:x 11332:k 11334:x 11335:k 1133A:x
  1133B:k 11345:x 11347:k 11349:x 1134B:k 1134E:x 11350:k 11351:x 11357:k 11358:x 1135D:k 11364:x
  11366:k 1136D:x 11370:k 11375:x 11380:k 1138A:x 1138B:k 1138C:x 1138E:k 1138F:x 11390:k 113B6:x
  113B7:k 113C1:x 113C2:k 113C3:x 113C5:k 113C6:x 113C7:k 113CB:x 113CC:k 113D6:x 113D7:k 113D9:x
  113E1:k 113E3:x 11400:k 1145C:x 1145D:k 11462:x 11480:k 114C8:x 114D0:k 114DA:x 11580:k 115B6:x
  115B8:k 115DE:x 11600:k 11645:x 11650:k 1165A:x 11660:k 1166D:x 11680:k 116BA:x 116C0:k 116CA:x
  116D0:k 116E4:x 11700:k 1171B:x 1171D:k 1172C:x 11730:k 11747:x 11800:k 1183C:x 118A0:t118C0
  118C0:k 118F3:x 118FF:k 11907:x 11909:k 1190A:x 1190C:k 11914:x 11915:k 11917:x 11918:k 11936:x
  11937:k 11939:x 1193B:k 11947:x 11950:k 1195A:x 119A0:k 119A8:x 119AA:k 119D8:x 119DA:k 119E5:x
  11A00:k 11A48:x 11A50:k 11AA3:x 11AB0:k 11AF9:x 11B00:k 11B0A:x 11B60:k 11B68:x 11BC0:k 11BE2:x
  11BF0:k 11BFA:x 11C00:k 11C09:x 11C0A:k 11C37:x 11C38:k 11C46:x 11C50:k 11C6D:x 11C70:k 11C90:x
  11C92:k 11CA8:x 11CA9:k 11CB7:x 11D00:k 11D07:x 11D08:k 11D0A:x 11D0B:k 11D37:x 11D3A:k 11D3B:x
  11D3C:k 11D3E:x 11D3F:k 11D48:x 11D50:k 11D5A:x 11D60:k 11D66:x 11D67:k 11D69:x 11D6A:k 11D8F:x
  11D90:k 11D92:x 11D93:k 11D99:x 11DA0:k 11DAA:x 11DB0:k 11DDC:x 11DE0:k 11DEA:x 11EE0:k 11EF9:x
  11F00:k 11F11:x 11F12:k 11F3B:x 11F3E:k 11F5B:x 11FB0:k 11FB1:x 11FC0:k 11FF2:x 11FFF:k 1239A:x
  12400:k 1246F:x 12470:k 12475:x 12480:k 12544:x 12F90:k 12FF3:x 13000:k 13430:x 13440:k 13456:x
  13460:k 143FB:x 14400:k 14647:x 16100:k 1613A:x 16800:k 16A39:x 16A40:k 16A5F:x 16A60:k 16A6A:x
  16A6E:k 16ABF:x 16AC0:k 16ACA:x 16AD0:k 16AEE:x 16AF0:k 16AF6:x 16B00:k 16B46:x 16B50:k 16B5A:x
  16B5B:k 16B62:x 16B63:k 16B78:x 16B7D:k 16B90:x 16D40:k 16D7A:x 16E40:t16E60 16E60:k 16E9B:x
  16EA0:t16EBB 16EB9:x 16EBB:k 16ED4:x 16F00:k 16F4B:x 16F4F:k 16F88:x 16F8F:k 16FA0:x 16FE0:k
  16FE5:x 16FF0:k 16FF7:x 17000:k 18CD6:x 18CFF:k 18D1F:x 18D80:k 18DF3:x 1AFF0:k 1AFF4:x 1AFF5:k
  1AFFC:x 1AFFD:k 1AFFF:x 1B000:k 1B123:x 1B132:k 1B133:x 1B150:k 1B153:x 1B155:k 1B156:x 1B164:k
  1B168:x 1B170:k 1B2FC:x 1BC00:k 1BC6B:x 1BC70:k 1BC7D:x 1BC80:k 1BC89:x 1BC90:k 1BC9A:x 1BC9C:k
  1BCA0:d 1BCA4:x 1CC00:k 1CCD6:t61 1CCF0:t30 1CCFA:k 1CCFD:x 1CD00:k 1CEB4:x 1CEBA:k 1CED1:x
  1CEE0:k 1CEF1:x 1CF00:k 1CF2E:x 1CF30:k 1CF47:x 1CF50:k 1CFC4:x 1D000:k 1D0F6:x 1D100:k 1D127:x
  1D129:k 1D15E:c1D157,1D165 1D15F:c1D158,1D165 1D160:c1D158,1D165,1D16E 1D161:c1D158,1D165,1D16F
  1D162:c1D158,1D165,1D170 1D163:c1D158,1D165,1D171 1D164:c1D158,1D165,1D172 1D165:k 1D173:d
  1D17B:k 1D1BB:c1D1B9,1D165 1D1BC:c1D1BA,1D165 1D1BD:c1D1B9,1D165,1D16E 1D1BE:c1D1BA,1D165,1D16E
  1D1BF:c1D1B9,1D165,1D16F 1D1C0:c1D1BA,1D165,1D16F 1D1C1:k 1D1EB:x 1D200:k 1D246:x 1D2C0:k
  1D2D4:x 1D2E0:k 1D2F4:x 1D300:k 1D357:x 1D360:k 1D379:x 1D400:t61 1D41A:t61 1D434:t61 1D44E:t61
  1D455:x 1D456:t69 1D468:t61 1D482:t61 1D49C:c61 1D49D:x 1D49E:t63 1D4A0:x 1D4A2:c67 1D4A3:x
  1D4A5:t6A 1D4A7:x 1D4A9:t6E 1D4AD:x 1D4AE:t73 1D4B6:t61 1D4BA:x 1D4BB:c66 1D4BC:x 1D4BD:t68
  1D4C4:x 1D4C5:t70 1D4D0:t61 1D4EA:t61 1D504:t61 1D506:x 1D507:t64 1D50B:x 1D50D:t6A 1D515:x
  1D516:t73 1D51D:x 1D51E:t61 1D538:t61 1D53A:x 1D53B:t64 1D53F:x 1D540:t69 1D545:x 1D546:c6F
  1D547:x 1D54A:t73 1D551:x 1D552:t61 1D56C:t61 1D586:t61 1D5A0:t61 1D5BA:t61 1D5D4:t61 1D5EE:t61
  1D608:t61 1D622:t61 1D63C:t61 1D656:t61 1D670:t61 1D68A:t61 1D6A4:c131 1D6A5:c237 1D6A6:x
  1D6A8:t3B1 1D6B9:c3B8 1D6BA:t3C3 1D6C1:c2207 1D6C2:t3B1 1D6D3:c3C3 1D6D5:t3C4 1D6DB:c2202
  1D6DC:c3B5 1D6DD:c3B8 1D6DE:c3BA 1D6DF:c3C6 1D6E0:c3C1 1D6E1:c3C0 1D6E2:t3B1 1D6F3:c3B8
  1D6F4:t3C3 1D6FB:c2207 1D6FC:t3B1 1D70D:c3C3 1D70F:t3C4 1D715:c2202 1D716:c3B5 1D717:c3B8
  1D718:c3BA 1D719:c3C6 1D71A:c3C1 1D71B:c3C0 1D71C:t3B1 1D72D:c3B8 1D72E:t3C3 1D735:c2207
  1D736:t3B1 1D747:c3C3 1D749:t3C4 1D74F:c2202 1D750:c3B5 1D751:c3B8 1D752:c3BA 1D753:c3C6
  1D754:c3C1 1D755:c3C0 1D756:t3B1 1D767:c3B8 1D768:t3C3 1D76F:c2207 1D770:t3B1 1D781:c3C3
  1D783:t3C4 1D789:c2202 1D78A:c3B5 1D78B:c3B8 1D78C:c3BA 1D78D:c3C6 1D78E:c3C1 1D78F:c3C0
  1D790:t3B1 1D7A1:c3B8 1D7A2:t3C3 1D7A9:c2207 1D7AA:t3B1 1D7BB:c3C3 1D7BD:t3C4 1D7C3:c2202
  1D7C4:c3B5 1D7C5:c3B8 1D7C6:c3BA 1D7C7:c3C6 1D7C8:c3C1 1D7C9:c3C0 1D7CA:c3DD 1D7CC:x 1D7CE:t30
  1D7D8:t30 1D7E2:t30 1D7EC:t30 1D7F6:t30 1D800:k 1DA8C:x 1DA9B:k 1DAA0:x 1DAA1:k 1DAB0:x 1DF00:k
  1DF1F:x 1DF25:k 1DF2B:x 1E000:k 1E007:x 1E008:k 1E019:x 1E01B:k 1E022:x 1E023:k 1E025:x 1E026:k
  1E02B:x 1E030:t430 1E039:t43A 1E03C:t43E 1E047:c44B 1E048:t44D 1E04A:cA689 1E04B:c4D9 1E04C:c456
  1E04D:c458 1E04E:c4E9 1E04F:c4AF 1E050:c4CF 1E051:t430 1E05A:t43A 1E05C:t43E 1E05E:c441
  1E05F:t443 1E065:t44A 1E067:c491 1E068:c456 1E069:c455 1E06A:c45F 1E06B:c4AB 1E06C:cA651
  1E06D:c4B1 1E06E:x 1E08F:k 1E090:x 1E100:k 1E12D:x 1E130:k 1E13E:x 1E140:k 1E14A:x 1E14E:k
  1E150:x 1E290:k 1E2AF:x 1E2C0:k 1E2FA:x 1E2FF:k 1E300:x 1E4D0:k 1E4FA:x 1E5D0:k 1E5FB:x 1E5FF:k
  1E600:x 1E6C0:k 1E6DF:x 1E6E0:k 1E6F6:x 1E6FE:k 1E700:x 1E7E0:k 1E7E7:x 1E7E8:k 1E7EC:x 1E7ED:k
  1E7EF:x 1E7F0:k 1E7FF:x 1E800:k 1E8C5:x 1E8C7:k 1E8D7:x 1E900:t1E922 1E922:k 1E94C:x 1E950:k
  1E95A:x 1E95E:k 1E960:x 1EC71:k 1ECB5:x 1ED01:k 1ED3E:x 1EE00:t627 1EE02:c62C 1EE03:c62F 1EE04:x
  1EE05:c648 1EE06:c632 1EE07:c62D 1EE08:c637 1EE09:c64A 1EE0A:t643 1EE0E:c633 1EE0F:c639
  1EE10:c641 1EE11:c635 1EE12:c642 1EE13:c631 1EE14:c634 1EE15:t62A 1EE17:c62E 1EE18:c630
  1EE19:c636 1EE1A:c638 1EE1B:c63A 1EE1C:c66E 1EE1D:c6BA 1EE1E:c6A1 1EE1F:c66F 1EE20:x 1EE21:c628
  1EE22:c62C 1EE23:x 1EE24:c647 1EE25:x 1EE27:c62D 1EE28:x 1EE29:c64A 1EE2A:t643 1EE2E:c633
  1EE2F:c639 1EE30:c641 1EE31:c635 1EE32:c642 1EE33:x 1EE34:c634 1EE35:t62A 1EE37:c62E 1EE38:x
  1EE39:c636 1EE3A:x 1EE3B:c63A 1EE3C:x 1EE42:c62C 1EE43:x 1EE47:c62D 1EE48:x 1EE49:c64A 1EE4A:x
  1EE4B:c644 1EE4C:x 1EE4D:c646 1EE4E:c633 1EE4F:c639 1EE50:x 1EE51:c635 1EE52:c642 1EE53:x
  1EE54:c634 1EE55:x 1EE57:c62E 1EE58:x 1EE59:c636 1EE5A:x 1EE5B:c63A 1EE5C:x 1EE5D:c6BA 1EE5E:x
  1EE5F:c66F 1EE60:x 1EE61:c628 1EE62:c62C 1EE63:x 1EE64:c647 1EE65:x 1EE67:c62D 1EE68:c637
  1EE69:c64A 1EE6A:c643 1EE6B:x 1EE6C:t645 1EE6E:c633 1EE6F:c639 1EE70:c641 1EE71:c635 1EE72:c642
  1EE73:x 1EE74:c634 1EE75:t62A 1EE77:c62E 1EE78:x 1EE79:c636 1EE7A:c638 1EE7B:c63A 1EE7C:c66E
  1EE7D:x 1EE7E:c6A1 1EE7F:x 1EE80:t627 1EE82:c62C 1EE83:c62F 1EE84:t647 1EE86:c632 1EE87:c62D
  1EE88:c637 1EE89:c64A 1EE8A:x 1EE8B:t644 1EE8E:c633 1EE8F:c639 1EE90:c641 1EE91:c635 1EE92:c642
  1EE93:c631 1EE94:c634 1EE95:t62A 1EE97:c62E 1EE98:c630 1EE99:c636 1EE9A:c638 1EE9B:c63A 1EE9C:x
  1EEA1:c628 1EEA2:c62C 1EEA3:c62F 1EEA4:x 1EEA5:c648 1EEA6:c632 1EEA7:c62D 1EEA8:c637 1EEA9:c64A
  1EEAA:x 1EEAB:t644 1EEAE:c633 1EEAF:c639 1EEB0:c641 1EEB1:c635 1EEB2:c642 1EEB3:c631 1EEB4:c634
  1EEB5:t62A 1EEB7:c62E 1EEB8:c630 1EEB9:c636 1EEBA:c638 1EEBB:c63A 1EEBC:x 1EEF0:k 1EEF2:x
  1F000:k 1F02C:x 1F030:k 1F094:x 1F0A0:k 1F0AF:x 1F0B1:k 1F0C0:x 1F0C1:k 1F0D0:x 1F0D1:k 1F0F6:x
  1F101:c30,2C 1F102:c31,2C 1F103:c32,2C 1F104:c33,2C 1F105:c34,2C 1F106:c35,2C 1F107:c36,2C
  1F108:c37,2C 1F109:c38,2C 1F10A:c39,2C 1F10B:k 1F110:c28,61,29 1F111:c28,62,29 1F112:c28,63,29
  1F113:c28,64,29 1F114:c28,65,29 1F115:c28,66,29 1F116:c28,67,29 1F117:c28,68,29 1F118:c28,69,29
  1F119:c28,6A,29 1F11A:c28,6B,29 1F11B:c28,6C,29 1F11C:c28,6D,29 1F11D:c28,6E,29 1F11E:c28,6F,29
  1F11F:c28,70,29 1F120:c28,71,29 1F121:c28,72,29 1F122:c28,73,29 1F123:c28,74,29 1F124:c28,75,29
  1F125:c28,76,29 1F126:c28,77,29 1F127:c28,78,29 1F128:c28,79,29 1F129:c28,7A,29
  1F12A:c3014,73,3015 1F12B:c63 1F12C:c72 1F12D:c63,64 1F12E:c77,7A 1F12F:k 1F130:t61 1F14A:c68,76
  1F14B:c6D,76 1F14C:c73,64 1F14D:c73,73 1F14E:c70,70,76 1F14F:c77,63 1F150:k 1F16A:c6D,63
  1F16B:c6D,64 1F16C:c6D,72 1F16D:k 1F190:c64,6A 1F191:k 1F1AE:x 1F1E6:k 1F200:c307B,304B
  1F201:c30B3,30B3 1F202:c30B5 1F203:x 1F210:c624B 1F211:c5B57 1F212:c53CC 1F213:c30C7 1F214:c4E8C
  1F215:c591A 1F216:c89E3 1F217:c5929 1F218:c4EA4 1F219:c6620 1F21A:c7121 1F21B:c6599 1F21C:c524D
  1F21D:c5F8C 1F21E:c518D 1F21F:c65B0 1F220:c521D 1F221:c7D42 1F222:c751F 1F223:c8CA9 1F224:c58F0
  1F225:c5439 1F226:c6F14 1F227:c6295 1F228:c6355 1F229:c4E00 1F22A:c4E09 1F22B:c904A 1F22C:c5DE6
  1F22D:c4E2D 1F22E:c53F3 1F22F:c6307 1F230:c8D70 1F231:c6253 1F232:c7981 1F233:c7A7A 1F234:c5408
  1F235:c6E80 1F236:c6709 1F237:c6708 1F238:c7533 1F239:c5272 1F23A:c55B6 1F23B:c914D 1F23C:x
  1F240:c3014,672C,3015 1F241:c3014,4E09,3015 1F242:c3014,4E8C,3015 1F243:c3014,5B89,3015
  1F244:c3014,70B9,3015 1F245:c3014,6253,3015 1F246:c3014,76D7,3015 1F247:c3014,52DD,3015
  1F248:c3014,6557,3015 1F249:x 1F250:c5F97 1F251:c53EF 1F252:x 1F260:k 1F266:x 1F300:k 1F6D9:x
  1F6DC:k 1F6ED:x 1F6F0:k 1F6FD:x 1F700:k 1F7DA:x 1F7E0:k 1F7EC:x 1F7F0:k 1F7F1:x 1F800:k 1F80C:x
  1F810:k 1F848:x 1F850:k 1F85A:x 1F860:k 1F888:x 1F890:k 1F8AE:x 1F8B0:k 1F8BC:x 1F8C0:k 1F8C2:x
  1F8D0:k 1F8D9:x 1F900:k 1FA58:x 1FA60:k 1FA6E:x 1FA70:k 1FA7D:x 1FA80:k 1FA8B:x 1FA8E:k 1FAC7:x
  1FAC8:k 1FAC9:x 1FACD:k 1FADD:x 1FADF:k 1FAEB:x 1FAEF:k 1FAF9:x 1FB00:k 1FB93:x 1FB94:k
  1FBF0:t30 1FBFA:k 1FBFB:x 20000:k 2A6E0:x 2A700:k 2B81E:x 2B820:k 2CEAE:x 2CEB0:k 2EBE1:x
  2EBF0:k 2EE5E:x 2F800:c4E3D 2F801:c4E38 2F802:c4E41 2F803:c20122 2F804:c4F60 2F805:c4FAE
  2F806:c4FBB 2F807:c5002 2F808:c507A 2F809:c5099 2F80A:c50E7 2F80B:c50CF 2F80C:c349E 2F80D:c2063A
  2F80E:c514D 2F80F:c5154 2F810:c5164 2F811:c5177 2F812:c2051C 2F813:c34B9 2F814:c5167 2F815:c518D
  2F816:c2054B 2F817:c5197 2F818:c51A4 2F819:c4ECC 2F81A:c51AC 2F81B:c51B5 2F81C:c291DF
  2F81D:c51F5 2F81E:c5203 2F81F:c34DF 2F820:c523B 2F821:c5246 2F822:c5272 2F823:c5277 2F824:c3515
  2F825:c52C7 2F826:c52C9 2F827:c52E4 2F828:c52FA 2F829:t5305 2F82B:c5317 2F82C:c5349 2F82D:c5351
  2F82E:c535A 2F82F:c5373 2F830:c537D 2F831:c537F 2F834:c20A2C 2F835:c7070 2F836:c53CA 2F837:c53DF
  2F838:c20B63 2F839:c53EB 2F83A:c53F1 2F83B:c5406 2F83C:c549E 2F83D:c5438 2F83E:c5448 2F83F:c5468
  2F840:c54A2 2F841:c54F6 2F842:c5510 2F843:c5553 2F844:c5563 2F845:c5584 2F847:c5599 2F848:c55AB
  2F849:c55B3 2F84A:c55C2 2F84B:c5716 2F84C:c5606 2F84D:c5717 2F84E:c5651 2F84F:c5674 2F850:c5207
  2F851:c58EE 2F852:c57CE 2F853:c57F4 2F854:c580D 2F855:c578B 2F856:c5832 2F857:c5831 2F858:c58AC
  2F859:c214E4 2F85A:c58F2 2F85B:c58F7 2F85C:c5906 2F85D:c591A 2F85E:c5922 2F85F:c5962
  2F860:c216A8 2F861:c216EA 2F862:c59EC 2F863:c5A1B 2F864:c5A27 2F865:c59D8 2F866:c5A66
  2F867:c36EE 2F868:c36FC 2F869:c5B08 2F86A:c5B3E 2F86C:c219C8 2F86D:c5BC3 2F86E:c5BD8 2F86F:c5BE7
  2F870:c5BF3 2F871:c21B18 2F872:c5BFF 2F873:c5C06 2F874:c5F53 2F875:c5C22 2F876:c3781 2F877:c5C60
  2F878:c5C6E 2F879:c5CC0 2F87A:c5C8D 2F87B:c21DE4 2F87C:c5D43 2F87D:c21DE6 2F87E:c5D6E
  2F87F:c5D6B 2F880:c5D7C 2F881:t5DE1 2F883:c382F 2F884:c5DFD 2F885:c5E28 2F886:c5E3D 2F887:c5E69
  2F888:c3862 2F889:c22183 2F88A:c387C 2F88B:c5EB0 2F88C:c5EB3 2F88D:c5EB6 2F88E:c5ECA
  2F88F:c2A392 2F890:c5EFE 2F891:c22331 2F893:c8201 2F894:c5F22 2F896:c38C7 2F897:c232B8
  2F898:c261DA 2F899:c5F62 2F89A:c5F6B 2F89B:c38E3 2F89C:c5F9A 2F89D:c5FCD 2F89E:c5FD7 2F89F:c5FF9
  2F8A0:c6081 2F8A1:c393A 2F8A2:c391C 2F8A3:c6094 2F8A4:c226D4 2F8A5:c60C7 2F8A6:c6148 2F8A7:c614C
  2F8A8:c614E 2F8A9:c614C 2F8AA:c617A 2F8AB:c618E 2F8AC:c61B2 2F8AD:c61A4 2F8AE:c61AF 2F8AF:c61DE
  2F8B0:c61F2 2F8B1:c61F6 2F8B2:c6210 2F8B3:c621B 2F8B4:c625D 2F8B5:c62B1 2F8B6:c62D4 2F8B7:c6350
  2F8B8:c22B0C 2F8B9:c633D 2F8BA:c62FC 2F8BB:c6368 2F8BC:c6383 2F8BD:c63E4 2F8BE:c22BF1
  2F8BF:c6422 2F8C0:c63C5 2F8C1:c63A9 2F8C2:c3A2E 2F8C3:c6469 2F8C4:c647E 2F8C5:c649D 2F8C6:c6477
  2F8C7:c3A6C 2F8C8:c654F 2F8C9:c656C 2F8CA:c2300A 2F8CB:c65E3 2F8CC:c66F8 2F8CD:c6649 2F8CE:c3B19
  2F8CF:c6691 2F8D0:c3B08 2F8D1:c3AE4 2F8D2:c5192 2F8D3:c5195 2F8D4:c6700 2F8D5:c669C 2F8D6:c80AD
  2F8D7:c43D9 2F8D8:c6717 2F8D9:c671B 2F8DA:c6721 2F8DB:c675E 2F8DC:c6753 2F8DD:c233C3 2F8DE:c3B49
  2F8DF:c67FA 2F8E0:c6785 2F8E1:c6852 2F8E2:c6885 2F8E3:c2346D 2F8E4:c688E 2F8E5:c681F 2F8E6:c6914
  2F8E7:c3B9D 2F8E8:c6942 2F8E9:c69A3 2F8EA:c69EA 2F8EB:c6AA8 2F8EC:c236A3 2F8ED:c6ADB 2F8EE:c3C18
  2F8EF:c6B21 2F8F0:c238A7 2F8F1:c6B54 2F8F2:c3C4E 2F8F3:c6B72 2F8F4:c6B9F 2F8F5:t6BBA
  2F8F7:c23A8D 2F8F8:c21D0B 2F8F9:c23AFA 2F8FA:c6C4E 2F8FB:c23CBC 2F8FC:c6CBF 2F8FD:c6CCD
  2F8FE:c6C67 2F8FF:c6D16 2F900:c6D3E 2F901:c6D77 2F902:c6D41 2F903:c6D69 2F904:c6D78 2F905:c6D85
  2F906:c23D1E 2F907:c6D34 2F908:c6E2F 2F909:c6E6E 2F90A:c3D33 2F90B:c6ECB 2F90C:c6EC7
  2F90D:c23ED1 2F90E:c6DF9 2F90F:c6F6E 2F910:c23F5E 2F911:c23F8E 2F912:c6FC6 2F913:c7039
  2F914:c701E 2F915:c701B 2F916:c3D96 2F917:c704A 2F918:c707D 2F919:c7077 2F91A:c70AD 2F91B:c20525
  2F91C:c7145 2F91D:c24263 2F91E:c719C 2F91F:c243AB 2F920:c7228 2F921:c7235 2F922:c7250
  2F923:c24608 2F924:c7280 2F925:c7295 2F926:c24735 2F927:c24814 2F928:c737A 2F929:c738B
  2F92A:c3EAC 2F92B:c73A5 2F92C:c3EB8 2F92E:c7447 2F92F:c745C 2F930:c7471 2F931:c7485 2F932:c74CA
  2F933:c3F1B 2F934:c7524 2F935:c24C36 2F936:c753E 2F937:c24C92 2F938:c7570 2F939:c2219F
  2F93A:c7610 2F93B:c24FA1 2F93C:c24FB8 2F93D:c25044 2F93E:c3FFC 2F93F:c4008 2F940:c76F4
  2F941:c250F3 2F942:c250F2 2F943:c25119 2F944:c25133 2F945:t771E 2F947:c771F 2F948:c774A
  2F949:c4039 2F94A:c778B 2F94B:c4046 2F94C:c4096 2F94D:c2541D 2F94E:c784E 2F94F:c788C 2F950:c78CC
  2F951:c40E3 2F952:c25626 2F953:c7956 2F954:c2569A 2F955:c256C5 2F956:c798F 2F957:c79EB
  2F958:c412F 2F959:c7A40 2F95A:c7A4A 2F95B:c7A4F 2F95C:c2597C 2F95D:c25AA7 2F95F:c7AEE
  2F960:c4202 2F961:c25BAB 2F962:c7BC6 2F963:c7BC9 2F964:c4227 2F965:c25C80 2F966:c7CD2
  2F967:c42A0 2F968:c7CE8 2F969:c7CE3 2F96A:c7D00 2F96B:c25F86 2F96C:c7D63 2F96D:c4301 2F96E:c7DC7
  2F96F:c7E02 2F970:c7E45 2F971:c4334 2F972:c26228 2F973:c26247 2F974:c4359 2F975:c262D9
  2F976:c7F7A 2F977:c2633E 2F978:c7F95 2F979:c7FFA 2F97A:c8005 2F97B:c264DA 2F97C:c26523
  2F97D:c8060 2F97E:c265A8 2F97F:c8070 2F980:c2335F 2F981:c43D5 2F982:c80B2 2F983:c8103
  2F984:c440B 2F985:c813E 2F986:c5AB5 2F987:c267A7 2F988:c267B5 2F989:c23393 2F98A:c2339C
  2F98B:c8201 2F98C:c8204 2F98D:c8F9E 2F98E:c446B 2F98F:c8291 2F990:c828B 2F991:c829D 2F992:c52B3
  2F993:c82B1 2F994:c82B3 2F995:c82BD 2F996:c82E6 2F997:c26B3C 2F998:c82E5 2F999:c831D 2F99A:c8363
  2F99B:c83AD 2F99C:c8323 2F99D:c83BD 2F99E:c83E7 2F99F:c8457 2F9A0:c8353 2F9A1:c83CA 2F9A2:c83CC
  2F9A3:c83DC 2F9A4:c26C36 2F9A5:c26D6B 2F9A6:c26CD5 2F9A7:c452B 2F9A8:c84F1 2F9A9:c84F3
  2F9AA:c8516 2F9AB:c273CA 2F9AC:c8564 2F9AD:c26F2C 2F9AE:c455D 2F9AF:c4561 2F9B0:c26FB1
  2F9B1:c270D2 2F9B2:c456B 2F9B3:c8650 2F9B4:c865C 2F9B5:c8667 2F9B6:c8669 2F9B7:c86A9 2F9B8:c8688
  2F9B9:c870E 2F9BA:c86E2 2F9BB:c8779 2F9BC:c8728 2F9BD:c876B 2F9BE:c8786 2F9BF:c45D7 2F9C0:c87E1
  2F9C1:c8801 2F9C2:c45F9 2F9C3:c8860 2F9C4:c8863 2F9C5:c27667 2F9C6:c88D7 2F9C7:c88DE 2F9C8:c4635
  2F9C9:c88FA 2F9CA:c34BB 2F9CB:c278AE 2F9CC:c27966 2F9CD:c46BE 2F9CE:c46C7 2F9CF:c8AA0
  2F9D0:c8AED 2F9D1:c8B8A 2F9D2:c8C55 2F9D3:c27CA8 2F9D4:c8CAB 2F9D5:c8CC1 2F9D6:c8D1B 2F9D7:c8D77
  2F9D8:c27F2F 2F9D9:c20804 2F9DA:c8DCB 2F9DB:c8DBC 2F9DC:c8DF0 2F9DD:c208DE 2F9DE:c8ED4
  2F9DF:c8F38 2F9E0:c285D2 2F9E1:c285ED 2F9E2:c9094 2F9E3:c90F1 2F9E4:c9111 2F9E5:c2872E
  2F9E6:c911B 2F9E7:c9238 2F9E8:t92D7 2F9EA:c927C 2F9EB:c93F9 2F9EC:c9415 2F9ED:c28BFA 2F9EE:c958B
  2F9EF:c4995 2F9F0:c95B7 2F9F1:c28D77 2F9F2:c49E6 2F9F3:c96C3 2F9F4:c5DB2 2F9F5:c9723
  2F9F6:c29145 2F9F7:c2921A 2F9F8:c4A6E 2F9F9:c4A76 2F9FA:c97E0 2F9FB:c2940A 2F9FC:c4AB2
  2F9FD:c29496 2F9FE:c980B 2FA00:c9829 2FA01:c295B6 2FA02:c98E2 2FA03:c4B33 2FA04:c9929
  2FA05:c99A7 2FA06:c99C2 2FA07:c99FE 2FA08:c4BCE 2FA09:c29B30 2FA0A:c9B12 2FA0B:c9C40 2FA0C:c9CFD
  2FA0D:c4CCE 2FA0E:c4CED 2FA0F:c9D67 2FA10:c2A0CE 2FA11:c4CF8 2FA12:c2A105 2FA13:c2A20E
  2FA14:c2A291 2FA15:c9EBB 2FA16:c4D56 2FA17:c9EF9 2FA18:c9EFE 2FA19:c9F05 2FA1A:c9F0F 2FA1B:c9F16
  2FA1C:c9F3B 2FA1D:c2A600 2FA1E:x 30000:k 3134B:x 31350:k 3347A:x E0100:d E01F0:x"

end RowTree.Url.Domain
