import FrontPage.Text.CharTable
import FrontPage.Text.CodeRange

/-!
# Composed characters

A mark that stands behind a letter can make one character with it. `orderMarks` brings the marks behind each character
into the order of their classes, and `compose` makes one character of a character and a mark behind it wherever there
is such a character and no other mark of the same or a higher class is in between. Hangul syllables are composed by
rule.
-/

namespace FrontPage.Text

/-- The classes of marks, each with the marks of the class. -/
def markClasses : List (Nat × List CodeRange) :=
  [(1, [(820, 824), (7380, 7380), (7394, 7400), (8402, 8403), (8408, 8410), (8421, 8422), (8426, 8427), (68153,
   68153), (92912, 92916), (113822, 113822), (119143, 119145)]), (6, [(94192, 94193)]), (7, [(2364, 2364), (2492,
   2492), (2620, 2620), (2748, 2748), (2876, 2876), (3132, 3132), (3260, 3260), (4151, 4151), (6964, 6964), (7142,
   7142), (7223, 7223), (43443, 43443), (69818, 69818), (70003, 70003), (70090, 70090), (70198, 70198), (70377,
   70377), (70459, 70460), (70726, 70726), (70851, 70851), (71104, 71104), (71351, 71351), (71738, 71738), (72003,
   72003), (73026, 73026), (125258, 125258)]), (8, [(12441, 12442)]), (9, [(2381, 2381), (2509, 2509), (2637, 2637),
   (2765, 2765), (2893, 2893), (3021, 3021), (3149, 3149), (3277, 3277), (3387, 3388), (3405, 3405), (3530, 3530),
   (3642, 3642), (3770, 3770), (3972, 3972), (4153, 4154), (5908, 5909), (5940, 5940), (6098, 6098), (6752, 6752),
   (6980, 6980), (7082, 7083), (7154, 7155), (11647, 11647), (43014, 43014), (43052, 43052), (43204, 43204), (43347,
   43347), (43456, 43456), (43766, 43766), (44013, 44013), (68159, 68159), (69702, 69702), (69744, 69744), (69759,
   69759), (69817, 69817), (69939, 69940), (70080, 70080), (70197, 70197), (70378, 70378), (70477, 70477), (70722,
   70722), (70850, 70850), (71103, 71103), (71231, 71231), (71350, 71350), (71467, 71467), (71737, 71737), (71997,
   71998), (72160, 72160), (72244, 72244), (72263, 72263), (72345, 72345), (72767, 72767), (73028, 73029), (73111,
   73111)]), (10, [(1456, 1456)]), (11, [(1457, 1457)]), (12, [(1458, 1458)]), (13, [(1459, 1459)]), (14, [(1460,
   1460)]), (15, [(1461, 1461)]), (16, [(1462, 1462)]), (17, [(1463, 1463)]), (18, [(1464, 1464), (1479, 1479)]),
   (19, [(1465, 1466)]), (20, [(1467, 1467)]), (21, [(1468, 1468)]), (22, [(1469, 1469)]), (23, [(1471, 1471)]),
   (24, [(1473, 1473)]), (25, [(1474, 1474)]), (26, [(64286, 64286)]), (27, [(1611, 1611), (2288, 2288)]), (28,
   [(1612, 1612), (2289, 2289)]), (29, [(1613, 1613), (2290, 2290)]), (30, [(1560, 1560), (1614, 1614)]), (31,
   [(1561, 1561), (1615, 1615)]), (32, [(1562, 1562), (1616, 1616)]), (33, [(1617, 1617)]), (34, [(1618, 1618)]),
   (35, [(1648, 1648)]), (36, [(1809, 1809)]), (84, [(3157, 3157)]), (91, [(3158, 3158)]), (103, [(3640, 3641)]),
   (107, [(3656, 3659)]), (118, [(3768, 3769)]), (122, [(3784, 3787)]), (129, [(3953, 3953)]), (130, [(3954, 3954),
   (3962, 3965), (3968, 3968)]), (132, [(3956, 3956)]), (202, [(801, 802), (807, 808), (7632, 7632)]), (214, [(7630,
   7630)]), (216, [(795, 795), (3897, 3897), (119141, 119142), (119150, 119154)]), (218, [(7674, 7674), (12330,
   12330)]), (220, [(790, 793), (796, 800), (803, 806), (809, 819), (825, 828), (839, 841), (845, 846), (851, 854),
   (857, 858), (1425, 1425), (1430, 1430), (1435, 1435), (1442, 1447), (1450, 1450), (1477, 1477), (1621, 1622),
   (1628, 1628), (1631, 1631), (1763, 1763), (1770, 1770), (1773, 1773), (1841, 1841), (1844, 1844), (1847, 1849),
   (1851, 1852), (1854, 1854), (1858, 1858), (1860, 1860), (1862, 1862), (1864, 1864), (2034, 2034), (2045, 2045),
   (2137, 2139), (2201, 2203), (2255, 2259), (2275, 2275), (2278, 2278), (2281, 2281), (2285, 2287), (2294, 2294),
   (2297, 2298), (2386, 2386), (3864, 3865), (3893, 3893), (3895, 3895), (4038, 4038), (4237, 4237), (6459, 6459),
   (6680, 6680), (6783, 6783), (6837, 6842), (6845, 6845), (6847, 6848), (6851, 6852), (6858, 6858), (7020, 7020),
   (7381, 7385), (7388, 7391), (7405, 7405), (7618, 7618), (7626, 7626), (7631, 7631), (7673, 7673), (7677, 7677),
   (7679, 7679), (8424, 8424), (8428, 8431), (43307, 43309), (43700, 43700), (65063, 65069), (66045, 66045), (66272,
   66272), (68109, 68109), (68154, 68154), (68326, 68326), (69446, 69447), (69451, 69451), (69453, 69456), (69507,
   69507), (69509, 69509), (119163, 119170), (119178, 119179), (125136, 125142)]), (222, [(1434, 1434), (1453,
   1453), (6457, 6457), (12333, 12333)]), (224, [(12334, 12335)]), (226, [(119149, 119149)]), (228, [(1454, 1454),
   (6313, 6313), (7671, 7672), (12331, 12331)]), (230, [(768, 788), (829, 836), (838, 838), (842, 844), (848, 850),
   (855, 855), (859, 859), (867, 879), (1155, 1159), (1426, 1429), (1431, 1433), (1436, 1441), (1448, 1449), (1451,
   1452), (1455, 1455), (1476, 1476), (1552, 1559), (1619, 1620), (1623, 1627), (1629, 1630), (1750, 1756), (1759,
   1762), (1764, 1764), (1767, 1768), (1771, 1772), (1840, 1840), (1842, 1843), (1845, 1846), (1850, 1850), (1853,
   1853), (1855, 1857), (1859, 1859), (1861, 1861), (1863, 1863), (1865, 1866), (2027, 2033), (2035, 2035), (2070,
   2073), (2075, 2083), (2085, 2087), (2089, 2093), (2200, 2200), (2204, 2207), (2250, 2254), (2260, 2273), (2276,
   2277), (2279, 2280), (2282, 2284), (2291, 2293), (2295, 2296), (2299, 2303), (2385, 2385), (2387, 2388), (2558,
   2558), (3970, 3971), (3974, 3975), (4957, 4959), (6109, 6109), (6458, 6458), (6679, 6679), (6773, 6780), (6832,
   6836), (6843, 6844), (6849, 6850), (6853, 6857), (6859, 6862), (7019, 7019), (7021, 7027), (7376, 7378), (7386,
   7387), (7392, 7392), (7412, 7412), (7416, 7417), (7616, 7617), (7619, 7625), (7627, 7628), (7633, 7669), (7675,
   7675), (7678, 7678), (8400, 8401), (8404, 8407), (8411, 8412), (8417, 8417), (8423, 8423), (8425, 8425), (8432,
   8432), (11503, 11505), (11744, 11775), (42607, 42607), (42612, 42621), (42654, 42655), (42736, 42737), (43232,
   43249), (43696, 43696), (43698, 43699), (43703, 43704), (43710, 43711), (43713, 43713), (65056, 65062), (65070,
   65071), (66422, 66426), (68111, 68111), (68152, 68152), (68325, 68325), (68900, 68903), (69291, 69292), (69448,
   69450), (69452, 69452), (69506, 69506), (69508, 69508), (69888, 69890), (70502, 70508), (70512, 70516), (70750,
   70750), (92976, 92982), (119173, 119177), (119210, 119213), (119362, 119364), (122880, 122886), (122888, 122904),
   (122907, 122913), (122915, 122916), (122918, 122922), (123184, 123190), (123566, 123566), (123628, 123631),
   (125252, 125257)]), (232, [(789, 789), (794, 794), (856, 856), (7670, 7670), (12332, 12332)]), (233, [(860, 860),
   (863, 863), (866, 866), (7676, 7676)]), (234, [(861, 862), (864, 865), (7629, 7629)]), (240, [(837, 837)])]

/-- The class of a mark; what is no mark is of class 0. -/
def markClass (c : Char) : Nat := ((markClasses.find? fun cls => CodeRange.covers cls.2 c).map (·.1)).getD 0

/-- Composed characters with the characters that they are composed of. -/
def composedRows : List String :=
  ["c0:41+300 41+301 41+302 41+303 41+308 41+30a c6 43+327 45+300 45+301 45+302 45+308 49+300 49+301 49+302 49+308",
   "d0:d0 4e+303 4f+300 4f+301 4f+302 4f+303 4f+308;d9:55+300 55+301 55+302 55+308 59+301",
   "e0:61+300 61+301 61+302 61+303 61+308 61+30a e6 63+327 65+300 65+301 65+302 65+308 69+300 69+301 69+302 69+308",
   "f0:f0 6e+303 6f+300 6f+301 6f+302 6f+303 6f+308",
   "f9:75+300 75+301 75+302 75+308 79+301 fe 79+308 41+304 61+304 41+306 61+306 41+328 61+328 43+301 63+301 43+302",
   "109:63+302 43+307 63+307 43+30c 63+30c 44+30c 64+30c",
   "112:45+304 65+304 45+306 65+306 45+307 65+307 45+328 65+328 45+30c 65+30c 47+302 67+302 47+306 67+306 47+307",
   "121:67+307 47+327 67+327 48+302 68+302;128:49+303 69+303 49+304 69+304 49+306 69+306 49+328 69+328 49+307",
   "134:4a+302 6a+302 4b+327 6b+327 138 4c+301 6c+301 4c+327 6c+327 4c+30c 6c+30c",
   "143:4e+301 6e+301 4e+327 6e+327 4e+30c 6e+30c;14c:4f+304 6f+304 4f+306 6f+306 4f+30b 6f+30b",
   "154:52+301 72+301 52+327 72+327 52+30c 72+30c 53+301 73+301 53+302 73+302 53+327 73+327 53+30c 73+30c 54+327",
   "163:74+327 54+30c 74+30c",
   "168:55+303 75+303 55+304 75+304 55+306 75+306 55+30a 75+30a 55+30b 75+30b 55+328 75+328 57+302 77+302 59+302",
   "177:79+302 59+308 5a+301 7a+301 5a+307 7a+307 5a+30c 7a+30c;1a0:4f+31b 6f+31b;1af:55+31b 75+31b",
   "1cd:41+30c 61+30c 49+30c 69+30c 4f+30c 6f+30c 55+30c 75+30c dc+304 fc+304 dc+301 fc+301 dc+30c fc+30c dc+300",
   "1dc:fc+300 1dd c4+304 e4+304 226+304 227+304 c6+304 e6+304",
   "1e6:47+30c 67+30c 4b+30c 6b+30c 4f+328 6f+328 1ea+304 1eb+304 1b7+30c 292+30c 6a+30c;1f4:47+301 67+301",
   "1f8:4e+300 6e+300 c5+301 e5+301 c6+301 e6+301 d8+301 f8+301 41+30f 61+30f 41+311 61+311 45+30f 65+30f 45+311",
   "207:65+311 49+30f 69+30f 49+311 69+311 4f+30f 6f+30f 4f+311 6f+311 52+30f 72+30f 52+311 72+311 55+30f 75+30f",
   "216:55+311 75+311 53+326 73+326 54+326 74+326;21e:48+30c 68+30c",
   "226:41+307 61+307 45+327 65+327 d6+304 f6+304 d5+304 f5+304 4f+307 6f+307 22e+304 22f+304 59+304 79+304",
   "385:a8+301 391+301 387 395+301 397+301 399+301 38b 39f+301 38d 3a5+301 3a9+301 3ca+301",
   "3aa:399+308 3a5+308 3b1+301 3b5+301 3b7+301 3b9+301 3cb+301;3ca:3b9+308 3c5+308 3bf+301 3c5+301 3c9+301",
   "3d3:3d2+301 3d2+308;400:415+300 415+308 402 413+301;407:406+308;40c:41a+301 418+300 423+306;419:418+306",
   "439:438+306;450:435+300 435+308 452 433+301;457:456+308;45c:43a+301 438+300 443+306;476:474+30f 475+30f",
   "4c1:416+306 436+306;4d0:410+306 430+306 410+308 430+308;4d6:415+306 435+306",
   "4da:4d8+308 4d9+308 416+308 436+308 417+308 437+308;4e2:418+304 438+304 418+308 438+308 41e+308 43e+308",
   "4ea:4e8+308 4e9+308 42d+308 44d+308 423+304 443+304 423+308 443+308 423+30b 443+30b 427+308 447+308",
   "4f8:42b+308 44b+308;622:627+653 627+654 648+654 627+655 64a+654;6c0:6d5+654 6c1 6c1+654;6d3:6d2+654;929:928+93c",
   "931:930+93c;934:933+93c;9cb:9c7+9be 9c7+9d7;b48:b47+b56;b4b:b47+b3e b47+b57;b94:b92+bd7",
   "bca:bc6+bbe bc7+bbe bc6+bd7;c48:c46+c56;cc0:cbf+cd5;cc7:cc6+cd5 cc6+cd6 cc9 cc6+cc2 cca+cd5",
   "d4a:d46+d3e d47+d3e d46+d57;dda:dd9+dca ddb dd9+dcf ddc+dca dd9+ddf;1026:1025+102e",
   "1b06:1b05+1b35 1b07 1b07+1b35 1b09 1b09+1b35 1b0b 1b0b+1b35 1b0d 1b0d+1b35;1b12:1b11+1b35",
   "1b3b:1b3a+1b35 1b3c 1b3c+1b35;1b40:1b3e+1b35 1b3f+1b35 1b42 1b42+1b35",
   "1e00:41+325 61+325 42+307 62+307 42+323 62+323 42+331 62+331 c7+301 e7+301 44+307 64+307 44+323 64+323 44+331",
   "1e0f:64+331 44+327 64+327 44+32d 64+32d 112+300 113+300 112+301 113+301 45+32d 65+32d 45+330 65+330 228+306",
   "1e1d:229+306 46+307 66+307 47+304 67+304 48+307 68+307 48+323 68+323 48+308 68+308 48+327 68+327 48+32e 68+32e",
   "1e2c:49+330 69+330 cf+301 ef+301 4b+301 6b+301 4b+323 6b+323 4b+331 6b+331 4c+323 6c+323 1e36+304 1e37+304",
   "1e3a:4c+331 6c+331 4c+32d 6c+32d 4d+301 6d+301 4d+307 6d+307 4d+323 6d+323 4e+307 6e+307 4e+323 6e+323 4e+331",
   "1e49:6e+331 4e+32d 6e+32d d5+301 f5+301 d5+308 f5+308 14c+300 14d+300 14c+301 14d+301 50+301 70+301 50+307",
   "1e57:70+307 52+307 72+307 52+323 72+323 1e5a+304 1e5b+304 52+331 72+331 53+307 73+307 53+323 73+323 15a+307",
   "1e65:15b+307 160+307 161+307 1e62+307 1e63+307 54+307 74+307 54+323 74+323 54+331 74+331 54+32d 74+32d 55+324",
   "1e73:75+324 55+330 75+330 55+32d 75+32d 168+301 169+301 16a+308 16b+308 56+303 76+303 56+323 76+323 57+300",
   "1e81:77+300 57+301 77+301 57+308 77+308 57+307 77+307 57+323 77+323 58+307 78+307 58+308 78+308 59+307 79+307",
   "1e90:5a+302 7a+302 5a+323 7a+323 5a+331 7a+331 68+331 74+308 77+30a 79+30a 1e9a 17f+307",
   "1ea0:41+323 61+323 41+309 61+309 c2+301 e2+301 c2+300 e2+300 c2+309 e2+309 c2+303 e2+303 1ea0+302 1ea1+302",
   "1eae:102+301 103+301 102+300 103+300 102+309 103+309 102+303 103+303 1ea0+306 1ea1+306 45+323 65+323 45+309",
   "1ebb:65+309 45+303 65+303 ca+301 ea+301 ca+300 ea+300 ca+309 ea+309 ca+303 ea+303 1eb8+302 1eb9+302 49+309",
   "1ec9:69+309 49+323 69+323 4f+323 6f+323 4f+309 6f+309 d4+301 f4+301 d4+300 f4+300 d4+309 f4+309 d4+303 f4+303",
   "1ed8:1ecc+302 1ecd+302 1a0+301 1a1+301 1a0+300 1a1+300 1a0+309 1a1+309 1a0+303 1a1+303 1a0+323 1a1+323 55+323",
   "1ee5:75+323 55+309 75+309 1af+301 1b0+301 1af+300 1b0+300 1af+309 1b0+309 1af+303 1b0+303 1af+323 1b0+323 59+300",
   "1ef3:79+300 59+323 79+323 59+309 79+309 59+303 79+303",
   "1f00:3b1+313 3b1+314 1f00+300 1f01+300 1f00+301 1f01+301 1f00+342 1f01+342 391+313 391+314 1f08+300 1f09+300",
   "1f0c:1f08+301 1f09+301 1f08+342 1f09+342 3b5+313 3b5+314 1f10+300 1f11+300 1f10+301 1f11+301",
   "1f18:395+313 395+314 1f18+300 1f19+300 1f18+301 1f19+301",
   "1f20:3b7+313 3b7+314 1f20+300 1f21+300 1f20+301 1f21+301 1f20+342 1f21+342 397+313 397+314 1f28+300 1f29+300",
   "1f2c:1f28+301 1f29+301 1f28+342 1f29+342 3b9+313 3b9+314 1f30+300 1f31+300 1f30+301 1f31+301 1f30+342 1f31+342",
   "1f38:399+313 399+314 1f38+300 1f39+300 1f38+301 1f39+301 1f38+342 1f39+342 3bf+313 3bf+314 1f40+300 1f41+300",
   "1f44:1f40+301 1f41+301;1f48:39f+313 39f+314 1f48+300 1f49+300 1f48+301 1f49+301",
   "1f50:3c5+313 3c5+314 1f50+300 1f51+300 1f50+301 1f51+301 1f50+342 1f51+342 1f58 3a5+314 1f5a 1f59+300 1f5c",
   "1f5d:1f59+301 1f5e 1f59+342 3c9+313 3c9+314 1f60+300 1f61+300 1f60+301 1f61+301 1f60+342 1f61+342 3a9+313",
   "1f69:3a9+314 1f68+300 1f69+300 1f68+301 1f69+301 1f68+342 1f69+342 3b1+300 1f71 3b5+300 1f73 3b7+300 1f75",
   "1f76:3b9+300 1f77 3bf+300 1f79 3c5+300 1f7b 3c9+300",
   "1f80:1f00+345 1f01+345 1f02+345 1f03+345 1f04+345 1f05+345 1f06+345 1f07+345 1f08+345 1f09+345 1f0a+345 1f0b+345",
   "1f8c:1f0c+345 1f0d+345 1f0e+345 1f0f+345 1f20+345 1f21+345 1f22+345 1f23+345 1f24+345 1f25+345 1f26+345 1f27+345",
   "1f98:1f28+345 1f29+345 1f2a+345 1f2b+345 1f2c+345 1f2d+345 1f2e+345 1f2f+345 1f60+345 1f61+345 1f62+345 1f63+345",
   "1fa4:1f64+345 1f65+345 1f66+345 1f67+345 1f68+345 1f69+345 1f6a+345 1f6b+345 1f6c+345 1f6d+345 1f6e+345 1f6f+345",
   "1fb0:3b1+306 3b1+304 1f70+345 3b1+345 3ac+345 1fb5 3b1+342 1fb6+345 391+306 391+304 391+300 1fbb 391+345",
   "1fc1:a8+342 1f74+345 3b7+345 3ae+345 1fc5 3b7+342 1fc6+345 395+300 1fc9 397+300 1fcb 397+345 1fbf+300 1fbf+301",
   "1fcf:1fbf+342 3b9+306 3b9+304 3ca+300;1fd6:3b9+342 3ca+342 399+306 399+304 399+300",
   "1fdd:1ffe+300 1ffe+301 1ffe+342 3c5+306 3c5+304 3cb+300 1fe3 3c1+313 3c1+314 3c5+342 3cb+342 3a5+306 3a5+304",
   "1fea:3a5+300 1feb 3a1+314 a8+300",
   "1ff2:1f7c+345 3c9+345 3ce+345 1ff5 3c9+342 1ff6+345 39f+300 1ff9 3a9+300 1ffb 3a9+345;219a:2190+338 2192+338",
   "21ae:2194+338;21cd:21d0+338 21d4+338 21d2+338;2204:2203+338;2209:2208+338;220c:220b+338",
   "2224:2223+338 2225 2225+338;2241:223c+338;2244:2243+338;2247:2245+338 2248 2248+338;2260:3d+338 2261 2261+338",
   "226d:224d+338 3c+338 3e+338 2264+338 2265+338;2274:2272+338 2273+338;2278:2276+338 2277+338",
   "2280:227a+338 227b+338;2284:2282+338 2283+338;2288:2286+338 2287+338;22ac:22a2+338 22a8+338 22a9+338 22ab+338",
   "22e0:227c+338 227d+338 2291+338 2292+338;22ea:22b2+338 22b3+338 22b4+338 22b5+338",
   "304c:304b+3099 304d 304d+3099 304f 304f+3099 3051 3051+3099 3053 3053+3099 3055 3055+3099 3057 3057+3099 3059",
   "305a:3059+3099 305b 305b+3099 305d 305d+3099 305f 305f+3099 3061 3061+3099",
   "3065:3064+3099 3066 3066+3099 3068 3068+3099",
   "3070:306f+3099 306f+309a 3072 3072+3099 3072+309a 3075 3075+3099 3075+309a 3078 3078+3099 3078+309a 307b",
   "307c:307b+3099 307b+309a;3094:3046+3099;309e:309d+3099",
   "30ac:30ab+3099 30ad 30ad+3099 30af 30af+3099 30b1 30b1+3099 30b3 30b3+3099 30b5 30b5+3099 30b7 30b7+3099 30b9",
   "30ba:30b9+3099 30bb 30bb+3099 30bd 30bd+3099 30bf 30bf+3099 30c1 30c1+3099",
   "30c5:30c4+3099 30c6 30c6+3099 30c8 30c8+3099",
   "30d0:30cf+3099 30cf+309a 30d2 30d2+3099 30d2+309a 30d5 30d5+3099 30d5+309a 30d8 30d8+3099 30d8+309a 30db",
   "30dc:30db+3099 30db+309a;30f4:30a6+3099;30f7:30ef+3099 30f0+3099 30f1+3099 30f2+3099;30fe:30fd+3099",
   "1109a:11099+110ba 1109b 1109b+110ba;110ab:110a5+110ba;1112e:11131+11127 11132+11127",
   "1134b:11347+1133e 11347+11357;114bb:114b9+114ba 114b9+114b0 114bd 114b9+114bd;115ba:115b8+115af 115b9+115af",
   "11938:11935+11930"]

/-- What composed characters are composed of. -/
def composedTable : CharTable := .ofRows composedRows

/-- The two characters that a character is composed of. -/
def parts? (c : Char) : Option (Char × Char) :=
  match composedTable.get? c with
  | some [first, second] => some (first, second)
  | _ => none

/-- The composed characters by the characters that they are composed of. -/
def composites : List ((Char × Char) × Char) :=
  composedTable.flatMap fun block =>
    (block.images.zipIdx.filterMap fun (image, i) =>
      match image with
      | [first, second] => some ((first, second), Char.ofNat (block.first + i))
      | _ => none)

/-- The parts of a Hangul syllable: a consonant, a vowel, and perhaps another consonant. -/
def syllableParts? (c : Char) : Option (List Char) :=
  let n := c.toNat - 0xAC00
  if 0xAC00 ≤ c.toNat && n < 11172 then
    let start := [Char.ofNat (0x1100 + n / 588), Char.ofNat (0x1161 + n / 28 % 21)]
    some (if n % 28 = 0 then start else start ++ [Char.ofNat (0x11A7 + n % 28)])
  else none

/-- The Hangul syllable of a consonant and a vowel, or of a syllable and a consonant behind it. -/
def syllable? (first second : Char) : Option Char :=
  let (a, b) := (first.toNat, second.toNat)
  if 0x1100 ≤ a && a < 0x1113 && 0x1161 ≤ b && b < 0x1176 then
    some (Char.ofNat (0xAC00 + ((a - 0x1100) * 21 + (b - 0x1161)) * 28))
  else if 0xAC00 ≤ a && a - 0xAC00 < 11172 && (a - 0xAC00) % 28 = 0 && 0x11A7 < b && b < 0x11C3 then
    some (Char.ofNat (a + (b - 0x11A7)))
  else none

/-- The character that two characters make. -/
def composite? (first second : Char) : Option Char :=
  (syllable? first second).orElse fun () => composites.lookup (first, second)

/-- The text with the marks behind each character in the order of their classes. Marks of one class stay as they are. -/
def orderMarks : List Char → List Char
  | [] => []
  | c :: rest =>
    let ordered := orderMarks rest
    if markClass c = 0 then c :: ordered
    else
      let lower := ordered.takeWhile fun other => markClass other ≠ 0 && markClass other < markClass c
      lower ++ c :: ordered.drop lower.length

/-- Composes a character with what is behind it, where the last mark that stays between is of some class; gives the
character and what stays. -/
def absorb (c : Char) (between : Nat) : List Char → Char × List Char
  | [] => (c, [])
  | next :: rest =>
    let cls := markClass next
    let stays (between : Nat) : Char × List Char :=
      let (c, left) := absorb c between rest
      (c, next :: left)
    if between ≠ 0 && cls = 0 then (c, next :: rest)
    else if between ≠ 0 && cls ≤ between then stays between
    else
      match composite? c next with
      | some composed => absorb composed between rest
      | none => if cls = 0 then (c, next :: rest) else stays cls

/-- Nothing is added to what stays. -/
theorem length_absorb_le (c : Char) (between : Nat) (text : List Char) :
    (absorb c between text).2.length ≤ text.length := by
  fun_induction absorb c between text <;> grind

/-- The text with every character composed with what is behind it. -/
def compose : List Char → List Char
  | [] => []
  | c :: rest => (absorb c 0 rest).1 :: compose (absorb c 0 rest).2
termination_by text => text.length
decreasing_by
  have := length_absorb_le c 0 rest
  simp only [List.length_cons]
  omega

end FrontPage.Text
