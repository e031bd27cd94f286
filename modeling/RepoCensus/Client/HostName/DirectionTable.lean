/-!
# Characters in their surroundings

The classes of characters that decide where a permitted character may stand in a label: the direction
in which it is written, whether its shape joins with its neighbours, and the script it belongs to.
-/

namespace RepoCensus.HostName

/-- The permitted code points that are written from right to left. -/
def leftwardRanges : List (Nat × Nat) :=
  [(1488, 1514), (1519, 1524), (1568, 1599), (1601, 1610), (1646, 1647), (1649, 1652), (1657, 1747),
   (1749, 1749), (1765, 1766), (1774, 1775), (1786, 1791), (1808, 1808), (1810, 1839), (1869, 1957),
   (1969, 1969), (1984, 2026), (2036, 2037), (2048, 2069), (2074, 2074), (2084, 2084), (2088, 2088),
   (2112, 2136), (2144, 2154), (2160, 2183), (2185, 2190), (2208, 2249), (65139, 65139),
   (67584, 67589), (67592, 67592), (67594, 67637), (67639, 67640), (67644, 67644), (67647, 67669),
   (67680, 67702), (67712, 67742), (67808, 67826), (67828, 67829), (67840, 67861), (67872, 67897),
   (67968, 68023), (68030, 68031), (68096, 68096), (68112, 68115), (68117, 68119), (68121, 68149),
   (68192, 68220), (68224, 68252), (68288, 68295), (68297, 68324), (68352, 68405), (68416, 68437),
   (68448, 68466), (68480, 68497), (68608, 68680), (68800, 68850), (68864, 68899), (69248, 69289),
   (69296, 69297), (69376, 69404), (69415, 69415), (69424, 69445), (69488, 69505), (69552, 69572),
   (69600, 69622), (124928, 125124), (125218, 125251), (125259, 125259), (125264, 125273)]

/-- The permitted code points without a direction of their own, marks apart. -/
def neutralRanges : List (Nat × Nat) :=
  [(45, 45), (183, 183), (697, 698), (710, 719), (748, 748), (885, 885), (8204, 8205),
   (11823, 11823), (12539, 12539), (42623, 42623), (42775, 42783), (42888, 42888)]

def joiningBothRanges : List (Nat × Nat) :=
  [(1568, 1568), (1574, 1574), (1576, 1576), (1578, 1582), (1587, 1599), (1601, 1607),
   (1609, 1610), (1646, 1647), (1656, 1671), (1690, 1727), (1729, 1730), (1740, 1740),
   (1742, 1742), (1744, 1745), (1786, 1788), (1791, 1791), (1810, 1812), (1818, 1821),
   (1823, 1831), (1833, 1833), (1835, 1835), (1837, 1838), (1870, 1880), (1884, 1898),
   (1901, 1904), (1906, 1906), (1909, 1911), (1914, 1919), (1994, 2026), (2113, 2117),
   (2120, 2120), (2122, 2131), (2133, 2133), (2144, 2144), (2146, 2149), (2152, 2152),
   (2182, 2182), (2185, 2189), (2191, 2191), (2208, 2217), (2223, 2224), (2227, 2232),
   (2234, 2248), (6151, 6151), (6176, 6264), (6279, 6312), (6314, 6314), (43072, 43121),
   (68288, 68292), (68307, 68310), (68312, 68316), (68318, 68320), (68331, 68334), (68480, 68480),
   (68482, 68482), (68486, 68488), (68490, 68491), (68493, 68493), (68496, 68496), (68525, 68526),
   (68865, 68897), (68899, 68899), (69315, 69316), (69318, 69319), (69424, 69426), (69428, 69444),
   (69457, 69459), (69488, 69491), (69494, 69505), (69552, 69552), (69554, 69555), (69560, 69560),
   (69563, 69564), (69566, 69567), (69569, 69569), (69572, 69572), (69578, 69578),
   (125184, 125251)]

def joiningLeftRanges : List (Nat × Nat) :=
  [(43122, 43122), (68301, 68301), (68311, 68311), (68864, 68864), (69579, 69579)]

def joiningRightRanges : List (Nat × Nat) :=
  [(1570, 1573), (1575, 1575), (1577, 1577), (1583, 1586), (1608, 1608), (1649, 1651),
   (1653, 1655), (1672, 1689), (1728, 1728), (1731, 1739), (1741, 1741), (1743, 1743),
   (1746, 1747), (1749, 1749), (1774, 1775), (1808, 1808), (1813, 1817), (1822, 1822),
   (1832, 1832), (1834, 1834), (1836, 1836), (1839, 1839), (1869, 1869), (1881, 1883),
   (1899, 1900), (1905, 1905), (1907, 1908), (1912, 1913), (2112, 2112), (2118, 2119),
   (2121, 2121), (2132, 2132), (2134, 2136), (2151, 2151), (2153, 2154), (2160, 2178),
   (2190, 2190), (2218, 2220), (2222, 2222), (2225, 2226), (2233, 2233), (68293, 68293),
   (68295, 68295), (68297, 68298), (68302, 68306), (68317, 68317), (68321, 68321), (68324, 68324),
   (68335, 68335), (68481, 68481), (68483, 68485), (68489, 68489), (68492, 68492), (68494, 68495),
   (68497, 68497), (68521, 68524), (68898, 68898), (69314, 69314), (69427, 69427), (69460, 69460),
   (69492, 69493), (69556, 69558), (69561, 69562), (69565, 69565), (69570, 69571), (69577, 69577)]

/-- What is passed over between letters that join, nonspacing marks apart: marks whose kind is unknown,
and signs that do not show. -/
def passedOverRanges : List (Nat × Nat) :=
  [(173, 173), (1564, 1564), (1807, 1807), (2199, 2199), (3790, 3790), (6863, 6877), (6880, 6891),
   (8203, 8203), (8206, 8207), (8234, 8238), (8288, 8292), (8298, 8303), (65279, 65279),
   (65529, 65531), (68969, 68973), (69370, 69375), (70209, 70209), (70587, 70592), (70606, 70606),
   (70608, 70608), (70610, 70610), (70625, 70626), (72544, 72544), (72546, 72548), (72550, 72550),
   (73472, 73473), (73526, 73530), (73536, 73536), (73538, 73538), (73562, 73562), (78896, 78912),
   (78919, 78933), (90398, 90409), (90413, 90415), (113824, 113827), (119155, 119162),
   (123023, 123023), (124140, 124143), (124398, 124399), (124643, 124643), (124646, 124646),
   (124654, 124655), (124661, 124661), (125259, 125259), (917505, 917505), (917536, 917631)]

def greekRanges : List (Nat × Nat) :=
  [(880, 883), (885, 887), (890, 893), (895, 895), (900, 900), (902, 902), (904, 906), (908, 908),
   (910, 929), (931, 993), (1008, 1023), (7462, 7466), (7517, 7521), (7526, 7530), (7615, 7615),
   (7936, 7957), (7960, 7965), (7968, 8005), (8008, 8013), (8016, 8023), (8025, 8025), (8027, 8027),
   (8029, 8029), (8031, 8061), (8064, 8116), (8118, 8132), (8134, 8147), (8150, 8155), (8157, 8175),
   (8178, 8180), (8182, 8190), (8486, 8486), (43877, 43877), (65856, 65934), (65952, 65952),
   (119296, 119365)]

def hebrewRanges : List (Nat × Nat) :=
  [(1425, 1479), (1488, 1514), (1519, 1524), (64285, 64310), (64312, 64316), (64318, 64318),
   (64320, 64321), (64323, 64324), (64326, 64335)]

/-- The Japanese syllabaries and the Chinese characters. -/
def japaneseRanges : List (Nat × Nat) :=
  [(11904, 11929), (11931, 12019), (12032, 12245), (12293, 12293), (12295, 12295), (12321, 12329),
   (12344, 12347), (12353, 12438), (12445, 12447), (12449, 12538), (12541, 12543), (12784, 12799),
   (13008, 13054), (13056, 13143), (13312, 19903), (19968, 40959), (63744, 64109), (64112, 64217),
   (65382, 65391), (65393, 65437), (94178, 94179), (94192, 94198), (110576, 110579),
   (110581, 110587), (110589, 110590), (110592, 110882), (110898, 110898), (110928, 110930),
   (110933, 110933), (110948, 110951), (127488, 127488), (131072, 173791), (173824, 178205),
   (178208, 183981), (183984, 191456), (191472, 192093), (194560, 195101), (196608, 201546),
   (201552, 210041)]

end RepoCensus.HostName
