import WalletTools.Text.Marks

/-! The direction that characters of names are written in. Code points that stand in no name may lie in
the same ranges as their neighbours. -/
namespace WalletTools.Text

/-- How a character takes part in the direction of a text. -/
inductive Direction
  | fromLeft
  | fromRight
  | number
  | arabicNumber
  | neutral
  | mark
deriving DecidableEq, Repr

def fromRightPoints : CodeRanges :=
  #[(1470, 1470), (1472, 1472), (1475, 1475), (1478, 1478), (1488, 1524), (1544, 1544),
    (1547, 1547), (1549, 1549), (1563, 1610), (1645, 1647), (1649, 1749), (1765, 1766),
    (1774, 1775), (1786, 1808), (1810, 1839), (1869, 1957), (1969, 2026), (2036, 2037),
    (2042, 2042), (2046, 2069), (2074, 2074), (2084, 2084), (2088, 2088), (2096, 2136),
    (2142, 2191), (2208, 2249), (64434, 64466), (64912, 64974), (65139, 65139), (67584, 67867),
    (67872, 68096), (68112, 68149), (68160, 68324), (68331, 68405), (68416, 68899),
    (68928, 68943), (68974, 69007), (69248, 69289), (69293, 69336), (69376, 69445),
    (69457, 69505), (69510, 69622), (124928, 125135), (125218, 125251), (125259, 126269)]

def arabicNumbers : CodeRanges :=
  #[(1632, 1641), (1643, 1644), (68912, 68921), (69216, 69246)]

def numbers : CodeRanges :=
  #[(48, 57), (1776, 1785), (66273, 66299)]

def neutrals : CodeRanges :=
  #[(0, 8), (14, 27), (33, 47), (58, 64), (91, 96), (123, 215), (247, 247), (697, 698),
    (706, 719), (722, 749), (751, 767), (885, 885), (1014, 1014), (1418, 1423), (1542, 1543),
    (1545, 1546), (1548, 1548), (1550, 1551), (1642, 1642), (1758, 1758), (1769, 1769),
    (2038, 2041), (2546, 2547), (2555, 2555), (2801, 2801), (3059, 3066), (3192, 3198),
    (3647, 3647), (3898, 3901), (5008, 5017), (5120, 5120), (5787, 5788), (6107, 6107),
    (6128, 6154), (6464, 6469), (6622, 6655), (8204, 8384), (8452, 8525), (8586, 9013),
    (9083, 9108), (9110, 9254), (9280, 9899), (9901, 10239), (10496, 11157), (11159, 11263),
    (11493, 11498), (11513, 11519), (11776, 12292), (12296, 12320), (12336, 12336),
    (12343, 12343), (12349, 12351), (12448, 12448), (12539, 12539), (12736, 12771),
    (19904, 19967), (42128, 42182), (42509, 42511), (42611, 42611), (42622, 42623),
    (42752, 42785), (42888, 42888), (43048, 43051), (43064, 43065), (43124, 43127),
    (43882, 43883), (64830, 64847), (64975, 65023), (65093, 65094), (65793, 65793),
    (65856, 65932), (65936, 65952), (67871, 67871), (68409, 68415), (69714, 69733),
    (71264, 71276), (73685, 73713), (94178, 94178), (119273, 119361), (119365, 119365),
    (119552, 119638), (123647, 123647), (126704, 127279), (127341, 127343), (127405, 127405),
    (127584, 128727), (128733, 128883), (128896, 128984), (128992, 129201), (129280, 129619),
    (129632, 129652), (129656, 129670), (129680, 129708), (129712, 129722), (129728, 129733),
    (129744, 129753), (129760, 129767), (129776, 129782), (129792, 129994)]

/-- The direction of a character; most are written from the left. -/
def direction (char : Char) : Direction :=
  if nonspacingMarks.contains char then .mark
  else if fromRightPoints.contains char then .fromRight
  else if numbers.contains char then .number
  else if arabicNumbers.contains char then .arabicNumber
  else if neutrals.contains char then .neutral
  else .fromLeft

end WalletTools.Text
