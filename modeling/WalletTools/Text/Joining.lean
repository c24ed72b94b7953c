import WalletTools.Text.CodeRanges

/-! Letters that change their shape to join the letters beside them. -/
namespace WalletTools.Text

/-- Letters that join the one after them. -/
def joinsNext : CodeRanges :=
  #[(1568, 1568), (1574, 1574), (1576, 1576), (1578, 1582), (1587, 1599), (1601, 1607),
    (1609, 1610), (1646, 1647), (1656, 1671), (1690, 1727), (1729, 1730), (1740, 1740),
    (1742, 1742), (1744, 1745), (1786, 1788), (1791, 1791), (1810, 1812), (1818, 1821),
    (1823, 1831), (1833, 1833), (1835, 1835), (1837, 1838), (1870, 1880), (1884, 1898),
    (1901, 1904), (1906, 1906), (1909, 1911), (1914, 1919), (1994, 2026), (2113, 2117),
    (2120, 2120), (2122, 2131), (2133, 2133), (2144, 2144), (2146, 2149), (2152, 2152),
    (2182, 2182), (2185, 2189), (2191, 2191), (2208, 2217), (2223, 2224), (2227, 2232),
    (2234, 2248), (6151, 6151), (6176, 6264), (6279, 6312), (6314, 6314), (43072, 43122),
    (68288, 68292), (68301, 68301), (68307, 68316), (68318, 68320), (68331, 68334),
    (68480, 68480), (68482, 68482), (68486, 68488), (68490, 68491), (68493, 68493),
    (68496, 68496), (68525, 68526), (68864, 68897), (68899, 68899), (69315, 69316),
    (69318, 69319), (69424, 69426), (69428, 69444), (69457, 69459), (69488, 69491),
    (69494, 69505), (69552, 69552), (69554, 69555), (69560, 69560), (69563, 69564),
    (69566, 69567), (69569, 69569), (69572, 69572), (69578, 69579), (125184, 125251)]

/-- Letters that join the one before them. -/
def joinsPrevious : CodeRanges :=
  #[(1568, 1568), (1570, 1599), (1601, 1610), (1646, 1647), (1649, 1651), (1653, 1747),
    (1749, 1749), (1774, 1775), (1786, 1788), (1791, 1791), (1808, 1808), (1810, 1839),
    (1869, 1919), (1994, 2026), (2112, 2136), (2144, 2144), (2146, 2149), (2151, 2154),
    (2160, 2178), (2182, 2182), (2185, 2191), (2208, 2220), (2222, 2248), (6151, 6151),
    (6176, 6264), (6279, 6312), (6314, 6314), (43072, 43121), (68288, 68293), (68295, 68295),
    (68297, 68298), (68302, 68310), (68312, 68321), (68324, 68324), (68331, 68335),
    (68480, 68497), (68521, 68526), (68865, 68899), (69314, 69316), (69318, 69319),
    (69424, 69444), (69457, 69460), (69488, 69505), (69552, 69552), (69554, 69558),
    (69560, 69567), (69569, 69572), (69577, 69578), (125184, 125251)]

end WalletTools.Text
