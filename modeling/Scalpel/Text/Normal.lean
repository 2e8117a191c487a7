/-!
Tables of characters as texts and ranges of code points: the ranks of marks, and the characters that
two others make together. A mark stands behind its letter; marks of different ranks may come in any
order and are put in the order of their ranks, marks of one rank stay in theirs. What is no mark has
rank zero.
-/

set_option autoImplicit false

namespace Scalpel.Text.Normal

/-- The entries of a table of which each line begins with a character and goes on with what it stands
for. -/
def entries (table : String) : List (Char × List Char) :=
  (table.toList.splitOn '\n').filterMap fun
    | c :: rest => some (c, rest)
    | [] => none

def inRange? {α : Type} (ranges : Array α) (bounds : α → Nat × Nat) (n : Nat) : Option α :=
  search 32 0 ranges.size
where
  /-- Search among the ranges from `low` to below `high`. Fuel: each step halves their number. -/
  search : Nat → Nat → Nat → Option α
    | 0, _, _ => none
    | fuel + 1, low, high =>
      if high ≤ low then none
      else
        let middle := (low + high) / 2
        match ranges[middle]? with
        | none => none
        | some range =>
          if n < (bounds range).1 then search fuel low middle
          else if (bounds range).2 < n then search fuel (middle + 1) high
          else some range

def isInRanges (ranges : Array (Nat × Nat)) (c : Char) : Bool :=
  (inRange? ranges id c.toNat).isSome

/-! ### Marks -/

/-- First and last code point of each range of marks, and their rank. -/
def rankRanges : Array (Nat × Nat × Nat) := #[
    (768, 788, 230), (789, 789, 232), (790, 793, 220), (794, 794, 232), (795, 795, 216),
    (796, 800, 220), (801, 802, 202), (803, 806, 220), (807, 808, 202), (809, 819, 220),
    (820, 824, 1), (825, 828, 220), (829, 836, 230), (837, 837, 240), (838, 838, 230),
    (839, 841, 220), (842, 844, 230), (845, 846, 220), (848, 850, 230), (851, 854, 220),
    (855, 855, 230), (856, 856, 232), (857, 858, 220), (859, 859, 230), (860, 860, 233),
    (861, 862, 234), (863, 863, 233), (864, 865, 234), (866, 866, 233), (867, 879, 230),
    (1155, 1159, 230), (1425, 1425, 220), (1426, 1429, 230), (1430, 1430, 220), (1431, 1433, 230),
    (1434, 1434, 222), (1435, 1435, 220), (1436, 1441, 230), (1442, 1447, 220), (1448, 1449, 230),
    (1450, 1450, 220), (1451, 1452, 230), (1453, 1453, 222), (1454, 1454, 228), (1455, 1455, 230),
    (1456, 1456, 10), (1457, 1457, 11), (1458, 1458, 12), (1459, 1459, 13), (1460, 1460, 14),
    (1461, 1461, 15), (1462, 1462, 16), (1463, 1463, 17), (1464, 1464, 18), (1465, 1466, 19),
    (1467, 1467, 20), (1468, 1468, 21), (1469, 1469, 22), (1471, 1471, 23), (1473, 1473, 24),
    (1474, 1474, 25), (1476, 1476, 230), (1477, 1477, 220), (1479, 1479, 18), (1552, 1559, 230),
    (1560, 1560, 30), (1561, 1561, 31), (1562, 1562, 32), (1611, 1611, 27), (1612, 1612, 28),
    (1613, 1613, 29), (1614, 1614, 30), (1615, 1615, 31), (1616, 1616, 32), (1617, 1617, 33),
    (1618, 1618, 34), (1619, 1620, 230), (1621, 1622, 220), (1623, 1627, 230), (1628, 1628, 220),
    (1629, 1630, 230), (1631, 1631, 220), (1648, 1648, 35), (1750, 1756, 230), (1759, 1762, 230),
    (1763, 1763, 220), (1764, 1764, 230), (1767, 1768, 230), (1770, 1770, 220), (1771, 1772, 230),
    (1773, 1773, 220), (1809, 1809, 36), (1840, 1840, 230), (1841, 1841, 220), (1842, 1843, 230),
    (1844, 1844, 220), (1845, 1846, 230), (1847, 1849, 220), (1850, 1850, 230), (1851, 1852, 220),
    (1853, 1853, 230), (1854, 1854, 220), (1855, 1857, 230), (1858, 1858, 220), (1859, 1859, 230),
    (1860, 1860, 220), (1861, 1861, 230), (1862, 1862, 220), (1863, 1863, 230), (1864, 1864, 220),
    (1865, 1866, 230), (2027, 2033, 230), (2034, 2034, 220), (2035, 2035, 230), (2045, 2045, 220),
    (2070, 2073, 230), (2075, 2083, 230), (2085, 2087, 230), (2089, 2093, 230), (2137, 2139, 220),
    (2200, 2200, 230), (2201, 2203, 220), (2204, 2207, 230), (2250, 2254, 230), (2255, 2259, 220),
    (2260, 2273, 230), (2275, 2275, 220), (2276, 2277, 230), (2278, 2278, 220), (2279, 2280, 230),
    (2281, 2281, 220), (2282, 2284, 230), (2285, 2287, 220), (2288, 2288, 27), (2289, 2289, 28),
    (2290, 2290, 29), (2291, 2293, 230), (2294, 2294, 220), (2295, 2296, 230), (2297, 2298, 220),
    (2299, 2303, 230), (2364, 2364, 7), (2381, 2381, 9), (2385, 2385, 230), (2386, 2386, 220),
    (2387, 2388, 230), (2492, 2492, 7), (2509, 2509, 9), (2558, 2558, 230), (2620, 2620, 7),
    (2637, 2637, 9), (2748, 2748, 7), (2765, 2765, 9), (2876, 2876, 7), (2893, 2893, 9),
    (3021, 3021, 9), (3132, 3132, 7), (3149, 3149, 9), (3157, 3157, 84), (3158, 3158, 91),
    (3260, 3260, 7), (3277, 3277, 9), (3387, 3388, 9), (3405, 3405, 9), (3530, 3530, 9),
    (3640, 3641, 103), (3642, 3642, 9), (3656, 3659, 107), (3768, 3769, 118), (3770, 3770, 9),
    (3784, 3787, 122), (3864, 3865, 220), (3893, 3893, 220), (3895, 3895, 220), (3897, 3897, 216),
    (3953, 3953, 129), (3954, 3954, 130), (3956, 3956, 132), (3962, 3965, 130), (3968, 3968, 130),
    (3970, 3971, 230), (3972, 3972, 9), (3974, 3975, 230), (4038, 4038, 220), (4151, 4151, 7),
    (4153, 4154, 9), (4237, 4237, 220), (4957, 4959, 230), (5908, 5909, 9), (5940, 5940, 9),
    (6098, 6098, 9), (6109, 6109, 230), (6313, 6313, 228), (6457, 6457, 222), (6458, 6458, 230),
    (6459, 6459, 220), (6679, 6679, 230), (6680, 6680, 220), (6752, 6752, 9), (6773, 6780, 230),
    (6783, 6783, 220), (6832, 6836, 230), (6837, 6842, 220), (6843, 6844, 230), (6845, 6845, 220),
    (6847, 6848, 220), (6849, 6850, 230), (6851, 6852, 220), (6853, 6857, 230), (6858, 6858, 220),
    (6859, 6862, 230), (6964, 6964, 7), (6980, 6980, 9), (7019, 7019, 230), (7020, 7020, 220),
    (7021, 7027, 230), (7082, 7083, 9), (7142, 7142, 7), (7154, 7155, 9), (7223, 7223, 7),
    (7376, 7378, 230), (7380, 7380, 1), (7381, 7385, 220), (7386, 7387, 230), (7388, 7391, 220),
    (7392, 7392, 230), (7394, 7400, 1), (7405, 7405, 220), (7412, 7412, 230), (7416, 7417, 230),
    (7616, 7617, 230), (7618, 7618, 220), (7619, 7625, 230), (7626, 7626, 220), (7627, 7628, 230),
    (7629, 7629, 234), (7630, 7630, 214), (7631, 7631, 220), (7632, 7632, 202), (7633, 7669, 230),
    (7670, 7670, 232), (7671, 7672, 228), (7673, 7673, 220), (7674, 7674, 218), (7675, 7675, 230),
    (7676, 7676, 233), (7677, 7677, 220), (7678, 7678, 230), (7679, 7679, 220), (8400, 8401, 230),
    (8402, 8403, 1), (8404, 8407, 230), (8408, 8410, 1), (8411, 8412, 230), (8417, 8417, 230),
    (8421, 8422, 1), (8423, 8423, 230), (8424, 8424, 220), (8425, 8425, 230), (8426, 8427, 1),
    (8428, 8431, 220), (8432, 8432, 230), (11503, 11505, 230), (11647, 11647, 9),
    (11744, 11775, 230), (12330, 12330, 218), (12331, 12331, 228), (12332, 12332, 232),
    (12333, 12333, 222), (12334, 12335, 224), (12441, 12442, 8), (42607, 42607, 230),
    (42612, 42621, 230), (42654, 42655, 230), (42736, 42737, 230), (43014, 43014, 9),
    (43052, 43052, 9), (43204, 43204, 9), (43232, 43249, 230), (43307, 43309, 220),
    (43347, 43347, 9), (43443, 43443, 7), (43456, 43456, 9), (43696, 43696, 230),
    (43698, 43699, 230), (43700, 43700, 220), (43703, 43704, 230), (43710, 43711, 230),
    (43713, 43713, 230), (43766, 43766, 9), (44013, 44013, 9), (64286, 64286, 26),
    (65056, 65062, 230), (65063, 65069, 220), (65070, 65071, 230), (66045, 66045, 220),
    (66272, 66272, 220), (66422, 66426, 230), (68109, 68109, 220), (68111, 68111, 230),
    (68152, 68152, 230), (68153, 68153, 1), (68154, 68154, 220), (68159, 68159, 9),
    (68325, 68325, 230), (68326, 68326, 220), (68900, 68903, 230), (69291, 69292, 230),
    (69446, 69447, 220), (69448, 69450, 230), (69451, 69451, 220), (69452, 69452, 230),
    (69453, 69456, 220), (69506, 69506, 230), (69507, 69507, 220), (69508, 69508, 230),
    (69509, 69509, 220), (69702, 69702, 9), (69744, 69744, 9), (69759, 69759, 9),
    (69817, 69817, 9), (69818, 69818, 7), (69888, 69890, 230), (69939, 69940, 9),
    (70003, 70003, 7), (70080, 70080, 9), (70090, 70090, 7), (70197, 70197, 9), (70198, 70198, 7),
    (70377, 70377, 7), (70378, 70378, 9), (70459, 70460, 7), (70477, 70477, 9),
    (70502, 70508, 230), (70512, 70516, 230), (70722, 70722, 9), (70726, 70726, 7),
    (70750, 70750, 230), (70850, 70850, 9), (70851, 70851, 7), (71103, 71103, 9),
    (71104, 71104, 7), (71231, 71231, 9), (71350, 71350, 9), (71351, 71351, 7), (71467, 71467, 9),
    (71737, 71737, 9), (71738, 71738, 7), (71997, 71998, 9), (72003, 72003, 7), (72160, 72160, 9),
    (72244, 72244, 9), (72263, 72263, 9), (72345, 72345, 9), (72767, 72767, 9), (73026, 73026, 7),
    (73028, 73029, 9), (73111, 73111, 9), (92912, 92916, 1), (92976, 92982, 230),
    (94192, 94193, 6), (113822, 113822, 1), (119141, 119142, 216), (119143, 119145, 1),
    (119149, 119149, 226), (119150, 119154, 216), (119163, 119170, 220), (119173, 119177, 230),
    (119178, 119179, 220), (119210, 119213, 230), (119362, 119364, 230), (122880, 122886, 230),
    (122888, 122904, 230), (122907, 122913, 230), (122915, 122916, 230), (122918, 122922, 230),
    (123184, 123190, 230), (123566, 123566, 230), (123628, 123631, 230), (125136, 125142, 220),
    (125252, 125257, 230), (125258, 125258, 7)]

/-! ### Pairs -/

/-- The pairs with the characters that they make, three characters each. -/
def pairs : String :=
  "A\u0300ÀA\u0301ÁA\u0302ÂA\u0303ÃA\u0308ÄA\u030aÅC\u0327ÇE\u0300ÈE\u0301ÉE\u0302ÊE\u0308Ë" ++
  "I\u0300ÌI\u0301ÍI\u0302ÎI\u0308ÏN\u0303ÑO\u0300ÒO\u0301ÓO\u0302ÔO\u0303ÕO\u0308ÖU\u0300Ù" ++
  "U\u0301ÚU\u0302ÛU\u0308ÜY\u0301Ýa\u0300àa\u0301áa\u0302âa\u0303ãa\u0308äa\u030aåc\u0327ç" ++
  "e\u0300èe\u0301ée\u0302êe\u0308ëi\u0300ìi\u0301íi\u0302îi\u0308ïn\u0303ño\u0300òo\u0301ó" ++
  "o\u0302ôo\u0303õo\u0308öu\u0300ùu\u0301úu\u0302ûu\u0308üy\u0301ýy\u0308ÿA\u0304Āa\u0304ā" ++
  "A\u0306Ăa\u0306ăA\u0328Ąa\u0328ąC\u0301Ćc\u0301ćC\u0302Ĉc\u0302ĉC\u0307Ċc\u0307ċC\u030cČ" ++
  "c\u030cčD\u030cĎd\u030cďE\u0304Ēe\u0304ēE\u0306Ĕe\u0306ĕE\u0307Ėe\u0307ėE\u0328Ęe\u0328ę" ++
  "E\u030cĚe\u030cěG\u0302Ĝg\u0302ĝG\u0306Ğg\u0306ğG\u0307Ġg\u0307ġG\u0327Ģg\u0327ģH\u0302Ĥ" ++
  "h\u0302ĥI\u0303Ĩi\u0303ĩI\u0304Īi\u0304īI\u0306Ĭi\u0306ĭI\u0328Įi\u0328įI\u0307İJ\u0302Ĵ" ++
  "j\u0302ĵK\u0327Ķk\u0327ķL\u0301Ĺl\u0301ĺL\u0327Ļl\u0327ļL\u030cĽl\u030cľN\u0301Ńn\u0301ń" ++
  "N\u0327Ņn\u0327ņN\u030cŇn\u030cňO\u0304Ōo\u0304ōO\u0306Ŏo\u0306ŏO\u030bŐo\u030bőR\u0301Ŕ" ++
  "r\u0301ŕR\u0327Ŗr\u0327ŗR\u030cŘr\u030cřS\u0301Śs\u0301śS\u0302Ŝs\u0302ŝS\u0327Şs\u0327ş" ++
  "S\u030cŠs\u030cšT\u0327Ţt\u0327ţT\u030cŤt\u030cťU\u0303Ũu\u0303ũU\u0304Ūu\u0304ūU\u0306Ŭ" ++
  "u\u0306ŭU\u030aŮu\u030aůU\u030bŰu\u030bűU\u0328Ųu\u0328ųW\u0302Ŵw\u0302ŵY\u0302Ŷy\u0302ŷ" ++
  "Y\u0308ŸZ\u0301Źz\u0301źZ\u0307Żz\u0307żZ\u030cŽz\u030cžO\u031bƠo\u031bơU\u031bƯu\u031bư" ++
  "A\u030cǍa\u030cǎI\u030cǏi\u030cǐO\u030cǑo\u030cǒU\u030cǓu\u030cǔÜ\u0304Ǖü\u0304ǖÜ\u0301Ǘ" ++
  "ü\u0301ǘÜ\u030cǙü\u030cǚÜ\u0300Ǜü\u0300ǜÄ\u0304Ǟä\u0304ǟȦ\u0304Ǡȧ\u0304ǡÆ\u0304Ǣæ\u0304ǣ" ++
  "G\u030cǦg\u030cǧK\u030cǨk\u030cǩO\u0328Ǫo\u0328ǫǪ\u0304Ǭǫ\u0304ǭƷ\u030cǮʒ\u030cǯj\u030cǰ" ++
  "G\u0301Ǵg\u0301ǵN\u0300Ǹn\u0300ǹÅ\u0301Ǻå\u0301ǻÆ\u0301Ǽæ\u0301ǽØ\u0301Ǿø\u0301ǿA\u030fȀ" ++
  "a\u030fȁA\u0311Ȃa\u0311ȃE\u030fȄe\u030fȅE\u0311Ȇe\u0311ȇI\u030fȈi\u030fȉI\u0311Ȋi\u0311ȋ" ++
  "O\u030fȌo\u030fȍO\u0311Ȏo\u0311ȏR\u030fȐr\u030fȑR\u0311Ȓr\u0311ȓU\u030fȔu\u030fȕU\u0311Ȗ" ++
  "u\u0311ȗS\u0326Șs\u0326șT\u0326Țt\u0326țH\u030cȞh\u030cȟA\u0307Ȧa\u0307ȧE\u0327Ȩe\u0327ȩ" ++
  "Ö\u0304Ȫö\u0304ȫÕ\u0304Ȭõ\u0304ȭO\u0307Ȯo\u0307ȯȮ\u0304Ȱȯ\u0304ȱY\u0304Ȳy\u0304ȳ¨\u0301΅" ++
  "Α\u0301ΆΕ\u0301ΈΗ\u0301ΉΙ\u0301ΊΟ\u0301ΌΥ\u0301ΎΩ\u0301Ώϊ\u0301ΐΙ\u0308ΪΥ\u0308Ϋα\u0301ά" ++
  "ε\u0301έη\u0301ήι\u0301ίϋ\u0301ΰι\u0308ϊυ\u0308ϋο\u0301όυ\u0301ύω\u0301ώϒ\u0301ϓϒ\u0308ϔ" ++
  "Е\u0300ЀЕ\u0308ЁГ\u0301ЃІ\u0308ЇК\u0301ЌИ\u0300ЍУ\u0306ЎИ\u0306Йи\u0306йе\u0300ѐе\u0308ё" ++
  "г\u0301ѓі\u0308їк\u0301ќи\u0300ѝу\u0306ўѴ\u030fѶѵ\u030fѷЖ\u0306Ӂж\u0306ӂА\u0306Ӑа\u0306ӑ" ++
  "А\u0308Ӓа\u0308ӓЕ\u0306Ӗе\u0306ӗӘ\u0308Ӛә\u0308ӛЖ\u0308Ӝж\u0308ӝЗ\u0308Ӟз\u0308ӟИ\u0304Ӣ" ++
  "и\u0304ӣИ\u0308Ӥи\u0308ӥО\u0308Ӧо\u0308ӧӨ\u0308Ӫө\u0308ӫЭ\u0308Ӭэ\u0308ӭУ\u0304Ӯу\u0304ӯ" ++
  "У\u0308Ӱу\u0308ӱУ\u030bӲу\u030bӳЧ\u0308Ӵч\u0308ӵЫ\u0308Ӹы\u0308ӹ\u0627\u0653\u0622" ++
  "\u0627\u0654\u0623\u0648\u0654\u0624\u0627\u0655\u0625\u064a\u0654\u0626\u06d5\u0654\u06c0" ++
  "\u06c1\u0654\u06c2\u06d2\u0654\u06d3न\u093cऩर\u093cऱळ\u093cऴ\u09c7\u09be\u09cb" ++
  "\u09c7\u09d7\u09cc\u0b47\u0b56\u0b48\u0b47\u0b3e\u0b4b\u0b47\u0b57\u0b4cஒ\u0bd7ஔ" ++
  "\u0bc6\u0bbe\u0bca\u0bc7\u0bbe\u0bcb\u0bc6\u0bd7\u0bcc\u0c46\u0c56\u0c48\u0cbf\u0cd5\u0cc0" ++
  "\u0cc6\u0cd5\u0cc7\u0cc6\u0cd6\u0cc8\u0cc6\u0cc2\u0cca\u0cca\u0cd5\u0ccb\u0d46\u0d3e\u0d4a" ++
  "\u0d47\u0d3e\u0d4b\u0d46\u0d57\u0d4c\u0dd9\u0dca\u0dda\u0dd9\u0dcf\u0ddc\u0ddc\u0dca\u0ddd" ++
  "\u0dd9\u0ddf\u0ddeဥ\u102eဦᬅ\u1b35ᬆᬇ\u1b35ᬈᬉ\u1b35ᬊᬋ\u1b35ᬌᬍ\u1b35ᬎᬑ\u1b35ᬒ" ++
  "\u1b3a\u1b35\u1b3b\u1b3c\u1b35\u1b3d\u1b3e\u1b35\u1b40\u1b3f\u1b35\u1b41\u1b42\u1b35\u1b43" ++
  "A\u0325Ḁa\u0325ḁB\u0307Ḃb\u0307ḃB\u0323Ḅb\u0323ḅB\u0331Ḇb\u0331ḇÇ\u0301Ḉç\u0301ḉD\u0307Ḋ" ++
  "d\u0307ḋD\u0323Ḍd\u0323ḍD\u0331Ḏd\u0331ḏD\u0327Ḑd\u0327ḑD\u032dḒd\u032dḓĒ\u0300Ḕē\u0300ḕ" ++
  "Ē\u0301Ḗē\u0301ḗE\u032dḘe\u032dḙE\u0330Ḛe\u0330ḛȨ\u0306Ḝȩ\u0306ḝF\u0307Ḟf\u0307ḟG\u0304Ḡ" ++
  "g\u0304ḡH\u0307Ḣh\u0307ḣH\u0323Ḥh\u0323ḥH\u0308Ḧh\u0308ḧH\u0327Ḩh\u0327ḩH\u032eḪh\u032eḫ" ++
  "I\u0330Ḭi\u0330ḭÏ\u0301Ḯï\u0301ḯK\u0301Ḱk\u0301ḱK\u0323Ḳk\u0323ḳK\u0331Ḵk\u0331ḵL\u0323Ḷ" ++
  "l\u0323ḷḶ\u0304Ḹḷ\u0304ḹL\u0331Ḻl\u0331ḻL\u032dḼl\u032dḽM\u0301Ḿm\u0301ḿM\u0307Ṁm\u0307ṁ" ++
  "M\u0323Ṃm\u0323ṃN\u0307Ṅn\u0307ṅN\u0323Ṇn\u0323ṇN\u0331Ṉn\u0331ṉN\u032dṊn\u032dṋÕ\u0301Ṍ" ++
  "õ\u0301ṍÕ\u0308Ṏõ\u0308ṏŌ\u0300Ṑō\u0300ṑŌ\u0301Ṓō\u0301ṓP\u0301Ṕp\u0301ṕP\u0307Ṗp\u0307ṗ" ++
  "R\u0307Ṙr\u0307ṙR\u0323Ṛr\u0323ṛṚ\u0304Ṝṛ\u0304ṝR\u0331Ṟr\u0331ṟS\u0307Ṡs\u0307ṡS\u0323Ṣ" ++
  "s\u0323ṣŚ\u0307Ṥś\u0307ṥŠ\u0307Ṧš\u0307ṧṢ\u0307Ṩṣ\u0307ṩT\u0307Ṫt\u0307ṫT\u0323Ṭt\u0323ṭ" ++
  "T\u0331Ṯt\u0331ṯT\u032dṰt\u032dṱU\u0324Ṳu\u0324ṳU\u0330Ṵu\u0330ṵU\u032dṶu\u032dṷŨ\u0301Ṹ" ++
  "ũ\u0301ṹŪ\u0308Ṻū\u0308ṻV\u0303Ṽv\u0303ṽV\u0323Ṿv\u0323ṿW\u0300Ẁw\u0300ẁW\u0301Ẃw\u0301ẃ" ++
  "W\u0308Ẅw\u0308ẅW\u0307Ẇw\u0307ẇW\u0323Ẉw\u0323ẉX\u0307Ẋx\u0307ẋX\u0308Ẍx\u0308ẍY\u0307Ẏ" ++
  "y\u0307ẏZ\u0302Ẑz\u0302ẑZ\u0323Ẓz\u0323ẓZ\u0331Ẕz\u0331ẕh\u0331ẖt\u0308ẗw\u030aẘy\u030aẙ" ++
  "ſ\u0307ẛA\u0323Ạa\u0323ạA\u0309Ảa\u0309ảÂ\u0301Ấâ\u0301ấÂ\u0300Ầâ\u0300ầÂ\u0309Ẩâ\u0309ẩ" ++
  "Â\u0303Ẫâ\u0303ẫẠ\u0302Ậạ\u0302ậĂ\u0301Ắă\u0301ắĂ\u0300Ằă\u0300ằĂ\u0309Ẳă\u0309ẳĂ\u0303Ẵ" ++
  "ă\u0303ẵẠ\u0306Ặạ\u0306ặE\u0323Ẹe\u0323ẹE\u0309Ẻe\u0309ẻE\u0303Ẽe\u0303ẽÊ\u0301Ếê\u0301ế" ++
  "Ê\u0300Ềê\u0300ềÊ\u0309Ểê\u0309ểÊ\u0303Ễê\u0303ễẸ\u0302Ệẹ\u0302ệI\u0309Ỉi\u0309ỉI\u0323Ị" ++
  "i\u0323ịO\u0323Ọo\u0323ọO\u0309Ỏo\u0309ỏÔ\u0301Ốô\u0301ốÔ\u0300Ồô\u0300ồÔ\u0309Ổô\u0309ổ" ++
  "Ô\u0303Ỗô\u0303ỗỌ\u0302Ộọ\u0302ộƠ\u0301Ớơ\u0301ớƠ\u0300Ờơ\u0300ờƠ\u0309Ởơ\u0309ởƠ\u0303Ỡ" ++
  "ơ\u0303ỡƠ\u0323Ợơ\u0323ợU\u0323Ụu\u0323ụU\u0309Ủu\u0309ủƯ\u0301Ứư\u0301ứƯ\u0300Ừư\u0300ừ" ++
  "Ư\u0309Ửư\u0309ửƯ\u0303Ữư\u0303ữƯ\u0323Ựư\u0323ựY\u0300Ỳy\u0300ỳY\u0323Ỵy\u0323ỵY\u0309Ỷ" ++
  "y\u0309ỷY\u0303Ỹy\u0303ỹα\u0313ἀα\u0314ἁἀ\u0300ἂἁ\u0300ἃἀ\u0301ἄἁ\u0301ἅἀ\u0342ἆἁ\u0342ἇ" ++
  "Α\u0313ἈΑ\u0314ἉἈ\u0300ἊἉ\u0300ἋἈ\u0301ἌἉ\u0301ἍἈ\u0342ἎἉ\u0342Ἇε\u0313ἐε\u0314ἑἐ\u0300ἒ" ++
  "ἑ\u0300ἓἐ\u0301ἔἑ\u0301ἕΕ\u0313ἘΕ\u0314ἙἘ\u0300ἚἙ\u0300ἛἘ\u0301ἜἙ\u0301Ἕη\u0313ἠη\u0314ἡ" ++
  "ἠ\u0300ἢἡ\u0300ἣἠ\u0301ἤἡ\u0301ἥἠ\u0342ἦἡ\u0342ἧΗ\u0313ἨΗ\u0314ἩἨ\u0300ἪἩ\u0300ἫἨ\u0301Ἤ" ++
  "Ἡ\u0301ἭἨ\u0342ἮἩ\u0342Ἧι\u0313ἰι\u0314ἱἰ\u0300ἲἱ\u0300ἳἰ\u0301ἴἱ\u0301ἵἰ\u0342ἶἱ\u0342ἷ" ++
  "Ι\u0313ἸΙ\u0314ἹἸ\u0300ἺἹ\u0300ἻἸ\u0301ἼἹ\u0301ἽἸ\u0342ἾἹ\u0342Ἷο\u0313ὀο\u0314ὁὀ\u0300ὂ" ++
  "ὁ\u0300ὃὀ\u0301ὄὁ\u0301ὅΟ\u0313ὈΟ\u0314ὉὈ\u0300ὊὉ\u0300ὋὈ\u0301ὌὉ\u0301Ὅυ\u0313ὐυ\u0314ὑ" ++
  "ὐ\u0300ὒὑ\u0300ὓὐ\u0301ὔὑ\u0301ὕὐ\u0342ὖὑ\u0342ὗΥ\u0314ὙὙ\u0300ὛὙ\u0301ὝὙ\u0342Ὗω\u0313ὠ" ++
  "ω\u0314ὡὠ\u0300ὢὡ\u0300ὣὠ\u0301ὤὡ\u0301ὥὠ\u0342ὦὡ\u0342ὧΩ\u0313ὨΩ\u0314ὩὨ\u0300ὪὩ\u0300Ὣ" ++
  "Ὠ\u0301ὬὩ\u0301ὭὨ\u0342ὮὩ\u0342Ὧα\u0300ὰε\u0300ὲη\u0300ὴι\u0300ὶο\u0300ὸυ\u0300ὺω\u0300ὼ" ++
  "ἀ\u0345ᾀἁ\u0345ᾁἂ\u0345ᾂἃ\u0345ᾃἄ\u0345ᾄἅ\u0345ᾅἆ\u0345ᾆἇ\u0345ᾇἈ\u0345ᾈἉ\u0345ᾉἊ\u0345ᾊ" ++
  "Ἃ\u0345ᾋἌ\u0345ᾌἍ\u0345ᾍἎ\u0345ᾎἏ\u0345ᾏἠ\u0345ᾐἡ\u0345ᾑἢ\u0345ᾒἣ\u0345ᾓἤ\u0345ᾔἥ\u0345ᾕ" ++
  "ἦ\u0345ᾖἧ\u0345ᾗἨ\u0345ᾘἩ\u0345ᾙἪ\u0345ᾚἫ\u0345ᾛἬ\u0345ᾜἭ\u0345ᾝἮ\u0345ᾞἯ\u0345ᾟὠ\u0345ᾠ" ++
  "ὡ\u0345ᾡὢ\u0345ᾢὣ\u0345ᾣὤ\u0345ᾤὥ\u0345ᾥὦ\u0345ᾦὧ\u0345ᾧὨ\u0345ᾨὩ\u0345ᾩὪ\u0345ᾪὫ\u0345ᾫ" ++
  "Ὤ\u0345ᾬὭ\u0345ᾭὮ\u0345ᾮὯ\u0345ᾯα\u0306ᾰα\u0304ᾱὰ\u0345ᾲα\u0345ᾳά\u0345ᾴα\u0342ᾶᾶ\u0345ᾷ" ++
  "Α\u0306ᾸΑ\u0304ᾹΑ\u0300ᾺΑ\u0345ᾼ¨\u0342῁ὴ\u0345ῂη\u0345ῃή\u0345ῄη\u0342ῆῆ\u0345ῇΕ\u0300Ὲ" ++
  "Η\u0300ῊΗ\u0345ῌ᾿\u0300῍᾿\u0301῎᾿\u0342῏ι\u0306ῐι\u0304ῑϊ\u0300ῒι\u0342ῖϊ\u0342ῗΙ\u0306Ῐ" ++
  "Ι\u0304ῙΙ\u0300Ὶ῾\u0300῝῾\u0301῞῾\u0342῟υ\u0306ῠυ\u0304ῡϋ\u0300ῢρ\u0313ῤρ\u0314ῥυ\u0342ῦ" ++
  "ϋ\u0342ῧΥ\u0306ῨΥ\u0304ῩΥ\u0300ῪΡ\u0314Ῥ¨\u0300῭ὼ\u0345ῲω\u0345ῳώ\u0345ῴω\u0342ῶῶ\u0345ῷ" ++
  "Ο\u0300ῸΩ\u0300ῺΩ\u0345ῼ←\u0338↚→\u0338↛↔\u0338↮⇐\u0338⇍⇔\u0338⇎⇒\u0338⇏∃\u0338∄∈\u0338∉" ++
  "∋\u0338∌∣\u0338∤∥\u0338∦∼\u0338≁≃\u0338≄≅\u0338≇≈\u0338≉=\u0338≠≡\u0338≢≍\u0338≭<\u0338≮" ++
  ">\u0338≯≤\u0338≰≥\u0338≱≲\u0338≴≳\u0338≵≶\u0338≸≷\u0338≹≺\u0338⊀≻\u0338⊁⊂\u0338⊄⊃\u0338⊅" ++
  "⊆\u0338⊈⊇\u0338⊉⊢\u0338⊬⊨\u0338⊭⊩\u0338⊮⊫\u0338⊯≼\u0338⋠≽\u0338⋡⊑\u0338⋢⊒\u0338⋣⊲\u0338⋪" ++
  "⊳\u0338⋫⊴\u0338⋬⊵\u0338⋭か\u3099がき\u3099ぎく\u3099ぐけ\u3099げこ\u3099ごさ\u3099ざ" ++
  "し\u3099じす\u3099ずせ\u3099ぜそ\u3099ぞた\u3099だち\u3099ぢつ\u3099づて\u3099でと\u3099ど" ++
  "は\u3099ばは\u309aぱひ\u3099びひ\u309aぴふ\u3099ぶふ\u309aぷへ\u3099べへ\u309aぺほ\u3099ぼ" ++
  "ほ\u309aぽう\u3099ゔゝ\u3099ゞカ\u3099ガキ\u3099ギク\u3099グケ\u3099ゲコ\u3099ゴサ\u3099ザ" ++
  "シ\u3099ジス\u3099ズセ\u3099ゼソ\u3099ゾタ\u3099ダチ\u3099ヂツ\u3099ヅテ\u3099デト\u3099ド" ++
  "ハ\u3099バハ\u309aパヒ\u3099ビヒ\u309aピフ\u3099ブフ\u309aプヘ\u3099ベヘ\u309aペホ\u3099ボ" ++
  "ホ\u309aポウ\u3099ヴワ\u3099ヷヰ\u3099ヸヱ\u3099ヹヲ\u3099ヺヽ\u3099ヾ𑂚𑂚𑂜𑂜𑂫𑂫𑄮𑄮𑄯𑄯𑍋𑍋" ++
  "𑍌𑍌𑒻𑒻𑒼𑒼𑒾𑒾𑖺𑖺𑖻𑖻𑤸𑤸"

/-! ### Parts of characters

The parts of characters that stand for others: a letter with a mark has the letter and the mark as its
parts, a shape or a style of a letter has the letter. The parts are those of version 3.2 of the
character standard. Each line begins with a character and goes on with its parts.
-/

def letterParts : String :=
  "\xa0\x20\n¨\x20\u0308\nªa\n¯\x20\u0304\n²2\n³3\n´\x20\u0301\nµμ\n¸\x20\u0327\n¹1\nºo\n" ++
  "¼1⁄4\n½1⁄2\n¾3⁄4\nÀA\u0300\nÁA\u0301\nÂA\u0302\nÃA\u0303\nÄA\u0308\nÅA\u030a\nÇC\u0327\n" ++
  "ÈE\u0300\nÉE\u0301\nÊE\u0302\nËE\u0308\nÌI\u0300\nÍI\u0301\nÎI\u0302\nÏI\u0308\nÑN\u0303\n" ++
  "ÒO\u0300\nÓO\u0301\nÔO\u0302\nÕO\u0303\nÖO\u0308\nÙU\u0300\nÚU\u0301\nÛU\u0302\nÜU\u0308\n" ++
  "ÝY\u0301\nàa\u0300\náa\u0301\nâa\u0302\nãa\u0303\näa\u0308\nåa\u030a\nçc\u0327\nèe\u0300\n" ++
  "ée\u0301\nêe\u0302\nëe\u0308\nìi\u0300\níi\u0301\nîi\u0302\nïi\u0308\nñn\u0303\nòo\u0300\n" ++
  "óo\u0301\nôo\u0302\nõo\u0303\nöo\u0308\nùu\u0300\núu\u0301\nûu\u0302\nüu\u0308\nýy\u0301\n" ++
  "ÿy\u0308\nĀA\u0304\nāa\u0304\nĂA\u0306\năa\u0306\nĄA\u0328\nąa\u0328\nĆC\u0301\nćc\u0301\n" ++
  "ĈC\u0302\nĉc\u0302\nĊC\u0307\nċc\u0307\nČC\u030c\nčc\u030c\nĎD\u030c\nďd\u030c\nĒE\u0304\n" ++
  "ēe\u0304\nĔE\u0306\nĕe\u0306\nĖE\u0307\nėe\u0307\nĘE\u0328\nęe\u0328\nĚE\u030c\něe\u030c\n" ++
  "ĜG\u0302\nĝg\u0302\nĞG\u0306\nğg\u0306\nĠG\u0307\nġg\u0307\nĢG\u0327\nģg\u0327\nĤH\u0302\n" ++
  "ĥh\u0302\nĨI\u0303\nĩi\u0303\nĪI\u0304\nīi\u0304\nĬI\u0306\nĭi\u0306\nĮI\u0328\nįi\u0328\n" ++
  "İI\u0307\nĲIJ\nĳij\nĴJ\u0302\nĵj\u0302\nĶK\u0327\nķk\u0327\nĹL\u0301\nĺl\u0301\nĻL\u0327\n" ++
  "ļl\u0327\nĽL\u030c\nľl\u030c\nĿL·\nŀl·\nŃN\u0301\nńn\u0301\nŅN\u0327\nņn\u0327\nŇN\u030c\n" ++
  "ňn\u030c\nŉʼn\nŌO\u0304\nōo\u0304\nŎO\u0306\nŏo\u0306\nŐO\u030b\nőo\u030b\nŔR\u0301\n" ++
  "ŕr\u0301\nŖR\u0327\nŗr\u0327\nŘR\u030c\nřr\u030c\nŚS\u0301\nśs\u0301\nŜS\u0302\nŝs\u0302\n" ++
  "ŞS\u0327\nşs\u0327\nŠS\u030c\nšs\u030c\nŢT\u0327\nţt\u0327\nŤT\u030c\nťt\u030c\nŨU\u0303\n" ++
  "ũu\u0303\nŪU\u0304\nūu\u0304\nŬU\u0306\nŭu\u0306\nŮU\u030a\nůu\u030a\nŰU\u030b\nűu\u030b\n" ++
  "ŲU\u0328\nųu\u0328\nŴW\u0302\nŵw\u0302\nŶY\u0302\nŷy\u0302\nŸY\u0308\nŹZ\u0301\nźz\u0301\n" ++
  "ŻZ\u0307\nżz\u0307\nŽZ\u030c\nžz\u030c\nſs\nƠO\u031b\nơo\u031b\nƯU\u031b\nưu\u031b\n" ++
  "ǄDZ\u030c\nǅDz\u030c\nǆdz\u030c\nǇLJ\nǈLj\nǉlj\nǊNJ\nǋNj\nǌnj\nǍA\u030c\nǎa\u030c\n" ++
  "ǏI\u030c\nǐi\u030c\nǑO\u030c\nǒo\u030c\nǓU\u030c\nǔu\u030c\nǕU\u0308\u0304\n" ++
  "ǖu\u0308\u0304\nǗU\u0308\u0301\nǘu\u0308\u0301\nǙU\u0308\u030c\nǚu\u0308\u030c\n" ++
  "ǛU\u0308\u0300\nǜu\u0308\u0300\nǞA\u0308\u0304\nǟa\u0308\u0304\nǠA\u0307\u0304\n" ++
  "ǡa\u0307\u0304\nǢÆ\u0304\nǣæ\u0304\nǦG\u030c\nǧg\u030c\nǨK\u030c\nǩk\u030c\nǪO\u0328\n" ++
  "ǫo\u0328\nǬO\u0328\u0304\nǭo\u0328\u0304\nǮƷ\u030c\nǯʒ\u030c\nǰj\u030c\nǱDZ\nǲDz\nǳdz\n" ++
  "ǴG\u0301\nǵg\u0301\nǸN\u0300\nǹn\u0300\nǺA\u030a\u0301\nǻa\u030a\u0301\nǼÆ\u0301\n" ++
  "ǽæ\u0301\nǾØ\u0301\nǿø\u0301\nȀA\u030f\nȁa\u030f\nȂA\u0311\nȃa\u0311\nȄE\u030f\nȅe\u030f\n" ++
  "ȆE\u0311\nȇe\u0311\nȈI\u030f\nȉi\u030f\nȊI\u0311\nȋi\u0311\nȌO\u030f\nȍo\u030f\nȎO\u0311\n" ++
  "ȏo\u0311\nȐR\u030f\nȑr\u030f\nȒR\u0311\nȓr\u0311\nȔU\u030f\nȕu\u030f\nȖU\u0311\nȗu\u0311\n" ++
  "ȘS\u0326\nșs\u0326\nȚT\u0326\nțt\u0326\nȞH\u030c\nȟh\u030c\nȦA\u0307\nȧa\u0307\nȨE\u0327\n" ++
  "ȩe\u0327\nȪO\u0308\u0304\nȫo\u0308\u0304\nȬO\u0303\u0304\nȭo\u0303\u0304\nȮO\u0307\n" ++
  "ȯo\u0307\nȰO\u0307\u0304\nȱo\u0307\u0304\nȲY\u0304\nȳy\u0304\nʰh\nʱɦ\nʲj\nʳr\nʴɹ\nʵɻ\nʶʁ\n" ++
  "ʷw\nʸy\n˘\x20\u0306\n˙\x20\u0307\n˚\x20\u030a\n˛\x20\u0328\n˜\x20\u0303\n˝\x20\u030b\nˠɣ\n" ++
  "ˡl\nˢs\nˣx\nˤʕ\n\u0340\u0300\n\u0341\u0301\n\u0343\u0313\n\u0344\u0308\u0301\nʹʹ\n" ++
  "ͺ\x20\u0345\n;;\n΄\x20\u0301\n΅\x20\u0308\u0301\nΆΑ\u0301\n··\nΈΕ\u0301\nΉΗ\u0301\n" ++
  "ΊΙ\u0301\nΌΟ\u0301\nΎΥ\u0301\nΏΩ\u0301\nΐι\u0308\u0301\nΪΙ\u0308\nΫΥ\u0308\nάα\u0301\n" ++
  "έε\u0301\nήη\u0301\nίι\u0301\nΰυ\u0308\u0301\nϊι\u0308\nϋυ\u0308\nόο\u0301\nύυ\u0301\n" ++
  "ώω\u0301\nϐβ\nϑθ\nϒΥ\nϓΥ\u0301\nϔΥ\u0308\nϕφ\nϖπ\nϰκ\nϱρ\nϲς\nϴΘ\nϵε\nЀЕ\u0300\nЁЕ\u0308\n" ++
  "ЃГ\u0301\nЇІ\u0308\nЌК\u0301\nЍИ\u0300\nЎУ\u0306\nЙИ\u0306\nйи\u0306\nѐе\u0300\nёе\u0308\n" ++
  "ѓг\u0301\nїі\u0308\nќк\u0301\nѝи\u0300\nўу\u0306\nѶѴ\u030f\nѷѵ\u030f\nӁЖ\u0306\nӂж\u0306\n" ++
  "ӐА\u0306\nӑа\u0306\nӒА\u0308\nӓа\u0308\nӖЕ\u0306\nӗе\u0306\nӚӘ\u0308\nӛә\u0308\nӜЖ\u0308\n" ++
  "ӝж\u0308\nӞЗ\u0308\nӟз\u0308\nӢИ\u0304\nӣи\u0304\nӤИ\u0308\nӥи\u0308\nӦО\u0308\nӧо\u0308\n" ++
  "ӪӨ\u0308\nӫө\u0308\nӬЭ\u0308\nӭэ\u0308\nӮУ\u0304\nӯу\u0304\nӰУ\u0308\nӱу\u0308\nӲУ\u030b\n" ++
  "ӳу\u030b\nӴЧ\u0308\nӵч\u0308\nӸЫ\u0308\nӹы\u0308\nևեւ\n\u0622\u0627\u0653\n" ++
  "\u0623\u0627\u0654\n\u0624\u0648\u0654\n\u0625\u0627\u0655\n\u0626\u064a\u0654\n" ++
  "\u0675\u0627\u0674\n\u0676\u0648\u0674\n\u0677\u06c7\u0674\n\u0678\u064a\u0674\n" ++
  "\u06c0\u06d5\u0654\n\u06c2\u06c1\u0654\n\u06d3\u06d2\u0654\nऩन\u093c\nऱर\u093c\nऴळ\u093c\n" ++
  "क़क\u093c\nख़ख\u093c\nग़ग\u093c\nज़ज\u093c\nड़ड\u093c\nढ़ढ\u093c\nफ़फ\u093c\nय़य\u093c\n" ++
  "\u09cb\u09c7\u09be\n\u09cc\u09c7\u09d7\nড়ড\u09bc\nঢ়ঢ\u09bc\nয়য\u09bc\nਲ਼ਲ\u0a3c\nਸ਼ਸ\u0a3c\n" ++
  "ਖ਼ਖ\u0a3c\nਗ਼ਗ\u0a3c\nਜ਼ਜ\u0a3c\nਫ਼ਫ\u0a3c\n\u0b48\u0b47\u0b56\n\u0b4b\u0b47\u0b3e\n" ++
  "\u0b4c\u0b47\u0b57\nଡ଼ଡ\u0b3c\nଢ଼ଢ\u0b3c\nஔஒ\u0bd7\n\u0bca\u0bc6\u0bbe\n\u0bcb\u0bc7\u0bbe\n" ++
  "\u0bcc\u0bc6\u0bd7\n\u0c48\u0c46\u0c56\n\u0cc0\u0cbf\u0cd5\n\u0cc7\u0cc6\u0cd5\n" ++
  "\u0cc8\u0cc6\u0cd6\n\u0cca\u0cc6\u0cc2\n\u0ccb\u0cc6\u0cc2\u0cd5\n\u0d4a\u0d46\u0d3e\n" ++
  "\u0d4b\u0d47\u0d3e\n\u0d4c\u0d46\u0d57\n\u0dda\u0dd9\u0dca\n\u0ddc\u0dd9\u0dcf\n" ++
  "\u0ddd\u0dd9\u0dcf\u0dca\n\u0dde\u0dd9\u0ddf\nำ\u0e4dา\nຳ\u0ecdາ\nໜຫນ\nໝຫມ\n༌་\nགྷག\u0fb7\n" ++
  "ཌྷཌ\u0fb7\nདྷད\u0fb7\nབྷབ\u0fb7\nཛྷཛ\u0fb7\nཀྵཀ\u0fb5\n\u0f73\u0f71\u0f72\n\u0f75\u0f71\u0f74\n" ++
  "\u0f76\u0fb2\u0f80\n\u0f77\u0fb2\u0f71\u0f80\n\u0f78\u0fb3\u0f80\n" ++
  "\u0f79\u0fb3\u0f71\u0f80\n\u0f81\u0f71\u0f80\n\u0f93\u0f92\u0fb7\n\u0f9d\u0f9c\u0fb7\n" ++
  "\u0fa2\u0fa1\u0fb7\n\u0fa7\u0fa6\u0fb7\n\u0fac\u0fab\u0fb7\n\u0fb9\u0f90\u0fb5\nဦဥ\u102e\n" ++
  "ḀA\u0325\nḁa\u0325\nḂB\u0307\nḃb\u0307\nḄB\u0323\nḅb\u0323\nḆB\u0331\nḇb\u0331\n" ++
  "ḈC\u0327\u0301\nḉc\u0327\u0301\nḊD\u0307\nḋd\u0307\nḌD\u0323\nḍd\u0323\nḎD\u0331\n" ++
  "ḏd\u0331\nḐD\u0327\nḑd\u0327\nḒD\u032d\nḓd\u032d\nḔE\u0304\u0300\nḕe\u0304\u0300\n" ++
  "ḖE\u0304\u0301\nḗe\u0304\u0301\nḘE\u032d\nḙe\u032d\nḚE\u0330\nḛe\u0330\nḜE\u0327\u0306\n" ++
  "ḝe\u0327\u0306\nḞF\u0307\nḟf\u0307\nḠG\u0304\nḡg\u0304\nḢH\u0307\nḣh\u0307\nḤH\u0323\n" ++
  "ḥh\u0323\nḦH\u0308\nḧh\u0308\nḨH\u0327\nḩh\u0327\nḪH\u032e\nḫh\u032e\nḬI\u0330\nḭi\u0330\n" ++
  "ḮI\u0308\u0301\nḯi\u0308\u0301\nḰK\u0301\nḱk\u0301\nḲK\u0323\nḳk\u0323\nḴK\u0331\n" ++
  "ḵk\u0331\nḶL\u0323\nḷl\u0323\nḸL\u0323\u0304\nḹl\u0323\u0304\nḺL\u0331\nḻl\u0331\n" ++
  "ḼL\u032d\nḽl\u032d\nḾM\u0301\nḿm\u0301\nṀM\u0307\nṁm\u0307\nṂM\u0323\nṃm\u0323\nṄN\u0307\n" ++
  "ṅn\u0307\nṆN\u0323\nṇn\u0323\nṈN\u0331\nṉn\u0331\nṊN\u032d\nṋn\u032d\nṌO\u0303\u0301\n" ++
  "ṍo\u0303\u0301\nṎO\u0303\u0308\nṏo\u0303\u0308\nṐO\u0304\u0300\nṑo\u0304\u0300\n" ++
  "ṒO\u0304\u0301\nṓo\u0304\u0301\nṔP\u0301\nṕp\u0301\nṖP\u0307\nṗp\u0307\nṘR\u0307\n" ++
  "ṙr\u0307\nṚR\u0323\nṛr\u0323\nṜR\u0323\u0304\nṝr\u0323\u0304\nṞR\u0331\nṟr\u0331\n" ++
  "ṠS\u0307\nṡs\u0307\nṢS\u0323\nṣs\u0323\nṤS\u0301\u0307\nṥs\u0301\u0307\nṦS\u030c\u0307\n" ++
  "ṧs\u030c\u0307\nṨS\u0323\u0307\nṩs\u0323\u0307\nṪT\u0307\nṫt\u0307\nṬT\u0323\nṭt\u0323\n" ++
  "ṮT\u0331\nṯt\u0331\nṰT\u032d\nṱt\u032d\nṲU\u0324\nṳu\u0324\nṴU\u0330\nṵu\u0330\nṶU\u032d\n" ++
  "ṷu\u032d\nṸU\u0303\u0301\nṹu\u0303\u0301\nṺU\u0304\u0308\nṻu\u0304\u0308\nṼV\u0303\n" ++
  "ṽv\u0303\nṾV\u0323\nṿv\u0323\nẀW\u0300\nẁw\u0300\nẂW\u0301\nẃw\u0301\nẄW\u0308\nẅw\u0308\n" ++
  "ẆW\u0307\nẇw\u0307\nẈW\u0323\nẉw\u0323\nẊX\u0307\nẋx\u0307\nẌX\u0308\nẍx\u0308\nẎY\u0307\n" ++
  "ẏy\u0307\nẐZ\u0302\nẑz\u0302\nẒZ\u0323\nẓz\u0323\nẔZ\u0331\nẕz\u0331\nẖh\u0331\nẗt\u0308\n" ++
  "ẘw\u030a\nẙy\u030a\nẚaʾ\nẛs\u0307\nẠA\u0323\nạa\u0323\nẢA\u0309\nảa\u0309\n" ++
  "ẤA\u0302\u0301\nấa\u0302\u0301\nẦA\u0302\u0300\nầa\u0302\u0300\nẨA\u0302\u0309\n" ++
  "ẩa\u0302\u0309\nẪA\u0302\u0303\nẫa\u0302\u0303\nẬA\u0323\u0302\nậa\u0323\u0302\n" ++
  "ẮA\u0306\u0301\nắa\u0306\u0301\nẰA\u0306\u0300\nằa\u0306\u0300\nẲA\u0306\u0309\n" ++
  "ẳa\u0306\u0309\nẴA\u0306\u0303\nẵa\u0306\u0303\nẶA\u0323\u0306\nặa\u0323\u0306\nẸE\u0323\n" ++
  "ẹe\u0323\nẺE\u0309\nẻe\u0309\nẼE\u0303\nẽe\u0303\nẾE\u0302\u0301\nếe\u0302\u0301\n" ++
  "ỀE\u0302\u0300\nềe\u0302\u0300\nỂE\u0302\u0309\nểe\u0302\u0309\nỄE\u0302\u0303\n" ++
  "ễe\u0302\u0303\nỆE\u0323\u0302\nệe\u0323\u0302\nỈI\u0309\nỉi\u0309\nỊI\u0323\nịi\u0323\n" ++
  "ỌO\u0323\nọo\u0323\nỎO\u0309\nỏo\u0309\nỐO\u0302\u0301\nốo\u0302\u0301\nỒO\u0302\u0300\n" ++
  "ồo\u0302\u0300\nỔO\u0302\u0309\nổo\u0302\u0309\nỖO\u0302\u0303\nỗo\u0302\u0303\n" ++
  "ỘO\u0323\u0302\nộo\u0323\u0302\nỚO\u031b\u0301\nớo\u031b\u0301\nỜO\u031b\u0300\n" ++
  "ờo\u031b\u0300\nỞO\u031b\u0309\nởo\u031b\u0309\nỠO\u031b\u0303\nỡo\u031b\u0303\n" ++
  "ỢO\u031b\u0323\nợo\u031b\u0323\nỤU\u0323\nụu\u0323\nỦU\u0309\nủu\u0309\nỨU\u031b\u0301\n" ++
  "ứu\u031b\u0301\nỪU\u031b\u0300\nừu\u031b\u0300\nỬU\u031b\u0309\nửu\u031b\u0309\n" ++
  "ỮU\u031b\u0303\nữu\u031b\u0303\nỰU\u031b\u0323\nựu\u031b\u0323\nỲY\u0300\nỳy\u0300\n" ++
  "ỴY\u0323\nỵy\u0323\nỶY\u0309\nỷy\u0309\nỸY\u0303\nỹy\u0303\nἀα\u0313\nἁα\u0314\n" ++
  "ἂα\u0313\u0300\nἃα\u0314\u0300\nἄα\u0313\u0301\nἅα\u0314\u0301\nἆα\u0313\u0342\n" ++
  "ἇα\u0314\u0342\nἈΑ\u0313\nἉΑ\u0314\nἊΑ\u0313\u0300\nἋΑ\u0314\u0300\nἌΑ\u0313\u0301\n" ++
  "ἍΑ\u0314\u0301\nἎΑ\u0313\u0342\nἏΑ\u0314\u0342\nἐε\u0313\nἑε\u0314\nἒε\u0313\u0300\n" ++
  "ἓε\u0314\u0300\nἔε\u0313\u0301\nἕε\u0314\u0301\nἘΕ\u0313\nἙΕ\u0314\nἚΕ\u0313\u0300\n" ++
  "ἛΕ\u0314\u0300\nἜΕ\u0313\u0301\nἝΕ\u0314\u0301\nἠη\u0313\nἡη\u0314\nἢη\u0313\u0300\n" ++
  "ἣη\u0314\u0300\nἤη\u0313\u0301\nἥη\u0314\u0301\nἦη\u0313\u0342\nἧη\u0314\u0342\nἨΗ\u0313\n" ++
  "ἩΗ\u0314\nἪΗ\u0313\u0300\nἫΗ\u0314\u0300\nἬΗ\u0313\u0301\nἭΗ\u0314\u0301\nἮΗ\u0313\u0342\n" ++
  "ἯΗ\u0314\u0342\nἰι\u0313\nἱι\u0314\nἲι\u0313\u0300\nἳι\u0314\u0300\nἴι\u0313\u0301\n" ++
  "ἵι\u0314\u0301\nἶι\u0313\u0342\nἷι\u0314\u0342\nἸΙ\u0313\nἹΙ\u0314\nἺΙ\u0313\u0300\n" ++
  "ἻΙ\u0314\u0300\nἼΙ\u0313\u0301\nἽΙ\u0314\u0301\nἾΙ\u0313\u0342\nἿΙ\u0314\u0342\nὀο\u0313\n" ++
  "ὁο\u0314\nὂο\u0313\u0300\nὃο\u0314\u0300\nὄο\u0313\u0301\nὅο\u0314\u0301\nὈΟ\u0313\n" ++
  "ὉΟ\u0314\nὊΟ\u0313\u0300\nὋΟ\u0314\u0300\nὌΟ\u0313\u0301\nὍΟ\u0314\u0301\nὐυ\u0313\n" ++
  "ὑυ\u0314\nὒυ\u0313\u0300\nὓυ\u0314\u0300\nὔυ\u0313\u0301\nὕυ\u0314\u0301\nὖυ\u0313\u0342\n" ++
  "ὗυ\u0314\u0342\nὙΥ\u0314\nὛΥ\u0314\u0300\nὝΥ\u0314\u0301\nὟΥ\u0314\u0342\nὠω\u0313\n" ++
  "ὡω\u0314\nὢω\u0313\u0300\nὣω\u0314\u0300\nὤω\u0313\u0301\nὥω\u0314\u0301\nὦω\u0313\u0342\n" ++
  "ὧω\u0314\u0342\nὨΩ\u0313\nὩΩ\u0314\nὪΩ\u0313\u0300\nὫΩ\u0314\u0300\nὬΩ\u0313\u0301\n" ++
  "ὭΩ\u0314\u0301\nὮΩ\u0313\u0342\nὯΩ\u0314\u0342\nὰα\u0300\nάα\u0301\nὲε\u0300\nέε\u0301\n" ++
  "ὴη\u0300\nήη\u0301\nὶι\u0300\nίι\u0301\nὸο\u0300\nόο\u0301\nὺυ\u0300\nύυ\u0301\nὼω\u0300\n" ++
  "ώω\u0301\nᾀα\u0313\u0345\nᾁα\u0314\u0345\nᾂα\u0313\u0300\u0345\nᾃα\u0314\u0300\u0345\n" ++
  "ᾄα\u0313\u0301\u0345\nᾅα\u0314\u0301\u0345\nᾆα\u0313\u0342\u0345\nᾇα\u0314\u0342\u0345\n" ++
  "ᾈΑ\u0313\u0345\nᾉΑ\u0314\u0345\nᾊΑ\u0313\u0300\u0345\nᾋΑ\u0314\u0300\u0345\n" ++
  "ᾌΑ\u0313\u0301\u0345\nᾍΑ\u0314\u0301\u0345\nᾎΑ\u0313\u0342\u0345\nᾏΑ\u0314\u0342\u0345\n" ++
  "ᾐη\u0313\u0345\nᾑη\u0314\u0345\nᾒη\u0313\u0300\u0345\nᾓη\u0314\u0300\u0345\n" ++
  "ᾔη\u0313\u0301\u0345\nᾕη\u0314\u0301\u0345\nᾖη\u0313\u0342\u0345\nᾗη\u0314\u0342\u0345\n" ++
  "ᾘΗ\u0313\u0345\nᾙΗ\u0314\u0345\nᾚΗ\u0313\u0300\u0345\nᾛΗ\u0314\u0300\u0345\n" ++
  "ᾜΗ\u0313\u0301\u0345\nᾝΗ\u0314\u0301\u0345\nᾞΗ\u0313\u0342\u0345\nᾟΗ\u0314\u0342\u0345\n" ++
  "ᾠω\u0313\u0345\nᾡω\u0314\u0345\nᾢω\u0313\u0300\u0345\nᾣω\u0314\u0300\u0345\n" ++
  "ᾤω\u0313\u0301\u0345\nᾥω\u0314\u0301\u0345\nᾦω\u0313\u0342\u0345\nᾧω\u0314\u0342\u0345\n" ++
  "ᾨΩ\u0313\u0345\nᾩΩ\u0314\u0345\nᾪΩ\u0313\u0300\u0345\nᾫΩ\u0314\u0300\u0345\n" ++
  "ᾬΩ\u0313\u0301\u0345\nᾭΩ\u0314\u0301\u0345\nᾮΩ\u0313\u0342\u0345\nᾯΩ\u0314\u0342\u0345\n" ++
  "ᾰα\u0306\nᾱα\u0304\nᾲα\u0300\u0345\nᾳα\u0345\nᾴα\u0301\u0345\nᾶα\u0342\nᾷα\u0342\u0345\n" ++
  "ᾸΑ\u0306\nᾹΑ\u0304\nᾺΑ\u0300\nΆΑ\u0301\nᾼΑ\u0345\n᾽\x20\u0313\nιι\n᾿\x20\u0313\n" ++
  "῀\x20\u0342\n῁\x20\u0308\u0342\nῂη\u0300\u0345\nῃη\u0345\nῄη\u0301\u0345\nῆη\u0342\n" ++
  "ῇη\u0342\u0345\nῈΕ\u0300\nΈΕ\u0301\nῊΗ\u0300\nΉΗ\u0301\nῌΗ\u0345\n῍\x20\u0313\u0300\n" ++
  "῎\x20\u0313\u0301\n῏\x20\u0313\u0342\nῐι\u0306\nῑι\u0304\nῒι\u0308\u0300\nΐι\u0308\u0301\n" ++
  "ῖι\u0342\nῗι\u0308\u0342\nῘΙ\u0306\nῙΙ\u0304\nῚΙ\u0300\nΊΙ\u0301\n῝\x20\u0314\u0300\n" ++
  "῞\x20\u0314\u0301\n῟\x20\u0314\u0342\nῠυ\u0306\nῡυ\u0304\nῢυ\u0308\u0300\nΰυ\u0308\u0301\n" ++
  "ῤρ\u0313\nῥρ\u0314\nῦυ\u0342\nῧυ\u0308\u0342\nῨΥ\u0306\nῩΥ\u0304\nῪΥ\u0300\nΎΥ\u0301\n" ++
  "ῬΡ\u0314\n῭\x20\u0308\u0300\n΅\x20\u0308\u0301\n``\nῲω\u0300\u0345\nῳω\u0345\n" ++
  "ῴω\u0301\u0345\nῶω\u0342\nῷω\u0342\u0345\nῸΟ\u0300\nΌΟ\u0301\nῺΩ\u0300\nΏΩ\u0301\n" ++
  "ῼΩ\u0345\n´\x20\u0301\n῾\x20\u0314\n\u2000\x20\n\u2001\x20\n\u2002\x20\n\u2003\x20\n" ++
  "\u2004\x20\n\u2005\x20\n\u2006\x20\n\u2007\x20\n\u2008\x20\n\u2009\x20\n\u200a\x20\n‑‐\n" ++
  "‗\x20\u0333\n․.\n‥..\n…...\n\u202f\x20\n″′′\n‴′′′\n‶‵‵\n‷‵‵‵\n‼!!\n‾\x20\u0305\n⁇??\n⁈?!\n" ++
  "⁉!?\n⁗′′′′\n\u205f\x20\n⁰0\nⁱi\n⁴4\n⁵5\n⁶6\n⁷7\n⁸8\n⁹9\n⁺+\n⁻−\n⁼=\n⁽(\n⁾)\nⁿn\n₀0\n₁1\n" ++
  "₂2\n₃3\n₄4\n₅5\n₆6\n₇7\n₈8\n₉9\n₊+\n₋−\n₌=\n₍(\n₎)\n₨Rs\n℀a/c\n℁a/s\nℂC\n℃°C\n℅c/o\n℆c/u\n" ++
  "ℇƐ\n℉°F\nℊg\nℋH\nℌH\nℍH\nℎh\nℏħ\nℐI\nℑI\nℒL\nℓl\nℕN\n№No\nℙP\nℚQ\nℛR\nℜR\nℝR\n℠SM\n℡TEL\n" ++
  "™TM\nℤZ\nΩΩ\nℨZ\nKK\nÅA\u030a\nℬB\nℭC\nℯe\nℰE\nℱF\nℳM\nℴo\nℵ\u05d0\nℶ\u05d1\nℷ\u05d2\n" ++
  "ℸ\u05d3\nℹi\nℽγ\nℾΓ\nℿΠ\n⅀∑\nⅅD\nⅆd\nⅇe\nⅈi\nⅉj\n⅓1⁄3\n⅔2⁄3\n⅕1⁄5\n⅖2⁄5\n⅗3⁄5\n⅘4⁄5\n" ++
  "⅙1⁄6\n⅚5⁄6\n⅛1⁄8\n⅜3⁄8\n⅝5⁄8\n⅞7⁄8\n⅟1⁄\nⅠI\nⅡII\nⅢIII\nⅣIV\nⅤV\nⅥVI\nⅦVII\nⅧVIII\nⅨIX\n" ++
  "ⅩX\nⅪXI\nⅫXII\nⅬL\nⅭC\nⅮD\nⅯM\nⅰi\nⅱii\nⅲiii\nⅳiv\nⅴv\nⅵvi\nⅶvii\nⅷviii\nⅸix\nⅹx\nⅺxi\n" ++
  "ⅻxii\nⅼl\nⅽc\nⅾd\nⅿm\n↚←\u0338\n↛→\u0338\n↮↔\u0338\n⇍⇐\u0338\n⇎⇔\u0338\n⇏⇒\u0338\n" ++
  "∄∃\u0338\n∉∈\u0338\n∌∋\u0338\n∤∣\u0338\n∦∥\u0338\n∬∫∫\n∭∫∫∫\n∯∮∮\n∰∮∮∮\n≁∼\u0338\n" ++
  "≄≃\u0338\n≇≅\u0338\n≉≈\u0338\n≠=\u0338\n≢≡\u0338\n≭≍\u0338\n≮<\u0338\n≯>\u0338\n≰≤\u0338\n" ++
  "≱≥\u0338\n≴≲\u0338\n≵≳\u0338\n≸≶\u0338\n≹≷\u0338\n⊀≺\u0338\n⊁≻\u0338\n⊄⊂\u0338\n⊅⊃\u0338\n" ++
  "⊈⊆\u0338\n⊉⊇\u0338\n⊬⊢\u0338\n⊭⊨\u0338\n⊮⊩\u0338\n⊯⊫\u0338\n⋠≼\u0338\n⋡≽\u0338\n⋢⊑\u0338\n" ++
  "⋣⊒\u0338\n⋪⊲\u0338\n⋫⊳\u0338\n⋬⊴\u0338\n⋭⊵\u0338\n〈〈\n〉〉\n①1\n②2\n③3\n④4\n⑤5\n⑥6\n⑦7\n" ++
  "⑧8\n⑨9\n⑩10\n⑪11\n⑫12\n⑬13\n⑭14\n⑮15\n⑯16\n⑰17\n⑱18\n⑲19\n⑳20\n⑴(1)\n⑵(2)\n⑶(3)\n⑷(4)\n" ++
  "⑸(5)\n⑹(6)\n⑺(7)\n⑻(8)\n⑼(9)\n⑽(10)\n⑾(11)\n⑿(12)\n⒀(13)\n⒁(14)\n⒂(15)\n⒃(16)\n⒄(17)\n" ++
  "⒅(18)\n⒆(19)\n⒇(20)\n⒈1.\n⒉2.\n⒊3.\n⒋4.\n⒌5.\n⒍6.\n⒎7.\n⒏8.\n⒐9.\n⒑10.\n⒒11.\n⒓12.\n⒔13.\n" ++
  "⒕14.\n⒖15.\n⒗16.\n⒘17.\n⒙18.\n⒚19.\n⒛20.\n⒜(a)\n⒝(b)\n⒞(c)\n⒟(d)\n⒠(e)\n⒡(f)\n⒢(g)\n⒣(h)\n" ++
  "⒤(i)\n⒥(j)\n⒦(k)\n⒧(l)\n⒨(m)\n⒩(n)\n⒪(o)\n⒫(p)\n⒬(q)\n⒭(r)\n⒮(s)\n⒯(t)\n⒰(u)\n⒱(v)\n⒲(w)\n" ++
  "⒳(x)\n⒴(y)\n⒵(z)\nⒶA\nⒷB\nⒸC\nⒹD\nⒺE\nⒻF\nⒼG\nⒽH\nⒾI\nⒿJ\nⓀK\nⓁL\nⓂM\nⓃN\nⓄO\nⓅP\nⓆQ\nⓇR\n" ++
  "ⓈS\nⓉT\nⓊU\nⓋV\nⓌW\nⓍX\nⓎY\nⓏZ\nⓐa\nⓑb\nⓒc\nⓓd\nⓔe\nⓕf\nⓖg\nⓗh\nⓘi\nⓙj\nⓚk\nⓛl\nⓜm\nⓝn\n" ++
  "ⓞo\nⓟp\nⓠq\nⓡr\nⓢs\nⓣt\nⓤu\nⓥv\nⓦw\nⓧx\nⓨy\nⓩz\n⓪0\n⨌∫∫∫∫\n⩴::=\n⩵==\n⩶===\n⫝̸⫝\u0338\n"

def ideographParts : String :=
  "⺟母\n⻳龟\n⼀一\n⼁丨\n⼂丶\n⼃丿\n⼄乙\n⼅亅\n⼆二\n⼇亠\n⼈人\n⼉儿\n⼊入\n⼋八\n⼌冂\n" ++
  "⼍冖\n⼎冫\n⼏几\n⼐凵\n⼑刀\n⼒力\n⼓勹\n⼔匕\n⼕匚\n⼖匸\n⼗十\n⼘卜\n⼙卩\n⼚厂\n⼛厶\n" ++
  "⼜又\n⼝口\n⼞囗\n⼟土\n⼠士\n⼡夂\n⼢夊\n⼣夕\n⼤大\n⼥女\n⼦子\n⼧宀\n⼨寸\n⼩小\n⼪尢\n" ++
  "⼫尸\n⼬屮\n⼭山\n⼮巛\n⼯工\n⼰己\n⼱巾\n⼲干\n⼳幺\n⼴广\n⼵廴\n⼶廾\n⼷弋\n⼸弓\n⼹彐\n" ++
  "⼺彡\n⼻彳\n⼼心\n⼽戈\n⼾戶\n⼿手\n⽀支\n⽁攴\n⽂文\n⽃斗\n⽄斤\n⽅方\n⽆无\n⽇日\n⽈曰\n" ++
  "⽉月\n⽊木\n⽋欠\n⽌止\n⽍歹\n⽎殳\n⽏毋\n⽐比\n⽑毛\n⽒氏\n⽓气\n⽔水\n⽕火\n⽖爪\n⽗父\n" ++
  "⽘爻\n⽙爿\n⽚片\n⽛牙\n⽜牛\n⽝犬\n⽞玄\n⽟玉\n⽠瓜\n⽡瓦\n⽢甘\n⽣生\n⽤用\n⽥田\n⽦疋\n" ++
  "⽧疒\n⽨癶\n⽩白\n⽪皮\n⽫皿\n⽬目\n⽭矛\n⽮矢\n⽯石\n⽰示\n⽱禸\n⽲禾\n⽳穴\n⽴立\n⽵竹\n" ++
  "⽶米\n⽷糸\n⽸缶\n⽹网\n⽺羊\n⽻羽\n⽼老\n⽽而\n⽾耒\n⽿耳\n⾀聿\n⾁肉\n⾂臣\n⾃自\n⾄至\n" ++
  "⾅臼\n⾆舌\n⾇舛\n⾈舟\n⾉艮\n⾊色\n⾋艸\n⾌虍\n⾍虫\n⾎血\n⾏行\n⾐衣\n⾑襾\n⾒見\n⾓角\n" ++
  "⾔言\n⾕谷\n⾖豆\n⾗豕\n⾘豸\n⾙貝\n⾚赤\n⾛走\n⾜足\n⾝身\n⾞車\n⾟辛\n⾠辰\n⾡辵\n⾢邑\n" ++
  "⾣酉\n⾤釆\n⾥里\n⾦金\n⾧長\n⾨門\n⾩阜\n⾪隶\n⾫隹\n⾬雨\n⾭靑\n⾮非\n⾯面\n⾰革\n⾱韋\n" ++
  "⾲韭\n⾳音\n⾴頁\n⾵風\n⾶飛\n⾷食\n⾸首\n⾹香\n⾺馬\n⾻骨\n⾼高\n⾽髟\n⾾鬥\n⾿鬯\n⿀鬲\n" ++
  "⿁鬼\n⿂魚\n⿃鳥\n⿄鹵\n⿅鹿\n⿆麥\n⿇麻\n⿈黃\n⿉黍\n⿊黑\n⿋黹\n⿌黽\n⿍鼎\n⿎鼓\n⿏鼠\n" ++
  "⿐鼻\n⿑齊\n⿒齒\n⿓龍\n⿔龜\n⿕龠\n\u3000\x20\n〶〒\n〸十\n〹卄\n〺卅\nがか\u3099\n" ++
  "ぎき\u3099\nぐく\u3099\nげけ\u3099\nごこ\u3099\nざさ\u3099\nじし\u3099\nずす\u3099\n" ++
  "ぜせ\u3099\nぞそ\u3099\nだた\u3099\nぢち\u3099\nづつ\u3099\nでて\u3099\nどと\u3099\n" ++
  "ばは\u3099\nぱは\u309a\nびひ\u3099\nぴひ\u309a\nぶふ\u3099\nぷふ\u309a\nべへ\u3099\n" ++
  "ぺへ\u309a\nぼほ\u3099\nぽほ\u309a\nゔう\u3099\n゛\x20\u3099\n゜\x20\u309a\nゞゝ\u3099\n" ++
  "ゟより\nガカ\u3099\nギキ\u3099\nグク\u3099\nゲケ\u3099\nゴコ\u3099\nザサ\u3099\n" ++
  "ジシ\u3099\nズス\u3099\nゼセ\u3099\nゾソ\u3099\nダタ\u3099\nヂチ\u3099\nヅツ\u3099\n" ++
  "デテ\u3099\nドト\u3099\nバハ\u3099\nパハ\u309a\nビヒ\u3099\nピヒ\u309a\nブフ\u3099\n" ++
  "プフ\u309a\nベヘ\u3099\nペヘ\u309a\nボホ\u3099\nポホ\u309a\nヴウ\u3099\nヷワ\u3099\n" ++
  "ヸヰ\u3099\nヹヱ\u3099\nヺヲ\u3099\nヾヽ\u3099\nヿコト\nㄱᄀ\nㄲᄁ\nㄳᆪ\nㄴᄂ\nㄵᆬ\nㄶᆭ\n" ++
  "ㄷᄃ\nㄸᄄ\nㄹᄅ\nㄺᆰ\nㄻᆱ\nㄼᆲ\nㄽᆳ\nㄾᆴ\nㄿᆵ\nㅀᄚ\nㅁᄆ\nㅂᄇ\nㅃᄈ\nㅄᄡ\nㅅᄉ\nㅆᄊ\n" ++
  "ㅇᄋ\nㅈᄌ\nㅉᄍ\nㅊᄎ\nㅋᄏ\nㅌᄐ\nㅍᄑ\nㅎᄒ\nㅏᅡ\nㅐᅢ\nㅑᅣ\nㅒᅤ\nㅓᅥ\nㅔᅦ\nㅕᅧ\nㅖᅨ\n" ++
  "ㅗᅩ\nㅘᅪ\nㅙᅫ\nㅚᅬ\nㅛᅭ\nㅜᅮ\nㅝᅯ\nㅞᅰ\nㅟᅱ\nㅠᅲ\nㅡᅳ\nㅢᅴ\nㅣᅵ\nㅤᅠ\nㅥᄔ\nㅦᄕ\nㅧᇇ\n" ++
  "ㅨᇈ\nㅩᇌ\nㅪᇎ\nㅫᇓ\nㅬᇗ\nㅭᇙ\nㅮᄜ\nㅯᇝ\nㅰᇟ\nㅱᄝ\nㅲᄞ\nㅳᄠ\nㅴᄢ\nㅵᄣ\nㅶᄧ\nㅷᄩ\n" ++
  "ㅸᄫ\nㅹᄬ\nㅺᄭ\nㅻᄮ\nㅼᄯ\nㅽᄲ\nㅾᄶ\nㅿᅀ\nㆀᅇ\nㆁᅌ\nㆂᇱ\nㆃᇲ\nㆄᅗ\nㆅᅘ\nㆆᅙ\n" ++
  "ㆇᆄ\nㆈᆅ\nㆉᆈ\nㆊᆑ\nㆋᆒ\nㆌᆔ\nㆍᆞ\nㆎᆡ\n㆒一\n㆓二\n㆔三\n㆕四\n㆖上\n㆗中\n㆘下\n㆙甲\n" ++
  "㆚乙\n㆛丙\n㆜丁\n㆝天\n㆞地\n㆟人\n㈀(ᄀ)\n㈁(ᄂ)\n㈂(ᄃ)\n㈃(ᄅ)\n㈄(ᄆ)\n㈅(ᄇ)\n" ++
  "㈆(ᄉ)\n㈇(ᄋ)\n㈈(ᄌ)\n㈉(ᄎ)\n㈊(ᄏ)\n㈋(ᄐ)\n㈌(ᄑ)\n㈍(ᄒ)\n㈎(가)\n㈏(나)\n" ++
  "㈐(다)\n㈑(라)\n㈒(마)\n㈓(바)\n㈔(사)\n㈕(아)\n㈖(자)\n㈗(차)\n㈘(카)\n㈙(타)\n" ++
  "㈚(파)\n㈛(하)\n㈜(주)\n㈠(一)\n㈡(二)\n㈢(三)\n㈣(四)\n㈤(五)\n㈥(六)\n㈦(七)\n" ++
  "㈧(八)\n㈨(九)\n㈩(十)\n㈪(月)\n㈫(火)\n㈬(水)\n㈭(木)\n㈮(金)\n㈯(土)\n㈰(日)\n㈱(株)\n" ++
  "㈲(有)\n㈳(社)\n㈴(名)\n㈵(特)\n㈶(財)\n㈷(祝)\n㈸(労)\n㈹(代)\n㈺(呼)\n㈻(学)\n㈼(監)\n" ++
  "㈽(企)\n㈾(資)\n㈿(協)\n㉀(祭)\n㉁(休)\n㉂(自)\n㉃(至)\n㉑21\n㉒22\n㉓23\n㉔24\n㉕25\n" ++
  "㉖26\n㉗27\n㉘28\n㉙29\n㉚30\n㉛31\n㉜32\n㉝33\n㉞34\n㉟35\n㉠ᄀ\n㉡ᄂ\n㉢ᄃ\n㉣ᄅ\n㉤ᄆ\n" ++
  "㉥ᄇ\n㉦ᄉ\n㉧ᄋ\n㉨ᄌ\n㉩ᄎ\n㉪ᄏ\n㉫ᄐ\n㉬ᄑ\n㉭ᄒ\n㉮가\n㉯나\n㉰다\n㉱라\n㉲마\n" ++
  "㉳바\n㉴사\n㉵아\n㉶자\n㉷차\n㉸카\n㉹타\n㉺파\n㉻하\n㊀一\n㊁二\n㊂三\n㊃四\n" ++
  "㊄五\n㊅六\n㊆七\n㊇八\n㊈九\n㊉十\n㊊月\n㊋火\n㊌水\n㊍木\n㊎金\n㊏土\n㊐日\n㊑株\n㊒有\n" ++
  "㊓社\n㊔名\n㊕特\n㊖財\n㊗祝\n㊘労\n㊙秘\n㊚男\n㊛女\n㊜適\n㊝優\n㊞印\n㊟注\n㊠項\n㊡休\n" ++
  "㊢写\n㊣正\n㊤上\n㊥中\n㊦下\n㊧左\n㊨右\n㊩医\n㊪宗\n㊫学\n㊬監\n㊭企\n㊮資\n㊯協\n㊰夜\n" ++
  "㊱36\n㊲37\n㊳38\n㊴39\n㊵40\n㊶41\n㊷42\n㊸43\n㊹44\n㊺45\n㊻46\n㊼47\n㊽48\n㊾49\n㊿50\n" ++
  "㋀1月\n㋁2月\n㋂3月\n㋃4月\n㋄5月\n㋅6月\n㋆7月\n㋇8月\n㋈9月\n㋉10月\n㋊11月\n㋋12月\n" ++
  "㋐ア\n㋑イ\n㋒ウ\n㋓エ\n㋔オ\n㋕カ\n㋖キ\n㋗ク\n㋘ケ\n㋙コ\n㋚サ\n㋛シ\n㋜ス\n㋝セ\n㋞ソ\n" ++
  "㋟タ\n㋠チ\n㋡ツ\n㋢テ\n㋣ト\n㋤ナ\n㋥ニ\n㋦ヌ\n㋧ネ\n㋨ノ\n㋩ハ\n㋪ヒ\n㋫フ\n㋬ヘ\n㋭ホ\n" ++
  "㋮マ\n㋯ミ\n㋰ム\n㋱メ\n㋲モ\n㋳ヤ\n㋴ユ\n㋵ヨ\n㋶ラ\n㋷リ\n㋸ル\n㋹レ\n㋺ロ\n㋻ワ\n㋼ヰ\n" ++
  "㋽ヱ\n㋾ヲ\n㌀アハ\u309aート\n㌁アルファ\n㌂アンヘ\u309aア\n㌃アール\n㌄イニンク\u3099\n" ++
  "㌅インチ\n㌆ウォン\n㌇エスクート\u3099\n㌈エーカー\n㌉オンス\n㌊オーム\n㌋カイリ\n" ++
  "㌌カラット\n㌍カロリー\n㌎カ\u3099ロン\n㌏カ\u3099ンマ\n㌐キ\u3099カ\u3099\n" ++
  "㌑キ\u3099ニー\n㌒キュリー\n㌓キ\u3099ルタ\u3099ー\n㌔キロ\n㌕キロク\u3099ラム\n" ++
  "㌖キロメートル\n㌗キロワット\n㌘ク\u3099ラム\n㌙ク\u3099ラムトン\n㌚クルセ\u3099イロ\n" ++
  "㌛クローネ\n㌜ケース\n㌝コルナ\n㌞コーホ\u309a\n㌟サイクル\n㌠サンチーム\n" ++
  "㌡シリンク\u3099\n㌢センチ\n㌣セント\n㌤タ\u3099ース\n㌥テ\u3099シ\n㌦ト\u3099ル\n㌧トン\n" ++
  "㌨ナノ\n㌩ノット\n㌪ハイツ\n㌫ハ\u309aーセント\n㌬ハ\u309aーツ\n㌭ハ\u3099ーレル\n" ++
  "㌮ヒ\u309aアストル\n㌯ヒ\u309aクル\n㌰ヒ\u309aコ\n㌱ヒ\u3099ル\n㌲ファラット\u3099\n" ++
  "㌳フィート\n㌴フ\u3099ッシェル\n㌵フラン\n㌶ヘクタール\n㌷ヘ\u309aソ\n㌸ヘ\u309aニヒ\n" ++
  "㌹ヘルツ\n㌺ヘ\u309aンス\n㌻ヘ\u309aーシ\u3099\n㌼ヘ\u3099ータ\n㌽ホ\u309aイント\n" ++
  "㌾ホ\u3099ルト\n㌿ホン\n㍀ホ\u309aント\u3099\n㍁ホール\n㍂ホーン\n㍃マイクロ\n㍄マイル\n" ++
  "㍅マッハ\n㍆マルク\n㍇マンション\n㍈ミクロン\n㍉ミリ\n㍊ミリハ\u3099ール\n㍋メカ\u3099\n" ++
  "㍌メカ\u3099トン\n㍍メートル\n㍎ヤート\u3099\n㍏ヤール\n㍐ユアン\n㍑リットル\n㍒リラ\n" ++
  "㍓ルヒ\u309aー\n㍔ルーフ\u3099ル\n㍕レム\n㍖レントケ\u3099ン\n㍗ワット\n㍘0点\n㍙1点\n" ++
  "㍚2点\n㍛3点\n㍜4点\n㍝5点\n㍞6点\n㍟7点\n㍠8点\n㍡9点\n㍢10点\n㍣11点\n㍤12点\n㍥13点\n" ++
  "㍦14点\n㍧15点\n㍨16点\n㍩17点\n㍪18点\n㍫19点\n㍬20点\n㍭21点\n㍮22点\n㍯23点\n㍰24点\n" ++
  "㍱hPa\n㍲da\n㍳AU\n㍴bar\n㍵oV\n㍶pc\n㍻平成\n㍼昭和\n㍽大正\n㍾明治\n㍿株式会社\n㎀pA\n" ++
  "㎁nA\n㎂μA\n㎃mA\n㎄kA\n㎅KB\n㎆MB\n㎇GB\n㎈cal\n㎉kcal\n㎊pF\n㎋nF\n㎌μF\n㎍μg\n㎎mg\n" ++
  "㎏kg\n㎐Hz\n㎑kHz\n㎒MHz\n㎓GHz\n㎔THz\n㎕μl\n㎖ml\n㎗dl\n㎘kl\n㎙fm\n㎚nm\n㎛μm\n㎜mm\n" ++
  "㎝cm\n㎞km\n㎟mm2\n㎠cm2\n㎡m2\n㎢km2\n㎣mm3\n㎤cm3\n㎥m3\n㎦km3\n㎧m∕s\n㎨m∕s2\n㎩Pa\n" ++
  "㎪kPa\n㎫MPa\n㎬GPa\n㎭rad\n㎮rad∕s\n㎯rad∕s2\n㎰ps\n㎱ns\n㎲μs\n㎳ms\n㎴pV\n㎵nV\n㎶μV\n" ++
  "㎷mV\n㎸kV\n㎹MV\n㎺pW\n㎻nW\n㎼μW\n㎽mW\n㎾kW\n㎿MW\n㏀kΩ\n㏁MΩ\n㏂a.m.\n㏃Bq\n㏄cc\n" ++
  "㏅cd\n㏆C∕kg\n㏇Co.\n㏈dB\n㏉Gy\n㏊ha\n㏋HP\n㏌in\n㏍KK\n㏎KM\n㏏kt\n㏐lm\n㏑ln\n㏒log\n" ++
  "㏓lx\n㏔mb\n㏕mil\n㏖mol\n㏗PH\n㏘p.m.\n㏙PPM\n㏚PR\n㏛sr\n㏜Sv\n㏝Wb\n㏠1日\n㏡2日\n" ++
  "㏢3日\n㏣4日\n㏤5日\n㏥6日\n㏦7日\n㏧8日\n㏨9日\n㏩10日\n㏪11日\n㏫12日\n㏬13日\n㏭14日\n" ++
  "㏮15日\n㏯16日\n㏰17日\n㏱18日\n㏲19日\n㏳20日\n㏴21日\n㏵22日\n㏶23日\n㏷24日\n㏸25日\n" ++
  "㏹26日\n㏺27日\n㏻28日\n㏼29日\n㏽30日\n㏾31日\n豈豈\n更更\n車車\n賈賈\n滑滑\n串串\n句句\n" ++
  "龜龜\n龜龜\n契契\n金金\n喇喇\n奈奈\n懶懶\n癩癩\n羅羅\n蘿蘿\n螺螺\n裸裸\n邏邏\n樂樂\n洛洛\n" ++
  "烙烙\n珞珞\n落落\n酪酪\n駱駱\n亂亂\n卵卵\n欄欄\n爛爛\n蘭蘭\n鸞鸞\n嵐嵐\n濫濫\n藍藍\n襤襤\n" ++
  "拉拉\n臘臘\n蠟蠟\n廊廊\n朗朗\n浪浪\n狼狼\n郎郎\n來來\n冷冷\n勞勞\n擄擄\n櫓櫓\n爐爐\n盧盧\n" ++
  "老老\n蘆蘆\n虜虜\n路路\n露露\n魯魯\n鷺鷺\n碌碌\n祿祿\n綠綠\n菉菉\n錄錄\n鹿鹿\n論論\n壟壟\n" ++
  "弄弄\n籠籠\n聾聾\n牢牢\n磊磊\n賂賂\n雷雷\n壘壘\n屢屢\n樓樓\n淚淚\n漏漏\n累累\n縷縷\n陋陋\n" ++
  "勒勒\n肋肋\n凜凜\n凌凌\n稜稜\n綾綾\n菱菱\n陵陵\n讀讀\n拏拏\n樂樂\n諾諾\n丹丹\n寧寧\n怒怒\n" ++
  "率率\n異異\n北北\n磻磻\n便便\n復復\n不不\n泌泌\n數數\n索索\n參參\n塞塞\n省省\n葉葉\n說說\n" ++
  "殺殺\n辰辰\n沈沈\n拾拾\n若若\n掠掠\n略略\n亮亮\n兩兩\n凉凉\n梁梁\n糧糧\n良良\n諒諒\n量量\n" ++
  "勵勵\n呂呂\n女女\n廬廬\n旅旅\n濾濾\n礪礪\n閭閭\n驪驪\n麗麗\n黎黎\n力力\n曆曆\n歷歷\n轢轢\n" ++
  "年年\n憐憐\n戀戀\n撚撚\n漣漣\n煉煉\n璉璉\n秊秊\n練練\n聯聯\n輦輦\n蓮蓮\n連連\n鍊鍊\n列列\n" ++
  "劣劣\n咽咽\n烈烈\n裂裂\n說說\n廉廉\n念念\n捻捻\n殮殮\n簾簾\n獵獵\n令令\n囹囹\n寧寧\n嶺嶺\n" ++
  "怜怜\n玲玲\n瑩瑩\n羚羚\n聆聆\n鈴鈴\n零零\n靈靈\n領領\n例例\n禮禮\n醴醴\n隸隸\n惡惡\n了了\n" ++
  "僚僚\n寮寮\n尿尿\n料料\n樂樂\n燎燎\n療療\n蓼蓼\n遼遼\n龍龍\n暈暈\n阮阮\n劉劉\n杻杻\n柳柳\n" ++
  "流流\n溜溜\n琉琉\n留留\n硫硫\n紐紐\n類類\n六六\n戮戮\n陸陸\n倫倫\n崙崙\n淪淪\n輪輪\n律律\n" ++
  "慄慄\n栗栗\n率率\n隆隆\n利利\n吏吏\n履履\n易易\n李李\n梨梨\n泥泥\n理理\n痢痢\n罹罹\n裏裏\n" ++
  "裡裡\n里里\n離離\n匿匿\n溺溺\n吝吝\n燐燐\n璘璘\n藺藺\n隣隣\n鱗鱗\n麟麟\n林林\n淋淋\n臨臨\n" ++
  "立立\n笠笠\n粒粒\n狀狀\n炙炙\n識識\n什什\n茶茶\n刺刺\n切切\n度度\n拓拓\n糖糖\n宅宅\n洞洞\n" ++
  "暴暴\n輻輻\n行行\n降降\n見見\n廓廓\n兀兀\n嗀嗀\n塚塚\n晴晴\n凞凞\n猪猪\n益益\n礼礼\n神神\n" ++
  "祥祥\n福福\n靖靖\n精精\n羽羽\n蘒蘒\n諸諸\n逸逸\n都都\n飯飯\n飼飼\n館館\n鶴鶴\n侮侮\n僧僧\n" ++
  "免免\n勉勉\n勤勤\n卑卑\n喝喝\n嘆嘆\n器器\n塀塀\n墨墨\n層層\n屮屮\n悔悔\n慨慨\n憎憎\n懲懲\n" ++
  "敏敏\n既既\n暑暑\n梅梅\n海海\n渚渚\n漢漢\n煮煮\n爫爫\n琢琢\n碑碑\n社社\n祉祉\n祈祈\n祐祐\n" ++
  "祖祖\n祝祝\n禍禍\n禎禎\n穀穀\n突突\n節節\n練練\n縉縉\n繁繁\n署署\n者者\n臭臭\n艹艹\n艹艹\n" ++
  "著著\n褐褐\n視視\n謁謁\n謹謹\n賓賓\n贈贈\n辶辶\n逸逸\n難難\n響響\n頻頻\n丽丽\n丸丸\n乁乁\n" ++
  "𠄢𠄢\n你你\n侮侮\n侻侻\n倂倂\n偺偺\n備備\n僧僧\n像像\n㒞㒞\n𠘺𠘺\n免免\n兔兔\n兤兤\n具具\n" ++
  "𠔜𠔜\n㒹㒹\n內內\n再再\n𠕋𠕋\n冗冗\n冤冤\n仌仌\n冬冬\n况况\n𩇟𩇟\n凵凵\n刃刃\n㓟㓟\n刻刻\n" ++
  "剆剆\n割割\n剷剷\n㔕㔕\n勇勇\n勉勉\n勤勤\n勺勺\n包包\n匆匆\n北北\n卉卉\n卑卑\n博博\n即即\n" ++
  "卽卽\n卿卿\n卿卿\n卿卿\n𠨬𠨬\n灰灰\n及及\n叟叟\n𠭣𠭣\n叫叫\n叱叱\n吆吆\n咞咞\n吸吸\n呈呈\n" ++
  "周周\n咢咢\n哶哶\n唐唐\n啓啓\n啣啣\n善善\n善善\n喙喙\n喫喫\n喳喳\n嗂嗂\n圖圖\n嘆嘆\n圗圗\n" ++
  "噑噑\n噴噴\n切切\n壮壮\n城城\n埴埴\n堍堍\n型型\n堲堲\n報報\n墬墬\n𡓤𡓤\n売売\n壷壷\n夆夆\n" ++
  "多多\n夢夢\n奢奢\n𡚨𡚨\n𡛪𡛪\n姬姬\n娛娛\n娧娧\n姘姘\n婦婦\n㛮㛮\n㛼𡍪\n嬈嬈\n嬾嬾\n嬾嬾\n" ++
  "𡧈𡧈\n寃寃\n寘寘\n寧寧\n寳寳\n𡬘𡬘\n寿寿\n将将\n当弳\n尢尢\n㞁㞁\n屠屠\n屮屮\n峀峀\n岍岍\n" ++
  "𡷤𡷤\n嵃嵃\n𡷦𡷦\n嵮嵮\n嵫嵫\n嵼嵼\n巡巡\n巢巢\n㠯㠯\n巽巽\n帨帨\n帽帽\n幩幩\n㡢㡢\n𢆃𢆃\n" ++
  "㡼㡼\n庰庰\n庳庳\n庶庶\n廊廊\n𪎒𪎒\n廾廾\n𢌱𢌱\n𢌱𢌱\n舁舁\n弢弢\n弢弢\n㣇㣇\n𣊸𣊸\n𦇚𦇚\n" ++
  "形形\n彫彫\n㣣㣣\n徚徚\n忍忍\n志志\n忹忹\n悁悁\n㤺㤺\n㤜㤜\n悔悔\n𢛔𢛔\n惇惇\n慈慈\n慌慌\n" ++
  "慎慎\n慌慌\n慺慺\n憎憎\n憲憲\n憤憤\n憯憯\n懞懞\n懲懲\n懶懶\n成成\n戛戛\n扝扝\n抱抱\n拔拔\n" ++
  "捐捐\n𢬌𢬌\n挽挽\n拼拼\n捨捨\n掃掃\n揤揤\n𢯱𢯱\n搢搢\n揅揅\n掩掩\n㨮㨮\n摩摩\n摾摾\n撝撝\n" ++
  "摷摷\n㩬㩬\n敏敏\n敬敬\n𣀊𣀊\n旣旣\n書書\n晉晉\n㬙㬙\n暑暑\n㬈㬈\n㫤㫤\n冒冒\n冕冕\n最最\n" ++
  "暜暜\n肭肭\n䏙䏙\n朗朗\n望望\n朡朡\n杞杞\n杓杓\n𣏃𣏃\n㭉㭉\n柺柺\n枅枅\n桒桒\n梅梅\n𣑭𣑭\n" ++
  "梎梎\n栟栟\n椔椔\n㮝㮝\n楂楂\n榣榣\n槪槪\n檨檨\n𣚣𣚣\n櫛櫛\n㰘㰘\n次次\n𣢧𣢧\n歔歔\n㱎㱎\n" ++
  "歲歲\n殟殟\n殺殺\n殻殻\n𣪍𣪍\n𡴋𡴋\n𣫺𣫺\n汎汎\n𣲼𣲼\n沿沿\n泍泍\n汧汧\n洖洖\n派派\n海海\n" ++
  "流流\n浩浩\n浸浸\n涅涅\n𣴞𣴞\n洴洴\n港港\n湮湮\n㴳㴳\n滋滋\n滇滇\n𣻑𣻑\n淹淹\n潮潮\n𣽞𣽞\n" ++
  "𣾎𣾎\n濆濆\n瀹瀹\n瀞瀞\n瀛瀛\n㶖㶖\n灊灊\n災災\n灷灷\n炭炭\n𠔥𠔥\n煅煅\n𤉣𤉣\n熜熜\n𤎫䎫\n" ++
  "爨爨\n爵爵\n牐牐\n𤘈𤘈\n犀犀\n犕犕\n𤜵𤜵\n𤠔𤠔\n獺獺\n王王\n㺬㺬\n玥玥\n㺸㺸\n㺸㺸\n瑇瑇\n" ++
  "瑜瑜\n瑱瑱\n璅璅\n瓊瓊\n㼛㼛\n甤甤\n𤰶𤰶\n甾甾\n𤲒𤲒\n異異\n𢆟𢆟\n瘐瘐\n𤾡𤾡\n𤾸𤾸\n𥁄𥁄\n" ++
  "㿼㿼\n䀈䀈\n直直\n𥃳𥃳\n𥃲𥃲\n𥄙𥄙\n𥄳𥄳\n眞眞\n真真\n真真\n睊睊\n䀹䀹\n瞋瞋\n䁆䁆\n䂖䂖\n" ++
  "𥐝𥐝\n硎硎\n碌碌\n磌磌\n䃣䃣\n𥘦𥘦\n祖祖\n𥚚𥚚\n𥛅𥛅\n福福\n秫秫\n䄯䄯\n穀穀\n穊穊\n穏穏\n" ++
  "𥥼𥥼\n𥪧𥪧\n𥪧𥪧\n竮窮\n䈂䈂\n𥮫𥮫\n篆篆\n築築\n䈧䈧\n𥲀𥲀\n糒糒\n䊠䊠\n糨糨\n糣糣\n紀紀\n" ++
  "𥾆𥾆\n絣絣\n䌁䌁\n緇緇\n縂縂\n繅繅\n䌴䌴\n𦈨𦈨\n𦉇𦉇\n䍙䍙\n𦋙𦋙\n罺罺\n𦌾𦌾\n羕羕\n翺翺\n" ++
  "者者\n𦓚𦓚\n𦔣𦔣\n聠聠\n𦖨𦖨\n聰聰\n𣍟𣍟\n䏕䏕\n育育\n脃脃\n䐋䐋\n脾脾\n媵媵\n𦞧𦞧\n𦞵𦞵\n" ++
  "𣎓𣎓\n𣎜𣎜\n舁舁\n舄舄\n辞辞\n䑫䑫\n芑芑\n芋芋\n芝芝\n劳劳\n花花\n芳芳\n芽芽\n苦苦\n𦬼𦬼\n" ++
  "若若\n茝茝\n荣荣\n莭莭\n茣茣\n莽莽\n菧菧\n著著\n荓荓\n菊菊\n菌菌\n菜菜\n𦰶𦰶\n𦵫𦵫\n𦳕𦳕\n" ++
  "䔫䔫\n蓱蓱\n蓳蓳\n蔖蔖\n𧏊𧏊\n蕤蕤\n𦼬𦼬\n䕝䕝\n䕡䕡\n𦾱𦾱\n𧃒𧃒\n䕫䕫\n虐虐\n虜虜\n虧虧\n" ++
  "虩虩\n蚩蚩\n蚈蚈\n蜎蜎\n蛢蛢\n蝹蝹\n蜨蜨\n蝫蝫\n螆螆\n䗗䵗\n蟡蟡\n蠁蠁\n䗹䗹\n衠衠\n衣衣\n" ++
  "𧙧𧙧\n裗裗\n裞裞\n䘵䘵\n裺裺\n㒻㒻\n𧢮𧢮\n𧥦𧥦\n䚾䚾\n䛇䛇\n誠誠\n諭諭\n變變\n豕豕\n𧲨𧲨\n" ++
  "貫貫\n賁賁\n贛贛\n起起\n𧼯𧼯\n𠠄𠠄\n跋跋\n趼趼\n跰跰\n𠣞𠣞\n軔軔\n輸輸\n𨗒𨗒\n𨗭𨗭\n邔邔\n" ++
  "郱郱\n鄑鄑\n𨜮𨜮\n鄛鄛\n鈸鈸\n鋗鋗\n鋘鋘\n鉼鉼\n鏹鏹\n鐕鐕\n𨯺𨯺\n開開\n䦕䦕\n閷閷\n𨵷𨵷\n" ++
  "䧦䧦\n雃雃\n嶲嶲\n霣霣\n𩅅𩅅\n𩈚𩈚\n䩮䩮\n䩶䩶\n韠韠\n𩐊𩐊\n䪲䪲\n𩒖𩒖\n頋頋\n頋頋\n頩頩\n" ++
  "𩖶𩖶\n飢飢\n䬳䬳\n餩餩\n馧馧\n駂駂\n駾駾\n䯎䯎\n𩬰𩬰\n鬒鬒\n鱀鱀\n鳽鳽\n䳎䳎\n䳭䳭\n鵧鵧\n" ++
  "𪃎𪃎\n䳸䳸\n𪄅𪄅\n𪈎𪈎\n𪊑𪊑\n麻麻\n䵖䵖\n黹黹\n黾黾\n鼅鼅\n鼏鼏\n鼖鼖\n鼻鼻\n𪘀𪘀\n"

/-- Shapes of letters that depend on their neighbours, and wide and narrow forms. -/
def shapeParts : String :=
  "ﬀff\nﬁfi\nﬂfl\nﬃffi\nﬄffl\nﬅst\nﬆst\nﬓմն\nﬔմե\nﬕմի\nﬖվն\nﬗմխ\n\ufb1d\u05d9\u05b4\n" ++
  "\ufb1f\u05f2\u05b7\n\ufb20\u05e2\n\ufb21\u05d0\n\ufb22\u05d3\n\ufb23\u05d4\n\ufb24\u05db\n" ++
  "\ufb25\u05dc\n\ufb26\u05dd\n\ufb27\u05e8\n\ufb28\u05ea\n﬩+\n\ufb2a\u05e9\u05c1\n" ++
  "\ufb2b\u05e9\u05c2\n\ufb2c\u05e9\u05bc\u05c1\n\ufb2d\u05e9\u05bc\u05c2\n" ++
  "\ufb2e\u05d0\u05b7\n\ufb2f\u05d0\u05b8\n\ufb30\u05d0\u05bc\n\ufb31\u05d1\u05bc\n" ++
  "\ufb32\u05d2\u05bc\n\ufb33\u05d3\u05bc\n\ufb34\u05d4\u05bc\n\ufb35\u05d5\u05bc\n" ++
  "\ufb36\u05d6\u05bc\n\ufb38\u05d8\u05bc\n\ufb39\u05d9\u05bc\n\ufb3a\u05da\u05bc\n" ++
  "\ufb3b\u05db\u05bc\n\ufb3c\u05dc\u05bc\n\ufb3e\u05de\u05bc\n\ufb40\u05e0\u05bc\n" ++
  "\ufb41\u05e1\u05bc\n\ufb43\u05e3\u05bc\n\ufb44\u05e4\u05bc\n\ufb46\u05e6\u05bc\n" ++
  "\ufb47\u05e7\u05bc\n\ufb48\u05e8\u05bc\n\ufb49\u05e9\u05bc\n\ufb4a\u05ea\u05bc\n" ++
  "\ufb4b\u05d5\u05b9\n\ufb4c\u05d1\u05bf\n\ufb4d\u05db\u05bf\n\ufb4e\u05e4\u05bf\n" ++
  "\ufb4f\u05d0\u05dc\n\ufb50\u0671\n\ufb51\u0671\n\ufb52\u067b\n\ufb53\u067b\n\ufb54\u067b\n" ++
  "\ufb55\u067b\n\ufb56\u067e\n\ufb57\u067e\n\ufb58\u067e\n\ufb59\u067e\n\ufb5a\u0680\n" ++
  "\ufb5b\u0680\n\ufb5c\u0680\n\ufb5d\u0680\n\ufb5e\u067a\n\ufb5f\u067a\n\ufb60\u067a\n" ++
  "\ufb61\u067a\n\ufb62\u067f\n\ufb63\u067f\n\ufb64\u067f\n\ufb65\u067f\n\ufb66\u0679\n" ++
  "\ufb67\u0679\n\ufb68\u0679\n\ufb69\u0679\n\ufb6a\u06a4\n\ufb6b\u06a4\n\ufb6c\u06a4\n" ++
  "\ufb6d\u06a4\n\ufb6e\u06a6\n\ufb6f\u06a6\n\ufb70\u06a6\n\ufb71\u06a6\n\ufb72\u0684\n" ++
  "\ufb73\u0684\n\ufb74\u0684\n\ufb75\u0684\n\ufb76\u0683\n\ufb77\u0683\n\ufb78\u0683\n" ++
  "\ufb79\u0683\n\ufb7a\u0686\n\ufb7b\u0686\n\ufb7c\u0686\n\ufb7d\u0686\n\ufb7e\u0687\n" ++
  "\ufb7f\u0687\n\ufb80\u0687\n\ufb81\u0687\n\ufb82\u068d\n\ufb83\u068d\n\ufb84\u068c\n" ++
  "\ufb85\u068c\n\ufb86\u068e\n\ufb87\u068e\n\ufb88\u0688\n\ufb89\u0688\n\ufb8a\u0698\n" ++
  "\ufb8b\u0698\n\ufb8c\u0691\n\ufb8d\u0691\n\ufb8e\u06a9\n\ufb8f\u06a9\n\ufb90\u06a9\n" ++
  "\ufb91\u06a9\n\ufb92\u06af\n\ufb93\u06af\n\ufb94\u06af\n\ufb95\u06af\n\ufb96\u06b3\n" ++
  "\ufb97\u06b3\n\ufb98\u06b3\n\ufb99\u06b3\n\ufb9a\u06b1\n\ufb9b\u06b1\n\ufb9c\u06b1\n" ++
  "\ufb9d\u06b1\n\ufb9e\u06ba\n\ufb9f\u06ba\n\ufba0\u06bb\n\ufba1\u06bb\n\ufba2\u06bb\n" ++
  "\ufba3\u06bb\n\ufba4\u06d5\u0654\n\ufba5\u06d5\u0654\n\ufba6\u06c1\n\ufba7\u06c1\n" ++
  "\ufba8\u06c1\n\ufba9\u06c1\n\ufbaa\u06be\n\ufbab\u06be\n\ufbac\u06be\n\ufbad\u06be\n" ++
  "\ufbae\u06d2\n\ufbaf\u06d2\n\ufbb0\u06d2\u0654\n\ufbb1\u06d2\u0654\n\ufbd3\u06ad\n" ++
  "\ufbd4\u06ad\n\ufbd5\u06ad\n\ufbd6\u06ad\n\ufbd7\u06c7\n\ufbd8\u06c7\n\ufbd9\u06c6\n" ++
  "\ufbda\u06c6\n\ufbdb\u06c8\n\ufbdc\u06c8\n\ufbdd\u06c7\u0674\n\ufbde\u06cb\n\ufbdf\u06cb\n" ++
  "\ufbe0\u06c5\n\ufbe1\u06c5\n\ufbe2\u06c9\n\ufbe3\u06c9\n\ufbe4\u06d0\n\ufbe5\u06d0\n" ++
  "\ufbe6\u06d0\n\ufbe7\u06d0\n\ufbe8\u0649\n\ufbe9\u0649\n\ufbea\u064a\u0654\u0627\n" ++
  "\ufbeb\u064a\u0654\u0627\n\ufbec\u064a\u0654\u06d5\n\ufbed\u064a\u0654\u06d5\n" ++
  "\ufbee\u064a\u0654\u0648\n\ufbef\u064a\u0654\u0648\n\ufbf0\u064a\u0654\u06c7\n" ++
  "\ufbf1\u064a\u0654\u06c7\n\ufbf2\u064a\u0654\u06c6\n\ufbf3\u064a\u0654\u06c6\n" ++
  "\ufbf4\u064a\u0654\u06c8\n\ufbf5\u064a\u0654\u06c8\n\ufbf6\u064a\u0654\u06d0\n" ++
  "\ufbf7\u064a\u0654\u06d0\n\ufbf8\u064a\u0654\u06d0\n\ufbf9\u064a\u0654\u0649\n" ++
  "\ufbfa\u064a\u0654\u0649\n\ufbfb\u064a\u0654\u0649\n\ufbfc\u06cc\n\ufbfd\u06cc\n" ++
  "\ufbfe\u06cc\n\ufbff\u06cc\n\ufc00\u064a\u0654\u062c\n\ufc01\u064a\u0654\u062d\n" ++
  "\ufc02\u064a\u0654\u0645\n\ufc03\u064a\u0654\u0649\n\ufc04\u064a\u0654\u064a\n" ++
  "\ufc05\u0628\u062c\n\ufc06\u0628\u062d\n\ufc07\u0628\u062e\n\ufc08\u0628\u0645\n" ++
  "\ufc09\u0628\u0649\n\ufc0a\u0628\u064a\n\ufc0b\u062a\u062c\n\ufc0c\u062a\u062d\n" ++
  "\ufc0d\u062a\u062e\n\ufc0e\u062a\u0645\n\ufc0f\u062a\u0649\n\ufc10\u062a\u064a\n" ++
  "\ufc11\u062b\u062c\n\ufc12\u062b\u0645\n\ufc13\u062b\u0649\n\ufc14\u062b\u064a\n" ++
  "\ufc15\u062c\u062d\n\ufc16\u062c\u0645\n\ufc17\u062d\u062c\n\ufc18\u062d\u0645\n" ++
  "\ufc19\u062e\u062c\n\ufc1a\u062e\u062d\n\ufc1b\u062e\u0645\n\ufc1c\u0633\u062c\n" ++
  "\ufc1d\u0633\u062d\n\ufc1e\u0633\u062e\n\ufc1f\u0633\u0645\n\ufc20\u0635\u062d\n" ++
  "\ufc21\u0635\u0645\n\ufc22\u0636\u062c\n\ufc23\u0636\u062d\n\ufc24\u0636\u062e\n" ++
  "\ufc25\u0636\u0645\n\ufc26\u0637\u062d\n\ufc27\u0637\u0645\n\ufc28\u0638\u0645\n" ++
  "\ufc29\u0639\u062c\n\ufc2a\u0639\u0645\n\ufc2b\u063a\u062c\n\ufc2c\u063a\u0645\n" ++
  "\ufc2d\u0641\u062c\n\ufc2e\u0641\u062d\n\ufc2f\u0641\u062e\n\ufc30\u0641\u0645\n" ++
  "\ufc31\u0641\u0649\n\ufc32\u0641\u064a\n\ufc33\u0642\u062d\n\ufc34\u0642\u0645\n" ++
  "\ufc35\u0642\u0649\n\ufc36\u0642\u064a\n\ufc37\u0643\u0627\n\ufc38\u0643\u062c\n" ++
  "\ufc39\u0643\u062d\n\ufc3a\u0643\u062e\n\ufc3b\u0643\u0644\n\ufc3c\u0643\u0645\n" ++
  "\ufc3d\u0643\u0649\n\ufc3e\u0643\u064a\n\ufc3f\u0644\u062c\n\ufc40\u0644\u062d\n" ++
  "\ufc41\u0644\u062e\n\ufc42\u0644\u0645\n\ufc43\u0644\u0649\n\ufc44\u0644\u064a\n" ++
  "\ufc45\u0645\u062c\n\ufc46\u0645\u062d\n\ufc47\u0645\u062e\n\ufc48\u0645\u0645\n" ++
  "\ufc49\u0645\u0649\n\ufc4a\u0645\u064a\n\ufc4b\u0646\u062c\n\ufc4c\u0646\u062d\n" ++
  "\ufc4d\u0646\u062e\n\ufc4e\u0646\u0645\n\ufc4f\u0646\u0649\n\ufc50\u0646\u064a\n" ++
  "\ufc51\u0647\u062c\n\ufc52\u0647\u0645\n\ufc53\u0647\u0649\n\ufc54\u0647\u064a\n" ++
  "\ufc55\u064a\u062c\n\ufc56\u064a\u062d\n\ufc57\u064a\u062e\n\ufc58\u064a\u0645\n" ++
  "\ufc59\u064a\u0649\n\ufc5a\u064a\u064a\n\ufc5b\u0630\u0670\n\ufc5c\u0631\u0670\n" ++
  "\ufc5d\u0649\u0670\n\ufc5e\x20\u064c\u0651\n\ufc5f\x20\u064d\u0651\n" ++
  "\ufc60\x20\u064e\u0651\n\ufc61\x20\u064f\u0651\n\ufc62\x20\u0650\u0651\n" ++
  "\ufc63\x20\u0651\u0670\n\ufc64\u064a\u0654\u0631\n\ufc65\u064a\u0654\u0632\n" ++
  "\ufc66\u064a\u0654\u0645\n\ufc67\u064a\u0654\u0646\n\ufc68\u064a\u0654\u0649\n" ++
  "\ufc69\u064a\u0654\u064a\n\ufc6a\u0628\u0631\n\ufc6b\u0628\u0632\n\ufc6c\u0628\u0645\n" ++
  "\ufc6d\u0628\u0646\n\ufc6e\u0628\u0649\n\ufc6f\u0628\u064a\n\ufc70\u062a\u0631\n" ++
  "\ufc71\u062a\u0632\n\ufc72\u062a\u0645\n\ufc73\u062a\u0646\n\ufc74\u062a\u0649\n" ++
  "\ufc75\u062a\u064a\n\ufc76\u062b\u0631\n\ufc77\u062b\u0632\n\ufc78\u062b\u0645\n" ++
  "\ufc79\u062b\u0646\n\ufc7a\u062b\u0649\n\ufc7b\u062b\u064a\n\ufc7c\u0641\u0649\n" ++
  "\ufc7d\u0641\u064a\n\ufc7e\u0642\u0649\n\ufc7f\u0642\u064a\n\ufc80\u0643\u0627\n" ++
  "\ufc81\u0643\u0644\n\ufc82\u0643\u0645\n\ufc83\u0643\u0649\n\ufc84\u0643\u064a\n" ++
  "\ufc85\u0644\u0645\n\ufc86\u0644\u0649\n\ufc87\u0644\u064a\n\ufc88\u0645\u0627\n" ++
  "\ufc89\u0645\u0645\n\ufc8a\u0646\u0631\n\ufc8b\u0646\u0632\n\ufc8c\u0646\u0645\n" ++
  "\ufc8d\u0646\u0646\n\ufc8e\u0646\u0649\n\ufc8f\u0646\u064a\n\ufc90\u0649\u0670\n" ++
  "\ufc91\u064a\u0631\n\ufc92\u064a\u0632\n\ufc93\u064a\u0645\n\ufc94\u064a\u0646\n" ++
  "\ufc95\u064a\u0649\n\ufc96\u064a\u064a\n\ufc97\u064a\u0654\u062c\n" ++
  "\ufc98\u064a\u0654\u062d\n\ufc99\u064a\u0654\u062e\n\ufc9a\u064a\u0654\u0645\n" ++
  "\ufc9b\u064a\u0654\u0647\n\ufc9c\u0628\u062c\n\ufc9d\u0628\u062d\n\ufc9e\u0628\u062e\n" ++
  "\ufc9f\u0628\u0645\n\ufca0\u0628\u0647\n\ufca1\u062a\u062c\n\ufca2\u062a\u062d\n" ++
  "\ufca3\u062a\u062e\n\ufca4\u062a\u0645\n\ufca5\u062a\u0647\n\ufca6\u062b\u0645\n" ++
  "\ufca7\u062c\u062d\n\ufca8\u062c\u0645\n\ufca9\u062d\u062c\n\ufcaa\u062d\u0645\n" ++
  "\ufcab\u062e\u062c\n\ufcac\u062e\u0645\n\ufcad\u0633\u062c\n\ufcae\u0633\u062d\n" ++
  "\ufcaf\u0633\u062e\n\ufcb0\u0633\u0645\n\ufcb1\u0635\u062d\n\ufcb2\u0635\u062e\n" ++
  "\ufcb3\u0635\u0645\n\ufcb4\u0636\u062c\n\ufcb5\u0636\u062d\n\ufcb6\u0636\u062e\n" ++
  "\ufcb7\u0636\u0645\n\ufcb8\u0637\u062d\n\ufcb9\u0638\u0645\n\ufcba\u0639\u062c\n" ++
  "\ufcbb\u0639\u0645\n\ufcbc\u063a\u062c\n\ufcbd\u063a\u0645\n\ufcbe\u0641\u062c\n" ++
  "\ufcbf\u0641\u062d\n\ufcc0\u0641\u062e\n\ufcc1\u0641\u0645\n\ufcc2\u0642\u062d\n" ++
  "\ufcc3\u0642\u0645\n\ufcc4\u0643\u062c\n\ufcc5\u0643\u062d\n\ufcc6\u0643\u062e\n" ++
  "\ufcc7\u0643\u0644\n\ufcc8\u0643\u0645\n\ufcc9\u0644\u062c\n\ufcca\u0644\u062d\n" ++
  "\ufccb\u0644\u062e\n\ufccc\u0644\u0645\n\ufccd\u0644\u0647\n\ufcce\u0645\u062c\n" ++
  "\ufccf\u0645\u062d\n\ufcd0\u0645\u062e\n\ufcd1\u0645\u0645\n\ufcd2\u0646\u062c\n" ++
  "\ufcd3\u0646\u062d\n\ufcd4\u0646\u062e\n\ufcd5\u0646\u0645\n\ufcd6\u0646\u0647\n" ++
  "\ufcd7\u0647\u062c\n\ufcd8\u0647\u0645\n\ufcd9\u0647\u0670\n\ufcda\u064a\u062c\n" ++
  "\ufcdb\u064a\u062d\n\ufcdc\u064a\u062e\n\ufcdd\u064a\u0645\n\ufcde\u064a\u0647\n" ++
  "\ufcdf\u064a\u0654\u0645\n\ufce0\u064a\u0654\u0647\n\ufce1\u0628\u0645\n" ++
  "\ufce2\u0628\u0647\n\ufce3\u062a\u0645\n\ufce4\u062a\u0647\n\ufce5\u062b\u0645\n" ++
  "\ufce6\u062b\u0647\n\ufce7\u0633\u0645\n\ufce8\u0633\u0647\n\ufce9\u0634\u0645\n" ++
  "\ufcea\u0634\u0647\n\ufceb\u0643\u0644\n\ufcec\u0643\u0645\n\ufced\u0644\u0645\n" ++
  "\ufcee\u0646\u0645\n\ufcef\u0646\u0647\n\ufcf0\u064a\u0645\n\ufcf1\u064a\u0647\n" ++
  "\ufcf2\u0640\u064e\u0651\n\ufcf3\u0640\u064f\u0651\n\ufcf4\u0640\u0650\u0651\n" ++
  "\ufcf5\u0637\u0649\n\ufcf6\u0637\u064a\n\ufcf7\u0639\u0649\n\ufcf8\u0639\u064a\n" ++
  "\ufcf9\u063a\u0649\n\ufcfa\u063a\u064a\n\ufcfb\u0633\u0649\n\ufcfc\u0633\u064a\n" ++
  "\ufcfd\u0634\u0649\n\ufcfe\u0634\u064a\n\ufcff\u062d\u0649\n\ufd00\u062d\u064a\n" ++
  "\ufd01\u062c\u0649\n\ufd02\u062c\u064a\n\ufd03\u062e\u0649\n\ufd04\u062e\u064a\n" ++
  "\ufd05\u0635\u0649\n\ufd06\u0635\u064a\n\ufd07\u0636\u0649\n\ufd08\u0636\u064a\n" ++
  "\ufd09\u0634\u062c\n\ufd0a\u0634\u062d\n\ufd0b\u0634\u062e\n\ufd0c\u0634\u0645\n" ++
  "\ufd0d\u0634\u0631\n\ufd0e\u0633\u0631\n\ufd0f\u0635\u0631\n\ufd10\u0636\u0631\n" ++
  "\ufd11\u0637\u0649\n\ufd12\u0637\u064a\n\ufd13\u0639\u0649\n\ufd14\u0639\u064a\n" ++
  "\ufd15\u063a\u0649\n\ufd16\u063a\u064a\n\ufd17\u0633\u0649\n\ufd18\u0633\u064a\n" ++
  "\ufd19\u0634\u0649\n\ufd1a\u0634\u064a\n\ufd1b\u062d\u0649\n\ufd1c\u062d\u064a\n" ++
  "\ufd1d\u062c\u0649\n\ufd1e\u062c\u064a\n\ufd1f\u062e\u0649\n\ufd20\u062e\u064a\n" ++
  "\ufd21\u0635\u0649\n\ufd22\u0635\u064a\n\ufd23\u0636\u0649\n\ufd24\u0636\u064a\n" ++
  "\ufd25\u0634\u062c\n\ufd26\u0634\u062d\n\ufd27\u0634\u062e\n\ufd28\u0634\u0645\n" ++
  "\ufd29\u0634\u0631\n\ufd2a\u0633\u0631\n\ufd2b\u0635\u0631\n\ufd2c\u0636\u0631\n" ++
  "\ufd2d\u0634\u062c\n\ufd2e\u0634\u062d\n\ufd2f\u0634\u062e\n\ufd30\u0634\u0645\n" ++
  "\ufd31\u0633\u0647\n\ufd32\u0634\u0647\n\ufd33\u0637\u0645\n\ufd34\u0633\u062c\n" ++
  "\ufd35\u0633\u062d\n\ufd36\u0633\u062e\n\ufd37\u0634\u062c\n\ufd38\u0634\u062d\n" ++
  "\ufd39\u0634\u062e\n\ufd3a\u0637\u0645\n\ufd3b\u0638\u0645\n\ufd3c\u0627\u064b\n" ++
  "\ufd3d\u0627\u064b\n\ufd50\u062a\u062c\u0645\n\ufd51\u062a\u062d\u062c\n" ++
  "\ufd52\u062a\u062d\u062c\n\ufd53\u062a\u062d\u0645\n\ufd54\u062a\u062e\u0645\n" ++
  "\ufd55\u062a\u0645\u062c\n\ufd56\u062a\u0645\u062d\n\ufd57\u062a\u0645\u062e\n" ++
  "\ufd58\u062c\u0645\u062d\n\ufd59\u062c\u0645\u062d\n\ufd5a\u062d\u0645\u064a\n" ++
  "\ufd5b\u062d\u0645\u0649\n\ufd5c\u0633\u062d\u062c\n\ufd5d\u0633\u062c\u062d\n" ++
  "\ufd5e\u0633\u062c\u0649\n\ufd5f\u0633\u0645\u062d\n\ufd60\u0633\u0645\u062d\n" ++
  "\ufd61\u0633\u0645\u062c\n\ufd62\u0633\u0645\u0645\n\ufd63\u0633\u0645\u0645\n" ++
  "\ufd64\u0635\u062d\u062d\n\ufd65\u0635\u062d\u062d\n\ufd66\u0635\u0645\u0645\n" ++
  "\ufd67\u0634\u062d\u0645\n\ufd68\u0634\u062d\u0645\n\ufd69\u0634\u062c\u064a\n" ++
  "\ufd6a\u0634\u0645\u062e\n\ufd6b\u0634\u0645\u062e\n\ufd6c\u0634\u0645\u0645\n" ++
  "\ufd6d\u0634\u0645\u0645\n\ufd6e\u0636\u062d\u0649\n\ufd6f\u0636\u062e\u0645\n" ++
  "\ufd70\u0636\u062e\u0645\n\ufd71\u0637\u0645\u062d\n\ufd72\u0637\u0645\u062d\n" ++
  "\ufd73\u0637\u0645\u0645\n\ufd74\u0637\u0645\u064a\n\ufd75\u0639\u062c\u0645\n" ++
  "\ufd76\u0639\u0645\u0645\n\ufd77\u0639\u0645\u0645\n\ufd78\u0639\u0645\u0649\n" ++
  "\ufd79\u063a\u0645\u0645\n\ufd7a\u063a\u0645\u064a\n\ufd7b\u063a\u0645\u0649\n" ++
  "\ufd7c\u0641\u062e\u0645\n\ufd7d\u0641\u062e\u0645\n\ufd7e\u0642\u0645\u062d\n" ++
  "\ufd7f\u0642\u0645\u0645\n\ufd80\u0644\u062d\u0645\n\ufd81\u0644\u062d\u064a\n" ++
  "\ufd82\u0644\u062d\u0649\n\ufd83\u0644\u062c\u062c\n\ufd84\u0644\u062c\u062c\n" ++
  "\ufd85\u0644\u062e\u0645\n\ufd86\u0644\u062e\u0645\n\ufd87\u0644\u0645\u062d\n" ++
  "\ufd88\u0644\u0645\u062d\n\ufd89\u0645\u062d\u062c\n\ufd8a\u0645\u062d\u0645\n" ++
  "\ufd8b\u0645\u062d\u064a\n\ufd8c\u0645\u062c\u062d\n\ufd8d\u0645\u062c\u0645\n" ++
  "\ufd8e\u0645\u062e\u062c\n\ufd8f\u0645\u062e\u0645\n\ufd92\u0645\u062c\u062e\n" ++
  "\ufd93\u0647\u0645\u062c\n\ufd94\u0647\u0645\u0645\n\ufd95\u0646\u062d\u0645\n" ++
  "\ufd96\u0646\u062d\u0649\n\ufd97\u0646\u062c\u0645\n\ufd98\u0646\u062c\u0645\n" ++
  "\ufd99\u0646\u062c\u0649\n\ufd9a\u0646\u0645\u064a\n\ufd9b\u0646\u0645\u0649\n" ++
  "\ufd9c\u064a\u0645\u0645\n\ufd9d\u064a\u0645\u0645\n\ufd9e\u0628\u062e\u064a\n" ++
  "\ufd9f\u062a\u062c\u064a\n\ufda0\u062a\u062c\u0649\n\ufda1\u062a\u062e\u064a\n" ++
  "\ufda2\u062a\u062e\u0649\n\ufda3\u062a\u0645\u064a\n\ufda4\u062a\u0645\u0649\n" ++
  "\ufda5\u062c\u0645\u064a\n\ufda6\u062c\u062d\u0649\n\ufda7\u062c\u0645\u0649\n" ++
  "\ufda8\u0633\u062e\u0649\n\ufda9\u0635\u062d\u064a\n\ufdaa\u0634\u062d\u064a\n" ++
  "\ufdab\u0636\u062d\u064a\n\ufdac\u0644\u062c\u064a\n\ufdad\u0644\u0645\u064a\n" ++
  "\ufdae\u064a\u062d\u064a\n\ufdaf\u064a\u062c\u064a\n\ufdb0\u064a\u0645\u064a\n" ++
  "\ufdb1\u0645\u0645\u064a\n\ufdb2\u0642\u0645\u064a\n\ufdb3\u0646\u062d\u064a\n" ++
  "\ufdb4\u0642\u0645\u062d\n\ufdb5\u0644\u062d\u0645\n\ufdb6\u0639\u0645\u064a\n" ++
  "\ufdb7\u0643\u0645\u064a\n\ufdb8\u0646\u062c\u062d\n\ufdb9\u0645\u062e\u064a\n" ++
  "\ufdba\u0644\u062c\u0645\n\ufdbb\u0643\u0645\u0645\n\ufdbc\u0644\u062c\u0645\n" ++
  "\ufdbd\u0646\u062c\u062d\n\ufdbe\u062c\u062d\u064a\n\ufdbf\u062d\u062c\u064a\n" ++
  "\ufdc0\u0645\u062c\u064a\n\ufdc1\u0641\u0645\u064a\n\ufdc2\u0628\u062d\u064a\n" ++
  "\ufdc3\u0643\u0645\u0645\n\ufdc4\u0639\u062c\u0645\n\ufdc5\u0635\u0645\u0645\n" ++
  "\ufdc6\u0633\u062e\u064a\n\ufdc7\u0646\u062c\u064a\n\ufdf0\u0635\u0644\u06d2\n" ++
  "\ufdf1\u0642\u0644\u06d2\n\ufdf2\u0627\u0644\u0644\u0647\n\ufdf3\u0627\u0643\u0628\u0631\n" ++
  "\ufdf4\u0645\u062d\u0645\u062f\n\ufdf5\u0635\u0644\u0639\u0645\n" ++
  "\ufdf6\u0631\u0633\u0648\u0644\n\ufdf7\u0639\u0644\u064a\u0647\n" ++
  "\ufdf8\u0648\u0633\u0644\u0645\n\ufdf9\u0635\u0644\u0649\n" ++
  "\ufdfa\u0635\u0644\u0649\x20\u0627\u0644\u0644\u0647\x20\u0639\u0644\u064a\u0647\x20\u0648\u0633\u0644\u0645\n" ++
  "\ufdfb\u062c\u0644\x20\u062c\u0644\u0627\u0644\u0647\n\ufdfc\u0631\u06cc\u0627\u0644\n" ++
  "︰..\n︱—\n︲–\n︳_\n︴_\n︵(\n︶)\n︷\x7b\n︸\x7d\n︹〔\n︺〕\n︻【\n︼】\n︽《\n︾》\n" ++
  "︿〈\n﹀〉\n﹁「\n﹂」\n﹃『\n﹄』\n﹉\x20\u0305\n﹊\x20\u0305\n﹋\x20\u0305\n" ++
  "﹌\x20\u0305\n﹍_\n﹎_\n﹏_\n﹐,\n﹑、\n﹒.\n﹔;\n﹕:\n﹖?\n﹗!\n﹘—\n﹙(\n﹚)\n﹛\x7b\n" ++
  "﹜\x7d\n﹝〔\n﹞〕\n﹟#\n﹠&\n﹡*\n﹢+\n﹣-\n﹤<\n﹥>\n﹦=\n﹨\\\n﹩$\n﹪%\n﹫@\n" ++
  "\ufe70\x20\u064b\n\ufe71\u0640\u064b\n\ufe72\x20\u064c\n\ufe74\x20\u064d\n" ++
  "\ufe76\x20\u064e\n\ufe77\u0640\u064e\n\ufe78\x20\u064f\n\ufe79\u0640\u064f\n" ++
  "\ufe7a\x20\u0650\n\ufe7b\u0640\u0650\n\ufe7c\x20\u0651\n\ufe7d\u0640\u0651\n" ++
  "\ufe7e\x20\u0652\n\ufe7f\u0640\u0652\n\ufe80\u0621\n\ufe81\u0627\u0653\n" ++
  "\ufe82\u0627\u0653\n\ufe83\u0627\u0654\n\ufe84\u0627\u0654\n\ufe85\u0648\u0654\n" ++
  "\ufe86\u0648\u0654\n\ufe87\u0627\u0655\n\ufe88\u0627\u0655\n\ufe89\u064a\u0654\n" ++
  "\ufe8a\u064a\u0654\n\ufe8b\u064a\u0654\n\ufe8c\u064a\u0654\n\ufe8d\u0627\n\ufe8e\u0627\n" ++
  "\ufe8f\u0628\n\ufe90\u0628\n\ufe91\u0628\n\ufe92\u0628\n\ufe93\u0629\n\ufe94\u0629\n" ++
  "\ufe95\u062a\n\ufe96\u062a\n\ufe97\u062a\n\ufe98\u062a\n\ufe99\u062b\n\ufe9a\u062b\n" ++
  "\ufe9b\u062b\n\ufe9c\u062b\n\ufe9d\u062c\n\ufe9e\u062c\n\ufe9f\u062c\n\ufea0\u062c\n" ++
  "\ufea1\u062d\n\ufea2\u062d\n\ufea3\u062d\n\ufea4\u062d\n\ufea5\u062e\n\ufea6\u062e\n" ++
  "\ufea7\u062e\n\ufea8\u062e\n\ufea9\u062f\n\ufeaa\u062f\n\ufeab\u0630\n\ufeac\u0630\n" ++
  "\ufead\u0631\n\ufeae\u0631\n\ufeaf\u0632\n\ufeb0\u0632\n\ufeb1\u0633\n\ufeb2\u0633\n" ++
  "\ufeb3\u0633\n\ufeb4\u0633\n\ufeb5\u0634\n\ufeb6\u0634\n\ufeb7\u0634\n\ufeb8\u0634\n" ++
  "\ufeb9\u0635\n\ufeba\u0635\n\ufebb\u0635\n\ufebc\u0635\n\ufebd\u0636\n\ufebe\u0636\n" ++
  "\ufebf\u0636\n\ufec0\u0636\n\ufec1\u0637\n\ufec2\u0637\n\ufec3\u0637\n\ufec4\u0637\n" ++
  "\ufec5\u0638\n\ufec6\u0638\n\ufec7\u0638\n\ufec8\u0638\n\ufec9\u0639\n\ufeca\u0639\n" ++
  "\ufecb\u0639\n\ufecc\u0639\n\ufecd\u063a\n\ufece\u063a\n\ufecf\u063a\n\ufed0\u063a\n" ++
  "\ufed1\u0641\n\ufed2\u0641\n\ufed3\u0641\n\ufed4\u0641\n\ufed5\u0642\n\ufed6\u0642\n" ++
  "\ufed7\u0642\n\ufed8\u0642\n\ufed9\u0643\n\ufeda\u0643\n\ufedb\u0643\n\ufedc\u0643\n" ++
  "\ufedd\u0644\n\ufede\u0644\n\ufedf\u0644\n\ufee0\u0644\n\ufee1\u0645\n\ufee2\u0645\n" ++
  "\ufee3\u0645\n\ufee4\u0645\n\ufee5\u0646\n\ufee6\u0646\n\ufee7\u0646\n\ufee8\u0646\n" ++
  "\ufee9\u0647\n\ufeea\u0647\n\ufeeb\u0647\n\ufeec\u0647\n\ufeed\u0648\n\ufeee\u0648\n" ++
  "\ufeef\u0649\n\ufef0\u0649\n\ufef1\u064a\n\ufef2\u064a\n\ufef3\u064a\n\ufef4\u064a\n" ++
  "\ufef5\u0644\u0627\u0653\n\ufef6\u0644\u0627\u0653\n\ufef7\u0644\u0627\u0654\n" ++
  "\ufef8\u0644\u0627\u0654\n\ufef9\u0644\u0627\u0655\n\ufefa\u0644\u0627\u0655\n" ++
  "\ufefb\u0644\u0627\n\ufefc\u0644\u0627\n！!\n＂\"\n＃#\n＄$\n％%\n＆&\n＇'\n（(\n）)\n" ++
  "＊*\n＋+\n，,\n－-\n．.\n／/\n０0\n１1\n２2\n３3\n４4\n５5\n６6\n７7\n８8\n９9\n：:\n；;\n" ++
  "＜<\n＝=\n＞>\n？?\n＠@\nＡA\nＢB\nＣC\nＤD\nＥE\nＦF\nＧG\nＨH\nＩI\nＪJ\nＫK\nＬL\nＭM\n" ++
  "ＮN\nＯO\nＰP\nＱQ\nＲR\nＳS\nＴT\nＵU\nＶV\nＷW\nＸX\nＹY\nＺZ\n［[\n＼\\\n］]\n＾^\n" ++
  "＿_\n｀`\nａa\nｂb\nｃc\nｄd\nｅe\nｆf\nｇg\nｈh\nｉi\nｊj\nｋk\nｌl\nｍm\nｎn\nｏo\nｐp\n" ++
  "ｑq\nｒr\nｓs\nｔt\nｕu\nｖv\nｗw\nｘx\nｙy\nｚz\n｛\x7b\n｜|\n｝\x7d\n～~\n｟⦅\n｠⦆\n" ++
  "｡。\n｢「\n｣」\n､、\n･・\nｦヲ\nｧァ\nｨィ\nｩゥ\nｪェ\nｫォ\nｬャ\nｭュ\nｮョ\nｯッ\nｰー\nｱア\nｲイ\n" ++
  "ｳウ\nｴエ\nｵオ\nｶカ\nｷキ\nｸク\nｹケ\nｺコ\nｻサ\nｼシ\nｽス\nｾセ\nｿソ\nﾀタ\nﾁチ\nﾂツ\nﾃテ\nﾄト\n" ++
  "ﾅナ\nﾆニ\nﾇヌ\nﾈネ\nﾉノ\nﾊハ\nﾋヒ\nﾌフ\nﾍヘ\nﾎホ\nﾏマ\nﾐミ\nﾑム\nﾒメ\nﾓモ\nﾔヤ\nﾕユ\nﾖヨ\n" ++
  "ﾗラ\nﾘリ\nﾙル\nﾚレ\nﾛロ\nﾜワ\nﾝン\nﾞ\u3099\nﾟ\u309a\nﾠᅠ\nﾡᄀ\nﾢᄁ\nﾣᆪ\nﾤᄂ\nﾥᆬ\nﾦᆭ\nﾧᄃ\n" ++
  "ﾨᄄ\nﾩᄅ\nﾪᆰ\nﾫᆱ\nﾬᆲ\nﾭᆳ\nﾮᆴ\nﾯᆵ\nﾰᄚ\nﾱᄆ\nﾲᄇ\nﾳᄈ\nﾴᄡ\nﾵᄉ\nﾶᄊ\nﾷᄋ\nﾸᄌ\nﾹᄍ\nﾺᄎ\n" ++
  "ﾻᄏ\nﾼᄐ\nﾽᄑ\nﾾᄒ\nￂᅡ\nￃᅢ\nￄᅣ\nￅᅤ\nￆᅥ\nￇᅦ\nￊᅧ\nￋᅨ\nￌᅩ\nￍᅪ\nￎᅫ\nￏᅬ\nￒᅭ\nￓᅮ\nￔᅯ\nￕᅰ\nￖᅱ\n" ++
  "ￗᅲ\nￚᅳ\nￛᅴ\nￜᅵ\n￠¢\n￡£\n￢¬\n￣\x20\u0304\n￤¦\n￥¥\n￦₩\n￨│\n￩←\n￪↑\n￫→\n￬↓\n￭■\n￮○\n"

def styledParts : String :=
  "𝅗𝅥𝅗𝅥\n𝅘𝅥𝅘𝅥\n𝅘𝅥𝅮𝅘𝅥𝅮\n𝅘𝅥𝅯𝅘𝅥𝅯\n𝅘𝅥𝅰𝅘𝅥𝅰\n𝅘𝅥𝅱𝅘𝅥𝅱\n𝅘𝅥𝅲𝅘𝅥𝅲\n𝆹𝅥𝆹𝅥\n𝆺𝅥𝆺𝅥\n𝆹𝅥𝅮𝆹𝅥𝅮\n𝆺𝅥𝅮𝆺𝅥𝅮\n𝆹𝅥𝅯𝆹𝅥𝅯\n𝆺𝅥𝅯𝆺𝅥𝅯\n𝐀A\n𝐁B\n𝐂C\n𝐃D\n" ++
  "𝐄E\n𝐅F\n𝐆G\n𝐇H\n𝐈I\n𝐉J\n𝐊K\n𝐋L\n𝐌M\n𝐍N\n𝐎O\n𝐏P\n𝐐Q\n𝐑R\n𝐒S\n𝐓T\n𝐔U\n𝐕V\n𝐖W\n𝐗X\n𝐘Y\n𝐙Z\n" ++
  "𝐚a\n𝐛b\n𝐜c\n𝐝d\n𝐞e\n𝐟f\n𝐠g\n𝐡h\n𝐢i\n𝐣j\n𝐤k\n𝐥l\n𝐦m\n𝐧n\n𝐨o\n𝐩p\n𝐪q\n𝐫r\n𝐬s\n𝐭t\n𝐮u\n𝐯v\n" ++
  "𝐰w\n𝐱x\n𝐲y\n𝐳z\n𝐴A\n𝐵B\n𝐶C\n𝐷D\n𝐸E\n𝐹F\n𝐺G\n𝐻H\n𝐼I\n𝐽J\n𝐾K\n𝐿L\n𝑀M\n𝑁N\n𝑂O\n𝑃P\n𝑄Q\n𝑅R\n" ++
  "𝑆S\n𝑇T\n𝑈U\n𝑉V\n𝑊W\n𝑋X\n𝑌Y\n𝑍Z\n𝑎a\n𝑏b\n𝑐c\n𝑑d\n𝑒e\n𝑓f\n𝑔g\n𝑖i\n𝑗j\n𝑘k\n𝑙l\n𝑚m\n𝑛n\n𝑜o\n" ++
  "𝑝p\n𝑞q\n𝑟r\n𝑠s\n𝑡t\n𝑢u\n𝑣v\n𝑤w\n𝑥x\n𝑦y\n𝑧z\n𝑨A\n𝑩B\n𝑪C\n𝑫D\n𝑬E\n𝑭F\n𝑮G\n𝑯H\n𝑰I\n𝑱J\n𝑲K\n" ++
  "𝑳L\n𝑴M\n𝑵N\n𝑶O\n𝑷P\n𝑸Q\n𝑹R\n𝑺S\n𝑻T\n𝑼U\n𝑽V\n𝑾W\n𝑿X\n𝒀Y\n𝒁Z\n𝒂a\n𝒃b\n𝒄c\n𝒅d\n𝒆e\n𝒇f\n𝒈g\n" ++
  "𝒉h\n𝒊i\n𝒋j\n𝒌k\n𝒍l\n𝒎m\n𝒏n\n𝒐o\n𝒑p\n𝒒q\n𝒓r\n𝒔s\n𝒕t\n𝒖u\n𝒗v\n𝒘w\n𝒙x\n𝒚y\n𝒛z\n𝒜A\n𝒞C\n𝒟D\n" ++
  "𝒢G\n𝒥J\n𝒦K\n𝒩N\n𝒪O\n𝒫P\n𝒬Q\n𝒮S\n𝒯T\n𝒰U\n𝒱V\n𝒲W\n𝒳X\n𝒴Y\n𝒵Z\n𝒶a\n𝒷b\n𝒸c\n𝒹d\n𝒻f\n𝒽h\n𝒾i\n" ++
  "𝒿j\n𝓀k\n𝓂m\n𝓃n\n𝓅p\n𝓆q\n𝓇r\n𝓈s\n𝓉t\n𝓊u\n𝓋v\n𝓌w\n𝓍x\n𝓎y\n𝓏z\n𝓐A\n𝓑B\n𝓒C\n𝓓D\n𝓔E\n𝓕F\n𝓖G\n" ++
  "𝓗H\n𝓘I\n𝓙J\n𝓚K\n𝓛L\n𝓜M\n𝓝N\n𝓞O\n𝓟P\n𝓠Q\n𝓡R\n𝓢S\n𝓣T\n𝓤U\n𝓥V\n𝓦W\n𝓧X\n𝓨Y\n𝓩Z\n𝓪a\n𝓫b\n𝓬c\n" ++
  "𝓭d\n𝓮e\n𝓯f\n𝓰g\n𝓱h\n𝓲i\n𝓳j\n𝓴k\n𝓵l\n𝓶m\n𝓷n\n𝓸o\n𝓹p\n𝓺q\n𝓻r\n𝓼s\n𝓽t\n𝓾u\n𝓿v\n𝔀w\n𝔁x\n𝔂y\n" ++
  "𝔃z\n𝔄A\n𝔅B\n𝔇D\n𝔈E\n𝔉F\n𝔊G\n𝔍J\n𝔎K\n𝔏L\n𝔐M\n𝔑N\n𝔒O\n𝔓P\n𝔔Q\n𝔖S\n𝔗T\n𝔘U\n𝔙V\n𝔚W\n𝔛X\n𝔜Y\n" ++
  "𝔞a\n𝔟b\n𝔠c\n𝔡d\n𝔢e\n𝔣f\n𝔤g\n𝔥h\n𝔦i\n𝔧j\n𝔨k\n𝔩l\n𝔪m\n𝔫n\n𝔬o\n𝔭p\n𝔮q\n𝔯r\n𝔰s\n𝔱t\n𝔲u\n𝔳v\n" ++
  "𝔴w\n𝔵x\n𝔶y\n𝔷z\n𝔸A\n𝔹B\n𝔻D\n𝔼E\n𝔽F\n𝔾G\n𝕀I\n𝕁J\n𝕂K\n𝕃L\n𝕄M\n𝕆O\n𝕊S\n𝕋T\n𝕌U\n𝕍V\n𝕎W\n𝕏X\n" ++
  "𝕐Y\n𝕒a\n𝕓b\n𝕔c\n𝕕d\n𝕖e\n𝕗f\n𝕘g\n𝕙h\n𝕚i\n𝕛j\n𝕜k\n𝕝l\n𝕞m\n𝕟n\n𝕠o\n𝕡p\n𝕢q\n𝕣r\n𝕤s\n𝕥t\n𝕦u\n" ++
  "𝕧v\n𝕨w\n𝕩x\n𝕪y\n𝕫z\n𝕬A\n𝕭B\n𝕮C\n𝕯D\n𝕰E\n𝕱F\n𝕲G\n𝕳H\n𝕴I\n𝕵J\n𝕶K\n𝕷L\n𝕸M\n𝕹N\n𝕺O\n𝕻P\n𝕼Q\n" ++
  "𝕽R\n𝕾S\n𝕿T\n𝖀U\n𝖁V\n𝖂W\n𝖃X\n𝖄Y\n𝖅Z\n𝖆a\n𝖇b\n𝖈c\n𝖉d\n𝖊e\n𝖋f\n𝖌g\n𝖍h\n𝖎i\n𝖏j\n𝖐k\n𝖑l\n𝖒m\n" ++
  "𝖓n\n𝖔o\n𝖕p\n𝖖q\n𝖗r\n𝖘s\n𝖙t\n𝖚u\n𝖛v\n𝖜w\n𝖝x\n𝖞y\n𝖟z\n𝖠A\n𝖡B\n𝖢C\n𝖣D\n𝖤E\n𝖥F\n𝖦G\n𝖧H\n𝖨I\n" ++
  "𝖩J\n𝖪K\n𝖫L\n𝖬M\n𝖭N\n𝖮O\n𝖯P\n𝖰Q\n𝖱R\n𝖲S\n𝖳T\n𝖴U\n𝖵V\n𝖶W\n𝖷X\n𝖸Y\n𝖹Z\n𝖺a\n𝖻b\n𝖼c\n𝖽d\n𝖾e\n" ++
  "𝖿f\n𝗀g\n𝗁h\n𝗂i\n𝗃j\n𝗄k\n𝗅l\n𝗆m\n𝗇n\n𝗈o\n𝗉p\n𝗊q\n𝗋r\n𝗌s\n𝗍t\n𝗎u\n𝗏v\n𝗐w\n𝗑x\n𝗒y\n𝗓z\n𝗔A\n" ++
  "𝗕B\n𝗖C\n𝗗D\n𝗘E\n𝗙F\n𝗚G\n𝗛H\n𝗜I\n𝗝J\n𝗞K\n𝗟L\n𝗠M\n𝗡N\n𝗢O\n𝗣P\n𝗤Q\n𝗥R\n𝗦S\n𝗧T\n𝗨U\n𝗩V\n𝗪W\n" ++
  "𝗫X\n𝗬Y\n𝗭Z\n𝗮a\n𝗯b\n𝗰c\n𝗱d\n𝗲e\n𝗳f\n𝗴g\n𝗵h\n𝗶i\n𝗷j\n𝗸k\n𝗹l\n𝗺m\n𝗻n\n𝗼o\n𝗽p\n𝗾q\n𝗿r\n𝘀s\n" ++
  "𝘁t\n𝘂u\n𝘃v\n𝘄w\n𝘅x\n𝘆y\n𝘇z\n𝘈A\n𝘉B\n𝘊C\n𝘋D\n𝘌E\n𝘍F\n𝘎G\n𝘏H\n𝘐I\n𝘑J\n𝘒K\n𝘓L\n𝘔M\n𝘕N\n𝘖O\n" ++
  "𝘗P\n𝘘Q\n𝘙R\n𝘚S\n𝘛T\n𝘜U\n𝘝V\n𝘞W\n𝘟X\n𝘠Y\n𝘡Z\n𝘢a\n𝘣b\n𝘤c\n𝘥d\n𝘦e\n𝘧f\n𝘨g\n𝘩h\n𝘪i\n𝘫j\n𝘬k\n" ++
  "𝘭l\n𝘮m\n𝘯n\n𝘰o\n𝘱p\n𝘲q\n𝘳r\n𝘴s\n𝘵t\n𝘶u\n𝘷v\n𝘸w\n𝘹x\n𝘺y\n𝘻z\n𝘼A\n𝘽B\n𝘾C\n𝘿D\n𝙀E\n𝙁F\n𝙂G\n" ++
  "𝙃H\n𝙄I\n𝙅J\n𝙆K\n𝙇L\n𝙈M\n𝙉N\n𝙊O\n𝙋P\n𝙌Q\n𝙍R\n𝙎S\n𝙏T\n𝙐U\n𝙑V\n𝙒W\n𝙓X\n𝙔Y\n𝙕Z\n𝙖a\n𝙗b\n𝙘c\n" ++
  "𝙙d\n𝙚e\n𝙛f\n𝙜g\n𝙝h\n𝙞i\n𝙟j\n𝙠k\n𝙡l\n𝙢m\n𝙣n\n𝙤o\n𝙥p\n𝙦q\n𝙧r\n𝙨s\n𝙩t\n𝙪u\n𝙫v\n𝙬w\n𝙭x\n𝙮y\n" ++
  "𝙯z\n𝙰A\n𝙱B\n𝙲C\n𝙳D\n𝙴E\n𝙵F\n𝙶G\n𝙷H\n𝙸I\n𝙹J\n𝙺K\n𝙻L\n𝙼M\n𝙽N\n𝙾O\n𝙿P\n𝚀Q\n𝚁R\n𝚂S\n𝚃T\n𝚄U\n" ++
  "𝚅V\n𝚆W\n𝚇X\n𝚈Y\n𝚉Z\n𝚊a\n𝚋b\n𝚌c\n𝚍d\n𝚎e\n𝚏f\n𝚐g\n𝚑h\n𝚒i\n𝚓j\n𝚔k\n𝚕l\n𝚖m\n𝚗n\n𝚘o\n𝚙p\n𝚚q\n" ++
  "𝚛r\n𝚜s\n𝚝t\n𝚞u\n𝚟v\n𝚠w\n𝚡x\n𝚢y\n𝚣z\n𝚨Α\n𝚩Β\n𝚪Γ\n𝚫Δ\n𝚬Ε\n𝚭Ζ\n𝚮Η\n𝚯Θ\n𝚰Ι\n𝚱Κ\n𝚲Λ\n𝚳Μ\n𝚴Ν\n" ++
  "𝚵Ξ\n𝚶Ο\n𝚷Π\n𝚸Ρ\n𝚹Θ\n𝚺Σ\n𝚻Τ\n𝚼Υ\n𝚽Φ\n𝚾Χ\n𝚿Ψ\n𝛀Ω\n𝛁∇\n𝛂α\n𝛃β\n𝛄γ\n𝛅δ\n𝛆ε\n𝛇ζ\n𝛈η\n𝛉θ\n𝛊ι\n" ++
  "𝛋κ\n𝛌λ\n𝛍μ\n𝛎ν\n𝛏ξ\n𝛐ο\n𝛑π\n𝛒ρ\n𝛓ς\n𝛔σ\n𝛕τ\n𝛖υ\n𝛗φ\n𝛘χ\n𝛙ψ\n𝛚ω\n𝛛∂\n𝛜ε\n𝛝θ\n𝛞κ\n𝛟φ\n𝛠ρ\n" ++
  "𝛡π\n𝛢Α\n𝛣Β\n𝛤Γ\n𝛥Δ\n𝛦Ε\n𝛧Ζ\n𝛨Η\n𝛩Θ\n𝛪Ι\n𝛫Κ\n𝛬Λ\n𝛭Μ\n𝛮Ν\n𝛯Ξ\n𝛰Ο\n𝛱Π\n𝛲Ρ\n𝛳Θ\n𝛴Σ\n𝛵Τ\n𝛶Υ\n" ++
  "𝛷Φ\n𝛸Χ\n𝛹Ψ\n𝛺Ω\n𝛻∇\n𝛼α\n𝛽β\n𝛾γ\n𝛿δ\n𝜀ε\n𝜁ζ\n𝜂η\n𝜃θ\n𝜄ι\n𝜅κ\n𝜆λ\n𝜇μ\n𝜈ν\n𝜉ξ\n𝜊ο\n𝜋π\n𝜌ρ\n" ++
  "𝜍ς\n𝜎σ\n𝜏τ\n𝜐υ\n𝜑φ\n𝜒χ\n𝜓ψ\n𝜔ω\n𝜕∂\n𝜖ε\n𝜗θ\n𝜘κ\n𝜙φ\n𝜚ρ\n𝜛π\n𝜜Α\n𝜝Β\n𝜞Γ\n𝜟Δ\n𝜠Ε\n𝜡Ζ\n𝜢Η\n" ++
  "𝜣Θ\n𝜤Ι\n𝜥Κ\n𝜦Λ\n𝜧Μ\n𝜨Ν\n𝜩Ξ\n𝜪Ο\n𝜫Π\n𝜬Ρ\n𝜭Θ\n𝜮Σ\n𝜯Τ\n𝜰Υ\n𝜱Φ\n𝜲Χ\n𝜳Ψ\n𝜴Ω\n𝜵∇\n𝜶α\n𝜷β\n𝜸γ\n" ++
  "𝜹δ\n𝜺ε\n𝜻ζ\n𝜼η\n𝜽θ\n𝜾ι\n𝜿κ\n𝝀λ\n𝝁μ\n𝝂ν\n𝝃ξ\n𝝄ο\n𝝅π\n𝝆ρ\n𝝇ς\n𝝈σ\n𝝉τ\n𝝊υ\n𝝋φ\n𝝌χ\n𝝍ψ\n𝝎ω\n" ++
  "𝝏∂\n𝝐ε\n𝝑θ\n𝝒κ\n𝝓φ\n𝝔ρ\n𝝕π\n𝝖Α\n𝝗Β\n𝝘Γ\n𝝙Δ\n𝝚Ε\n𝝛Ζ\n𝝜Η\n𝝝Θ\n𝝞Ι\n𝝟Κ\n𝝠Λ\n𝝡Μ\n𝝢Ν\n𝝣Ξ\n𝝤Ο\n" ++
  "𝝥Π\n𝝦Ρ\n𝝧Θ\n𝝨Σ\n𝝩Τ\n𝝪Υ\n𝝫Φ\n𝝬Χ\n𝝭Ψ\n𝝮Ω\n𝝯∇\n𝝰α\n𝝱β\n𝝲γ\n𝝳δ\n𝝴ε\n𝝵ζ\n𝝶η\n𝝷θ\n𝝸ι\n𝝹κ\n𝝺λ\n" ++
  "𝝻μ\n𝝼ν\n𝝽ξ\n𝝾ο\n𝝿π\n𝞀ρ\n𝞁ς\n𝞂σ\n𝞃τ\n𝞄υ\n𝞅φ\n𝞆χ\n𝞇ψ\n𝞈ω\n𝞉∂\n𝞊ε\n𝞋θ\n𝞌κ\n𝞍φ\n𝞎ρ\n𝞏π\n𝞐Α\n" ++
  "𝞑Β\n𝞒Γ\n𝞓Δ\n𝞔Ε\n𝞕Ζ\n𝞖Η\n𝞗Θ\n𝞘Ι\n𝞙Κ\n𝞚Λ\n𝞛Μ\n𝞜Ν\n𝞝Ξ\n𝞞Ο\n𝞟Π\n𝞠Ρ\n𝞡Θ\n𝞢Σ\n𝞣Τ\n𝞤Υ\n𝞥Φ\n𝞦Χ\n" ++
  "𝞧Ψ\n𝞨Ω\n𝞩∇\n𝞪α\n𝞫β\n𝞬γ\n𝞭δ\n𝞮ε\n𝞯ζ\n𝞰η\n𝞱θ\n𝞲ι\n𝞳κ\n𝞴λ\n𝞵μ\n𝞶ν\n𝞷ξ\n𝞸ο\n𝞹π\n𝞺ρ\n𝞻ς\n𝞼σ\n" ++
  "𝞽τ\n𝞾υ\n𝞿φ\n𝟀χ\n𝟁ψ\n𝟂ω\n𝟃∂\n𝟄ε\n𝟅θ\n𝟆κ\n𝟇φ\n𝟈ρ\n𝟉π\n𝟎0\n𝟏1\n𝟐2\n𝟑3\n𝟒4\n𝟓5\n𝟔6\n𝟕7\n𝟖8\n" ++
  "𝟗9\n𝟘0\n𝟙1\n𝟚2\n𝟛3\n𝟜4\n𝟝5\n𝟞6\n𝟟7\n𝟠8\n𝟡9\n𝟢0\n𝟣1\n𝟤2\n𝟥3\n𝟦4\n𝟧5\n𝟨6\n𝟩7\n𝟪8\n𝟫9\n𝟬0\n" ++
  "𝟭1\n𝟮2\n𝟯3\n𝟰4\n𝟱5\n𝟲6\n𝟳7\n𝟴8\n𝟵9\n𝟶0\n𝟷1\n𝟸2\n𝟹3\n𝟺4\n𝟻5\n𝟼6\n𝟽7\n𝟾8\n𝟿9\n"

/-! ### Compatible forms

The compatible form of a text: one text for all texts that mean the same to a reader. Every character
is taken apart, marks are put in order, and then letters and marks are put together again as far as
there are characters for them. Syllables of Korean are taken apart and put together by a rule.
-/

/-! ### Taking apart -/

def allParts : List (Char × List Char) :=
  entries (letterParts ++ ideographParts ++ shapeParts ++ styledParts)

/-- The first letter, the number of first letters after it, and likewise for the other two places in
a syllable; the last place may be free. -/
def syllableFirst : Nat := 0x1100
def syllableMiddle : Nat := 0x1161
def syllableLast : Nat := 0x11A7

def firstSyllable : Nat := 0xAC00

def letters? (c : Char) : Option (List Char) :=
  let n := c.toNat - firstSyllable
  if firstSyllable ≤ c.toNat && n < 11172 then
    let last := if n % 28 = 0 then [] else [Char.ofNat (syllableLast + n % 28)]
    some (Char.ofNat (syllableFirst + n / 588) :: Char.ofNat (syllableMiddle + n / 28 % 21) :: last)
  else none

def apart (c : Char) : List Char :=
  if c.toNat < 0xA0 then [c]
  else
    match letters? c with
    | some letters => letters
    | none => (allParts.lookup c).getD [c]

/-! ### Order -/

def rank (c : Char) : Nat :=
  match inRange? rankRanges (fun range => (range.1, range.2.1)) c.toNat with
  | some range => range.2.2
  | none => 0

def putMark (mark : Char) : List Char → List Char
  | [] => [mark]
  | c :: rest =>
    -- the marks stand in reverse order
    if rank mark < rank c then c :: putMark mark rest else mark :: c :: rest

def inOrder (text : List Char) : List Char :=
  (text.foldl (fun done c => if rank c = 0 then c :: done else putMark c done) []).reverse

/-! ### Putting together -/

def allPairs : List ((Char × Char) × Char) :=
  collect pairs.toList
where
  /-- Three characters for each pair. -/
  collect : List Char → List ((Char × Char) × Char)
    | a :: b :: c :: rest => ((a, b), c) :: collect rest
    | _ => []

/-- The character that a letter makes with what follows it, and what then is left. Between the two
there may be marks of smaller ranks; `passed` is the rank of the last one. -/
def gather (c : Char) (passed : Nat) : List Char → Char × List Char
  | [] => (c, [])
  | d :: rest =>
    let rank := rank d
    if passed ≠ 0 && rank = 0 then (c, d :: rest)
    else if passed ≠ 0 && rank ≤ passed then
      let (c, rest) := gather c passed rest
      (c, d :: rest)
    else
      match allPairs.lookup (c, d) with
      | some made => gather made passed rest
      | none =>
        if rank = 0 then (c, d :: rest)
        else
          let (c, rest) := gather c rank rest
          (c, d :: rest)

def syllable? : List Char → Option (Char × List Char)
  | first :: middle :: rest =>
    let a := first.toNat - syllableFirst
    let b := middle.toNat - syllableMiddle
    if syllableFirst ≤ first.toNat && a < 19 && syllableMiddle ≤ middle.toNat && b < 21 then
      let open_ := firstSyllable + (a * 21 + b) * 28
      match rest with
      | last :: after =>
        let d := last.toNat - syllableLast
        if syllableLast < last.toNat && d < 28 then some (Char.ofNat (open_ + d), after)
        else some (Char.ofNat open_, rest)
      | [] => some (Char.ofNat open_, rest)
    else none
  | _ => none

def together : Nat → List Char → List Char
  | 0, text => text
  | _, [] => []
  | fuel + 1, c :: rest =>
    match syllable? (c :: rest) with
    | some (made, rest) => made :: together fuel rest
    | none =>
      let (made, rest) := gather c 0 rest
      made :: together fuel rest

def compatible (text : List Char) : List Char :=
  if text.all (·.toNat < 0xA0) then text
  else
    let parts := inOrder (text.flatMap apart)
    together parts.length parts

end Scalpel.Text.Normal
