/-
Characters of names beyond ASCII.

The characters beyond ASCII that can be shown are symbols, which are in no names, and characters of
names; of those, marks and digits cannot begin one.  Letters and numbers are another class: marks
are not among them, but symbols that stand for numbers are.  The ranges below, each with both of its
ends, are those of version 14 of the Unicode character database; a character that cannot be shown
may lie in any of them.
-/
import ComputeNodes.Text.Digit
import ComputeNodes.Text.Printable

namespace ComputeNodes.Text

/-- The characters that are in no names, from 161 on. -/
def symbolRanges1 : List (Nat × Nat) :=
  [
    (161, 169), (171, 180), (182, 182), (184, 185), (187, 191), (215, 215), (247, 247),
    (706, 709), (722, 735), (741, 747), (749, 749), (751, 767), (885, 885), (890, 890),
    (894, 894), (900, 901), (1014, 1014), (1154, 1154), (1160, 1161), (1370, 1375), (1417, 1423),
    (1470, 1470), (1472, 1472), (1475, 1475), (1478, 1478), (1523, 1551), (1563, 1567),
    (1642, 1645), (1748, 1748), (1758, 1758), (1769, 1769), (1789, 1790), (1792, 1805),
    (2038, 2041), (2046, 2047), (2096, 2110), (2142, 2142), (2184, 2184), (2404, 2405),
    (2416, 2416), (2546, 2555), (2557, 2557), (2678, 2678), (2800, 2801), (2928, 2928),
    (2930, 2935), (3056, 3066), (3191, 3199), (3204, 3204), (3407, 3407), (3416, 3422),
    (3440, 3449), (3572, 3572), (3647, 3647), (3663, 3663), (3674, 3675), (3841, 3863),
    (3866, 3871), (3882, 3892), (3894, 3894), (3896, 3896), (3898, 3901), (3973, 3973),
    (4030, 4037), (4039, 4058), (4170, 4175), (4254, 4255), (4347, 4347), (4960, 4968),
    (4978, 4988), (5008, 5017), (5120, 5120), (5741, 5742), (5787, 5788), (5867, 5869),
    (5941, 5942), (6100, 6102), (6104, 6107), (6128, 6154), (6464, 6469), (6622, 6655),
    (6686, 6687), (6816, 6822), (6824, 6829), (6846, 6846), (7002, 7018), (7028, 7038),
    (7164, 7167), (7227, 7231), (7294, 7295), (7360, 7367), (7379, 7379), (8125, 8125),
    (8127, 8129), (8141, 8143), (8157, 8159), (8173, 8175), (8189, 8254), (8257, 8275),
    (8277, 8304)
  ]

/-- The characters that are in no names, from 8308 on. -/
def symbolRanges2 : List (Nat × Nat) :=
  [
    (8308, 8318), (8320, 8334), (8352, 8384), (8413, 8416), (8418, 8420), (8448, 8449),
    (8451, 8454), (8456, 8457), (8468, 8468), (8470, 8471), (8478, 8483), (8485, 8485),
    (8487, 8487), (8489, 8489), (8506, 8507), (8512, 8516), (8522, 8525), (8527, 8543),
    (8585, 11263), (11493, 11498), (11513, 11519), (11632, 11632), (11776, 12292), (12296, 12320),
    (12336, 12336), (12342, 12343), (12349, 12351), (12443, 12444), (12448, 12448),
    (12539, 12539), (12688, 12703), (12736, 12771), (12800, 13311), (19904, 19967),
    (42128, 42182), (42238, 42239), (42509, 42511), (42608, 42611), (42622, 42622),
    (42738, 42774), (42784, 42785), (42889, 42890), (43048, 43051), (43056, 43065),
    (43124, 43127), (43214, 43215), (43256, 43258), (43260, 43260), (43310, 43311),
    (43359, 43359), (43457, 43469), (43486, 43487), (43612, 43615), (43639, 43641),
    (43742, 43743), (43760, 43761), (43867, 43867), (43882, 43883), (44011, 44011),
    (64297, 64297), (64434, 64450), (64606, 64611), (64830, 64847), (64975, 64975),
    (65018, 65023), (65040, 65049), (65072, 65074), (65077, 65100), (65104, 65136),
    (65138, 65138), (65140, 65142), (65144, 65144), (65146, 65146), (65148, 65148),
    (65150, 65150), (65281, 65295), (65306, 65312), (65339, 65342), (65344, 65344),
    (65371, 65381), (65504, 65533), (65792, 65855), (65909, 66044), (66273, 66299),
    (66336, 66339), (66463, 66463), (66512, 66512), (66927, 66927), (67671, 67679),
    (67703, 67711), (67751, 67759), (67835, 67839), (67862, 67871), (67903, 67903),
    (68028, 68029), (68032, 68095), (68160, 68184), (68221, 68223), (68253, 68255), (68296, 68296)
  ]

/-- The characters that are in no names, from 68331 on. -/
def symbolRanges3 : List (Nat × Nat) :=
  [
    (68331, 68342), (68409, 68415), (68440, 68447), (68472, 68479), (68505, 68527),
    (68858, 68863), (69216, 69246), (69293, 69293), (69405, 69414), (69457, 69465),
    (69510, 69513), (69573, 69579), (69703, 69733), (69819, 69825), (69952, 69955),
    (70004, 70005), (70085, 70088), (70093, 70093), (70107, 70107), (70109, 70132),
    (70200, 70205), (70313, 70313), (70731, 70735), (70746, 70749), (70854, 70854),
    (71105, 71127), (71233, 71235), (71264, 71276), (71353, 71353), (71482, 71487),
    (71739, 71739), (71914, 71922), (72004, 72006), (72162, 72162), (72255, 72262),
    (72346, 72348), (72350, 72354), (72769, 72773), (72794, 72817), (73463, 73464),
    (73664, 73727), (74864, 74868), (77809, 77810), (92782, 92783), (92917, 92917),
    (92983, 92991), (92996, 92997), (93019, 93025), (93824, 93850), (94178, 94178),
    (113820, 113820), (113823, 113823), (118608, 119140), (119146, 119148), (119171, 119172),
    (119180, 119209), (119214, 119361), (119365, 119672), (120513, 120513), (120539, 120539),
    (120571, 120571), (120597, 120597), (120629, 120629), (120655, 120655), (120687, 120687),
    (120713, 120713), (120745, 120745), (120771, 120771), (120832, 121343), (121399, 121402),
    (121453, 121460), (121462, 121475), (121477, 121483), (123215, 123215), (123647, 123647),
    (125127, 125135), (125278, 126269), (126704, 129994)
  ]

/-- The characters that are in no names. -/
def symbolRanges : List (Nat × Nat) := symbolRanges1 ++ symbolRanges2 ++ symbolRanges3

/-- The characters of names that are marks, from 183 on. -/
def markRanges1 : List (Nat × Nat) :=
  [
    (183, 183), (768, 879), (903, 903), (1155, 1159), (1425, 1479), (1552, 1562), (1611, 1631),
    (1648, 1648), (1750, 1764), (1767, 1773), (1809, 1809), (1840, 1866), (1958, 1968),
    (2027, 2035), (2045, 2045), (2070, 2073), (2075, 2083), (2085, 2087), (2089, 2093),
    (2137, 2139), (2200, 2207), (2250, 2307), (2362, 2364), (2366, 2383), (2385, 2391),
    (2402, 2403), (2433, 2435), (2492, 2492), (2494, 2509), (2519, 2519), (2530, 2531),
    (2558, 2563), (2620, 2641), (2672, 2673), (2677, 2691), (2748, 2748), (2750, 2765),
    (2786, 2787), (2810, 2819), (2876, 2876), (2878, 2903), (2914, 2915), (2946, 2946),
    (3006, 3021), (3031, 3031), (3072, 3076), (3132, 3132), (3134, 3158), (3170, 3171),
    (3201, 3203), (3260, 3260), (3262, 3286), (3298, 3299), (3328, 3331), (3387, 3388),
    (3390, 3405), (3415, 3415), (3426, 3427), (3457, 3459), (3530, 3551), (3570, 3571),
    (3633, 3633), (3636, 3642), (3655, 3662), (3761, 3761), (3764, 3772), (3784, 3789),
    (3864, 3865), (3893, 3903), (3953, 3975), (3981, 4038), (4139, 4158), (4182, 4185),
    (4190, 4192), (4194, 4196), (4199, 4205), (4209, 4212), (4226, 4237), (4239, 4239),
    (4250, 4253), (4957, 4959), (5906, 5909), (5938, 5940), (5970, 5971), (6002, 6003),
    (6068, 6099), (6109, 6109), (6155, 6159), (6313, 6313), (6432, 6459), (6679, 6683),
    (6741, 6783), (6832, 6916), (6964, 6980), (7019, 7042), (7073, 7085), (7142, 7155),
    (7204, 7223), (7376, 7400), (7405, 7405)
  ]

/-- The characters of names that are marks, from 7412 on. -/
def markRanges2 : List (Nat × Nat) :=
  [
    (7412, 7412), (7415, 7417), (7616, 7679), (8255, 8276), (8400, 8432), (11503, 11505),
    (11647, 11647), (11744, 11775), (12330, 12335), (12441, 12442), (42607, 42621),
    (42654, 42655), (42736, 42737), (43010, 43010), (43014, 43014), (43019, 43019),
    (43043, 43052), (43136, 43137), (43188, 43205), (43232, 43249), (43263, 43263),
    (43302, 43309), (43335, 43347), (43392, 43395), (43443, 43456), (43493, 43493),
    (43561, 43574), (43587, 43587), (43596, 43597), (43643, 43645), (43696, 43696),
    (43698, 43700), (43703, 43704), (43710, 43711), (43713, 43713), (43755, 43759),
    (43765, 43766), (44003, 44013), (64286, 64286), (65024, 65103), (65343, 65343),
    (66045, 66045), (66272, 66272), (66422, 66426), (68097, 68111), (68152, 68159),
    (68325, 68326), (68900, 68903), (69291, 69292), (69446, 69456), (69506, 69509),
    (69632, 69634), (69688, 69702), (69744, 69744), (69747, 69748), (69759, 69762),
    (69808, 69826), (69888, 69890), (69927, 69940), (69957, 69958), (70003, 70003),
    (70016, 70018), (70067, 70080), (70089, 70095), (70188, 70206), (70367, 70378),
    (70400, 70403), (70459, 70460), (70462, 70477), (70487, 70487), (70498, 70516),
    (70709, 70726), (70750, 70750), (70832, 70851), (71087, 71104), (71132, 71133),
    (71216, 71232), (71339, 71351), (71453, 71467), (71724, 71738), (71984, 71998),
    (72000, 72000), (72002, 72003), (72145, 72160), (72164, 72164), (72193, 72202),
    (72243, 72249), (72251, 72263), (72273, 72283), (72330, 72345), (72751, 72767),
    (72850, 72886), (73009, 73029), (73031, 73031), (73098, 73111), (73459, 73462),
    (92912, 92916), (92976, 92982), (94031, 94031), (94033, 94098)
  ]

/-- The characters of names that are marks, from 94180 on. -/
def markRanges3 : List (Nat × Nat) :=
  [
    (94180, 94193), (113821, 119364), (121344, 121519), (122880, 122922), (123184, 123190),
    (123566, 123566), (123628, 123631), (125136, 125142), (125252, 125258), (917760, 917999)
  ]

/-- The characters of names that are marks. -/
def markRanges : List (Nat × Nat) := markRanges1 ++ markRanges2 ++ markRanges3

/-- The symbols that stand for numbers. -/
def numberRanges : List (Nat × Nat) :=
  [
    (178, 179), (185, 185), (188, 190), (890, 890), (2548, 2553), (2930, 3058), (3192, 3198),
    (3416, 3448), (3882, 3891), (4978, 4988), (6128, 6137), (8304, 8313), (8320, 8329),
    (8528, 8585), (9312, 9371), (9450, 9471), (10102, 10131), (11517, 11517), (11823, 11823),
    (12690, 12693), (12832, 12841), (12872, 12879), (12881, 12895), (12928, 12937),
    (12977, 12991), (43056, 43061), (64606, 64611), (65018, 65019), (65136, 65150),
    (65799, 65843), (65909, 65912), (65930, 65931), (66273, 66339), (67672, 67679),
    (67705, 67867), (68028, 68168), (68221, 68222), (68253, 68255), (68331, 68335),
    (68440, 68479), (68521, 69246), (69405, 69460), (69573, 69579), (69714, 69733),
    (70113, 70132), (71482, 71483), (71914, 71922), (72794, 72812), (73664, 73684),
    (93019, 93846), (119520, 119539), (119648, 119672), (125127, 125135), (126065, 126123),
    (126125, 126127), (126129, 126253), (126255, 126269), (127232, 127244)
  ]

/-- The letters and numbers besides the digits that cannot begin a name. -/
def innerRanges : List (Nat × Nat) :=
  [(0xe33, 0xe33), (0xeb3, 0xeb3), (0x1369, 0x1371), (0x19da, 0x19da), (0xff9e, 0xff9f)]

/-- The characters that can begin a name and are no letters. -/
def outerRanges : List (Nat × Nat) := [(0x1885, 0x1886), (0x2118, 0x2118), (0x212e, 0x212e)]

/-- Whether a character is in one of some ranges. -/
def isAmong (ranges : List (Nat × Nat)) (c : Char) : Bool :=
  ranges.any fun (first, last) => first ≤ c.toNat && c.toNat ≤ last

/-- Whether a character beyond ASCII may be in a name. -/
def isOfName (c : Char) : Bool := isPrintable c && !isAmong symbolRanges c

/-- Whether a character beyond ASCII may begin a name. -/
def isFirstOfName (c : Char) : Bool :=
  isOfName c && !isDigit c && !isAmong markRanges c && !isAmong innerRanges c

/-- Whether a character is a letter or a number. -/
def isAlphanumeric (c : Char) : Bool :=
  if c.toNat < 128 then c.isAlphanum
  else if isOfName c then !isAmong markRanges c && !isAmong outerRanges c
  else isPrintable c && isAmong numberRanges c

end ComputeNodes.Text
