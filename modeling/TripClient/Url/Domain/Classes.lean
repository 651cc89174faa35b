import TripClient.Text.CodeRanges

/-!
# Classes of characters in domain names

What the rules on domain names ask of a character: in which direction it is written, whether it is
a mark on the one before it, and how it joins to its neighbours. The ranges speak of the characters
that domain names may hold; what they say of any other is without meaning.
-/

namespace TripClient.Url.Domain

open TripClient.Text (CodeRanges)

/-- What a character says of the direction it is written in. -/
inductive Direction where
  /-- A letter written from left to right. -/
  | left
  /-- A letter written from right to left. -/
  | right
  /-- A digit written with Arabic letters. -/
  | arabicDigit
  /-- A digit. -/
  | digit
  /-- A mark, which follows the character before it. -/
  | mark
  /-- A sign that follows its neighbours. -/
  | neutral
  deriving DecidableEq

/-- Letters written from right to left. -/
def rightRanges : CodeRanges :=
  .ofRows
    [[(0x5be, 0x5be), (0x5c0, 0x5c0), (0x5c3, 0x5c3), (0x5c6, 0x5c6), (0x5d0, 0x5f4)],
     [(0x608, 0x608), (0x60b, 0x60b), (0x60d, 0x60d), (0x61b, 0x64a), (0x66d, 0x66f)],
     [(0x671, 0x6d5), (0x6e5, 0x6e6), (0x6ee, 0x6ef), (0x6fa, 0x710), (0x712, 0x72f)],
     [(0x74d, 0x7a5), (0x7b1, 0x7b1), (0x7c0, 0x7ea), (0x7f4, 0x7f5), (0x7fa, 0x7fa)],
     [(0x7fe, 0x815), (0x81a, 0x81a), (0x824, 0x824), (0x828, 0x828), (0x830, 0x858)],
     [(0x85e, 0x85e), (0x860, 0x88e), (0x8a0, 0x8c9), (0xfbb2, 0xfbc2), (0xfe73, 0xfe73)],
     [(0x10800, 0x1091b), (0x10920, 0x1093f), (0x10980, 0x10a00), (0x10a10, 0x10a35)],
     [(0x10a40, 0x10ae4), (0x10aeb, 0x10b35), (0x10b40, 0x10cff), (0x10d00, 0x10d23)],
     [(0x10e80, 0x10ea9), (0x10ead, 0x10eb1), (0x10f00, 0x10f27), (0x10f30, 0x10f45)],
     [(0x10f51, 0x10f59), (0x10f70, 0x10f81), (0x10f86, 0x10ff6), (0x1e800, 0x1e8cf)],
     [(0x1e922, 0x1e943), (0x1e94b, 0x1e95f), (0x1ec71, 0x1ed3d)]]

/-- Digits written with Arabic letters. -/
def arabicDigitRanges : CodeRanges :=
  .ofRows
    [[(0x660, 0x669), (0x66b, 0x66c), (0x10d30, 0x10d39), (0x10e60, 0x10e7e)]]

/-- Digits. -/
def digitRanges : CodeRanges :=
  .ofRows
    [[(0x30, 0x39), (0x6f0, 0x6f9), (0x102e1, 0x102fb)]]

/-- Signs that follow their neighbours. -/
def neutralRanges : CodeRanges :=
  .ofRows
    [[(0x21, 0x2f), (0x3a, 0x60), (0x7b, 0xd7), (0xf7, 0xf7), (0x2b9, 0x2ba), (0x2c2, 0x2cf)],
     [(0x2d2, 0x2ed), (0x2ef, 0x2ff), (0x375, 0x375), (0x3f6, 0x3f6), (0x58a, 0x58f)],
     [(0x606, 0x607), (0x609, 0x60a), (0x60c, 0x60c), (0x60e, 0x60f), (0x66a, 0x66a)],
     [(0x6de, 0x6de), (0x6e9, 0x6e9), (0x7f6, 0x7f9), (0x9f2, 0x9f3), (0x9fb, 0x9fb)],
     [(0xaf1, 0xaf1), (0xbf3, 0xbfa), (0xc78, 0xc7e), (0xe3f, 0xe3f), (0xf3a, 0xf3d)],
     [(0x1390, 0x1399), (0x1400, 0x1400), (0x169b, 0x169c), (0x17db, 0x17db), (0x17f0, 0x180a)],
     [(0x1940, 0x1945), (0x19de, 0x19ff), (0x200c, 0x20c0), (0x2104, 0x214d), (0x218a, 0x2335)],
     [(0x237b, 0x2394), (0x2396, 0x2426), (0x2440, 0x26ab), (0x26ad, 0x27ff), (0x2900, 0x2b95)],
     [(0x2b97, 0x2bff), (0x2ce5, 0x2cea), (0x2cf9, 0x2cff), (0x2e00, 0x3004), (0x3008, 0x3020)],
     [(0x3030, 0x3030), (0x3037, 0x3037), (0x303d, 0x303f), (0x30a0, 0x30a0), (0x30fb, 0x30fb)],
     [(0x31c0, 0x31e3), (0x4dc0, 0x4dff), (0xa490, 0xa4c6), (0xa60d, 0xa60f), (0xa673, 0xa673)],
     [(0xa67e, 0xa67f), (0xa700, 0xa721), (0xa788, 0xa788), (0xa828, 0xa82b), (0xa838, 0xa839)],
     [(0xa874, 0xa877), (0xab6a, 0xab6b), (0xfd3e, 0xfd4f), (0xfdcf, 0xfdff), (0xfe45, 0xfe46)],
     [(0x10101, 0x10101), (0x10140, 0x1018c), (0x10190, 0x101a0), (0x1091f, 0x1091f)],
     [(0x10b39, 0x10b3f), (0x11052, 0x11065), (0x11660, 0x1166c), (0x11fd5, 0x11ff1)],
     [(0x16fe2, 0x16fe2), (0x1d1e9, 0x1d241), (0x1d245, 0x1d245), (0x1d300, 0x1d356)],
     [(0x1e2ff, 0x1e2ff), (0x1eef0, 0x1f12f), (0x1f16d, 0x1f16f), (0x1f1ad, 0x1f1ad)],
     [(0x1f260, 0x1f6d7), (0x1f6dd, 0x1f773), (0x1f780, 0x1f7d8), (0x1f7e0, 0x1f8b1)],
     [(0x1f900, 0x1fa53), (0x1fa60, 0x1fa74), (0x1fa78, 0x1fa86), (0x1fa90, 0x1faac)],
     [(0x1fab0, 0x1faba), (0x1fac0, 0x1fac5), (0x1fad0, 0x1fad9), (0x1fae0, 0x1fae7)],
     [(0x1faf0, 0x1faf6), (0x1fb00, 0x1fbca)]]

/-- Marks that take no room of their own. -/
def flatMarkRanges : CodeRanges :=
  .ofRows
    [[(0x300, 0x36f), (0x483, 0x489), (0x591, 0x5bd), (0x5bf, 0x5bf), (0x5c1, 0x5c2)],
     [(0x5c4, 0x5c5), (0x5c7, 0x5c7), (0x610, 0x61a), (0x64b, 0x65f), (0x670, 0x670)],
     [(0x6d6, 0x6dc), (0x6df, 0x6e4), (0x6e7, 0x6e8), (0x6ea, 0x6ed), (0x711, 0x711)],
     [(0x730, 0x74a), (0x7a6, 0x7b0), (0x7eb, 0x7f3), (0x7fd, 0x7fd), (0x816, 0x819)],
     [(0x81b, 0x823), (0x825, 0x827), (0x829, 0x82d), (0x859, 0x85b), (0x898, 0x89f)],
     [(0x8ca, 0x902), (0x93a, 0x93a), (0x93c, 0x93c), (0x941, 0x948), (0x94d, 0x94d)],
     [(0x951, 0x957), (0x962, 0x963), (0x981, 0x981), (0x9bc, 0x9bc), (0x9c1, 0x9c4)],
     [(0x9cd, 0x9cd), (0x9e2, 0x9e3), (0x9fe, 0xa02), (0xa3c, 0xa3c), (0xa41, 0xa51)],
     [(0xa70, 0xa71), (0xa75, 0xa75), (0xa81, 0xa82), (0xabc, 0xabc), (0xac1, 0xac8)],
     [(0xacd, 0xacd), (0xae2, 0xae3), (0xafa, 0xb01), (0xb3c, 0xb3c), (0xb3f, 0xb3f)],
     [(0xb41, 0xb44), (0xb4d, 0xb56), (0xb62, 0xb63), (0xb82, 0xb82), (0xbc0, 0xbc0)],
     [(0xbcd, 0xbcd), (0xc00, 0xc00), (0xc04, 0xc04), (0xc3c, 0xc3c), (0xc3e, 0xc40)],
     [(0xc46, 0xc56), (0xc62, 0xc63), (0xc81, 0xc81), (0xcbc, 0xcbc), (0xccc, 0xccd)],
     [(0xce2, 0xce3), (0xd00, 0xd01), (0xd3b, 0xd3c), (0xd41, 0xd44), (0xd4d, 0xd4d)],
     [(0xd62, 0xd63), (0xd81, 0xd81), (0xdca, 0xdca), (0xdd2, 0xdd6), (0xe31, 0xe31)],
     [(0xe34, 0xe3a), (0xe47, 0xe4e), (0xeb1, 0xeb1), (0xeb4, 0xebc), (0xec8, 0xecd)],
     [(0xf18, 0xf19), (0xf35, 0xf35), (0xf37, 0xf37), (0xf39, 0xf39), (0xf71, 0xf7e)],
     [(0xf80, 0xf84), (0xf86, 0xf87), (0xf8d, 0xfbc), (0xfc6, 0xfc6), (0x102d, 0x1030)],
     [(0x1032, 0x1037), (0x1039, 0x103a), (0x103d, 0x103e), (0x1058, 0x1059), (0x105e, 0x1060)],
     [(0x1071, 0x1074), (0x1082, 0x1082), (0x1085, 0x1086), (0x108d, 0x108d), (0x109d, 0x109d)],
     [(0x135d, 0x135f), (0x1712, 0x1714), (0x1732, 0x1733), (0x1752, 0x1753), (0x1772, 0x1773)],
     [(0x17b7, 0x17bd), (0x17c6, 0x17c6), (0x17c9, 0x17d3), (0x17dd, 0x17dd), (0x1885, 0x1886)],
     [(0x18a9, 0x18a9), (0x1920, 0x1922), (0x1927, 0x1928), (0x1932, 0x1932), (0x1939, 0x193b)],
     [(0x1a17, 0x1a18), (0x1a1b, 0x1a1b), (0x1a56, 0x1a56), (0x1a58, 0x1a60), (0x1a62, 0x1a62)],
     [(0x1a65, 0x1a6c), (0x1a73, 0x1a7f), (0x1ab0, 0x1ace), (0x1b00, 0x1b03), (0x1b34, 0x1b34)],
     [(0x1b36, 0x1b3a), (0x1b3c, 0x1b3c), (0x1b42, 0x1b42), (0x1b6b, 0x1b73), (0x1b80, 0x1b81)],
     [(0x1ba2, 0x1ba5), (0x1ba8, 0x1ba9), (0x1bab, 0x1bad), (0x1be6, 0x1be6), (0x1be8, 0x1be9)],
     [(0x1bed, 0x1bed), (0x1bef, 0x1bf1), (0x1c2c, 0x1c33), (0x1c36, 0x1c37), (0x1cd0, 0x1cd2)],
     [(0x1cd4, 0x1ce0), (0x1ce2, 0x1ce8), (0x1ced, 0x1ced), (0x1cf4, 0x1cf4), (0x1cf8, 0x1cf9)],
     [(0x1dc0, 0x1dff), (0x20d0, 0x20f0), (0x2cef, 0x2cf1), (0x2d7f, 0x2d7f), (0x2de0, 0x2dff)],
     [(0x302a, 0x302d), (0x3099, 0x309a), (0xa66f, 0xa672), (0xa674, 0xa67d), (0xa69e, 0xa69f)],
     [(0xa6f0, 0xa6f1), (0xa802, 0xa802), (0xa806, 0xa806), (0xa80b, 0xa80b), (0xa825, 0xa826)],
     [(0xa82c, 0xa82c), (0xa8c4, 0xa8c5), (0xa8e0, 0xa8f1), (0xa8ff, 0xa8ff), (0xa926, 0xa92d)],
     [(0xa947, 0xa951), (0xa980, 0xa982), (0xa9b3, 0xa9b3), (0xa9b6, 0xa9b9), (0xa9bc, 0xa9bd)],
     [(0xa9e5, 0xa9e5), (0xaa29, 0xaa2e), (0xaa31, 0xaa32), (0xaa35, 0xaa36), (0xaa43, 0xaa43)],
     [(0xaa4c, 0xaa4c), (0xaa7c, 0xaa7c), (0xaab0, 0xaab0), (0xaab2, 0xaab4), (0xaab7, 0xaab8)],
     [(0xaabe, 0xaabf), (0xaac1, 0xaac1), (0xaaec, 0xaaed), (0xaaf6, 0xaaf6), (0xabe5, 0xabe5)],
     [(0xabe8, 0xabe8), (0xabed, 0xabed), (0xfb1e, 0xfb1e), (0xfe20, 0xfe2f), (0x101fd, 0x101fd)],
     [(0x102e0, 0x102e0), (0x10376, 0x1037a), (0x10a01, 0x10a0f), (0x10a38, 0x10a3f)],
     [(0x10ae5, 0x10ae6), (0x10d24, 0x10d27), (0x10eab, 0x10eac), (0x10f46, 0x10f50)],
     [(0x10f82, 0x10f85), (0x11001, 0x11001), (0x11038, 0x11046), (0x11070, 0x11070)],
     [(0x11073, 0x11074), (0x1107f, 0x11081), (0x110b3, 0x110b6), (0x110b9, 0x110ba)],
     [(0x110c2, 0x110c2), (0x11100, 0x11102), (0x11127, 0x1112b), (0x1112d, 0x11134)],
     [(0x11173, 0x11173), (0x11180, 0x11181), (0x111b6, 0x111be), (0x111c9, 0x111cc)],
     [(0x111cf, 0x111cf), (0x1122f, 0x11231), (0x11234, 0x11234), (0x11236, 0x11237)],
     [(0x1123e, 0x1123e), (0x112df, 0x112df), (0x112e3, 0x112ea), (0x11300, 0x11301)],
     [(0x1133b, 0x1133c), (0x11340, 0x11340), (0x11366, 0x11374), (0x11438, 0x1143f)],
     [(0x11442, 0x11444), (0x11446, 0x11446), (0x1145e, 0x1145e), (0x114b3, 0x114b8)],
     [(0x114ba, 0x114ba), (0x114bf, 0x114c0), (0x114c2, 0x114c3), (0x115b2, 0x115b5)],
     [(0x115bc, 0x115bd), (0x115bf, 0x115c0), (0x115dc, 0x115dd), (0x11633, 0x1163a)],
     [(0x1163d, 0x1163d), (0x1163f, 0x11640), (0x116ab, 0x116ab), (0x116ad, 0x116ad)],
     [(0x116b0, 0x116b5), (0x116b7, 0x116b7), (0x1171d, 0x1171f), (0x11722, 0x11725)],
     [(0x11727, 0x1172b), (0x1182f, 0x11837), (0x11839, 0x1183a), (0x1193b, 0x1193c)],
     [(0x1193e, 0x1193e), (0x11943, 0x11943), (0x119d4, 0x119db), (0x119e0, 0x119e0)],
     [(0x11a01, 0x11a06), (0x11a09, 0x11a0a), (0x11a33, 0x11a38), (0x11a3b, 0x11a3e)],
     [(0x11a47, 0x11a47), (0x11a51, 0x11a56), (0x11a59, 0x11a5b), (0x11a8a, 0x11a96)],
     [(0x11a98, 0x11a99), (0x11c30, 0x11c3d), (0x11c92, 0x11ca7), (0x11caa, 0x11cb0)],
     [(0x11cb2, 0x11cb3), (0x11cb5, 0x11cb6), (0x11d31, 0x11d45), (0x11d47, 0x11d47)],
     [(0x11d90, 0x11d91), (0x11d95, 0x11d95), (0x11d97, 0x11d97), (0x11ef3, 0x11ef4)],
     [(0x16af0, 0x16af4), (0x16b30, 0x16b36), (0x16f4f, 0x16f4f), (0x16f8f, 0x16f92)],
     [(0x16fe4, 0x16fe4), (0x1bc9d, 0x1bc9e), (0x1cf00, 0x1cf46), (0x1d167, 0x1d169)],
     [(0x1d17b, 0x1d182), (0x1d185, 0x1d18b), (0x1d1aa, 0x1d1ad), (0x1d242, 0x1d244)],
     [(0x1da00, 0x1da36), (0x1da3b, 0x1da6c), (0x1da75, 0x1da75), (0x1da84, 0x1da84)],
     [(0x1da9b, 0x1daaf), (0x1e000, 0x1e02a), (0x1e130, 0x1e136), (0x1e2ae, 0x1e2ae)],
     [(0x1e2ec, 0x1e2ef), (0x1e8d0, 0x1e8d6), (0x1e944, 0x1e94a)]]

/-- The direction of a character. -/
def direction (c : Char) : Direction :=
  let n := c.toNat
  if rightRanges.contains n then .right
  else if arabicDigitRanges.contains n then .arabicDigit
  else if digitRanges.contains n then .digit
  else if neutralRanges.contains n then .neutral
  else if flatMarkRanges.contains n then .mark
  else .left

/-- Marks of any kind. -/
def markRanges : CodeRanges :=
  .ofRows
    [[(0x300, 0x36f), (0x483, 0x489), (0x591, 0x5bd), (0x5bf, 0x5bf), (0x5c1, 0x5c2)],
     [(0x5c4, 0x5c5), (0x5c7, 0x5c7), (0x610, 0x61a), (0x64b, 0x65f), (0x670, 0x670)],
     [(0x6d6, 0x6dc), (0x6df, 0x6e4), (0x6e7, 0x6e8), (0x6ea, 0x6ed), (0x711, 0x711)],
     [(0x730, 0x74a), (0x7a6, 0x7b0), (0x7eb, 0x7f3), (0x7fd, 0x7fd), (0x816, 0x819)],
     [(0x81b, 0x823), (0x825, 0x827), (0x829, 0x82d), (0x859, 0x85b), (0x898, 0x89f)],
     [(0x8ca, 0x903), (0x93a, 0x93c), (0x93e, 0x94f), (0x951, 0x957), (0x962, 0x963)],
     [(0x981, 0x983), (0x9bc, 0x9bc), (0x9be, 0x9cd), (0x9d7, 0x9d7), (0x9e2, 0x9e3)],
     [(0x9fe, 0xa03), (0xa3c, 0xa51), (0xa70, 0xa71), (0xa75, 0xa75), (0xa81, 0xa83)],
     [(0xabc, 0xabc), (0xabe, 0xacd), (0xae2, 0xae3), (0xafa, 0xb03), (0xb3c, 0xb3c)],
     [(0xb3e, 0xb57), (0xb62, 0xb63), (0xb82, 0xb82), (0xbbe, 0xbcd), (0xbd7, 0xbd7)],
     [(0xc00, 0xc04), (0xc3c, 0xc3c), (0xc3e, 0xc56), (0xc62, 0xc63), (0xc81, 0xc83)],
     [(0xcbc, 0xcbc), (0xcbe, 0xcd6), (0xce2, 0xce3), (0xd00, 0xd03), (0xd3b, 0xd3c)],
     [(0xd3e, 0xd4d), (0xd57, 0xd57), (0xd62, 0xd63), (0xd81, 0xd83), (0xdca, 0xddf)],
     [(0xdf2, 0xdf3), (0xe31, 0xe31), (0xe34, 0xe3a), (0xe47, 0xe4e), (0xeb1, 0xeb1)],
     [(0xeb4, 0xebc), (0xec8, 0xecd), (0xf18, 0xf19), (0xf35, 0xf35), (0xf37, 0xf37)],
     [(0xf39, 0xf39), (0xf3e, 0xf3f), (0xf71, 0xf84), (0xf86, 0xf87), (0xf8d, 0xfbc)],
     [(0xfc6, 0xfc6), (0x102b, 0x103e), (0x1056, 0x1059), (0x105e, 0x1060), (0x1062, 0x1064)],
     [(0x1067, 0x106d), (0x1071, 0x1074), (0x1082, 0x108d), (0x108f, 0x108f), (0x109a, 0x109d)],
     [(0x135d, 0x135f), (0x1712, 0x1715), (0x1732, 0x1734), (0x1752, 0x1753), (0x1772, 0x1773)],
     [(0x17b6, 0x17d3), (0x17dd, 0x17dd), (0x1885, 0x1886), (0x18a9, 0x18a9), (0x1920, 0x193b)],
     [(0x1a17, 0x1a1b), (0x1a55, 0x1a7f), (0x1ab0, 0x1ace), (0x1b00, 0x1b04), (0x1b34, 0x1b44)],
     [(0x1b6b, 0x1b73), (0x1b80, 0x1b82), (0x1ba1, 0x1bad), (0x1be6, 0x1bf3), (0x1c24, 0x1c37)],
     [(0x1cd0, 0x1cd2), (0x1cd4, 0x1ce8), (0x1ced, 0x1ced), (0x1cf4, 0x1cf4), (0x1cf7, 0x1cf9)],
     [(0x1dc0, 0x1dff), (0x20d0, 0x20f0), (0x2cef, 0x2cf1), (0x2d7f, 0x2d7f), (0x2de0, 0x2dff)],
     [(0x302a, 0x302f), (0x3099, 0x309a), (0xa66f, 0xa672), (0xa674, 0xa67d), (0xa69e, 0xa69f)],
     [(0xa6f0, 0xa6f1), (0xa802, 0xa802), (0xa806, 0xa806), (0xa80b, 0xa80b), (0xa823, 0xa827)],
     [(0xa82c, 0xa82c), (0xa880, 0xa881), (0xa8b4, 0xa8c5), (0xa8e0, 0xa8f1), (0xa8ff, 0xa8ff)],
     [(0xa926, 0xa92d), (0xa947, 0xa953), (0xa980, 0xa983), (0xa9b3, 0xa9c0), (0xa9e5, 0xa9e5)],
     [(0xaa29, 0xaa36), (0xaa43, 0xaa43), (0xaa4c, 0xaa4d), (0xaa7b, 0xaa7d), (0xaab0, 0xaab0)],
     [(0xaab2, 0xaab4), (0xaab7, 0xaab8), (0xaabe, 0xaabf), (0xaac1, 0xaac1), (0xaaeb, 0xaaef)],
     [(0xaaf5, 0xaaf6), (0xabe3, 0xabea), (0xabec, 0xabed), (0xfb1e, 0xfb1e), (0xfe20, 0xfe2f)],
     [(0x101fd, 0x101fd), (0x102e0, 0x102e0), (0x10376, 0x1037a), (0x10a01, 0x10a0f)],
     [(0x10a38, 0x10a3f), (0x10ae5, 0x10ae6), (0x10d24, 0x10d27), (0x10eab, 0x10eac)],
     [(0x10f46, 0x10f50), (0x10f82, 0x10f85), (0x11000, 0x11002), (0x11038, 0x11046)],
     [(0x11070, 0x11070), (0x11073, 0x11074), (0x1107f, 0x11082), (0x110b0, 0x110ba)],
     [(0x110c2, 0x110c2), (0x11100, 0x11102), (0x11127, 0x11134), (0x11145, 0x11146)],
     [(0x11173, 0x11173), (0x11180, 0x11182), (0x111b3, 0x111c0), (0x111c9, 0x111cc)],
     [(0x111ce, 0x111cf), (0x1122c, 0x11237), (0x1123e, 0x1123e), (0x112df, 0x112ea)],
     [(0x11300, 0x11303), (0x1133b, 0x1133c), (0x1133e, 0x1134d), (0x11357, 0x11357)],
     [(0x11362, 0x11374), (0x11435, 0x11446), (0x1145e, 0x1145e), (0x114b0, 0x114c3)],
     [(0x115af, 0x115c0), (0x115dc, 0x115dd), (0x11630, 0x11640), (0x116ab, 0x116b7)],
     [(0x1171d, 0x1172b), (0x1182c, 0x1183a), (0x11930, 0x1193e), (0x11940, 0x11940)],
     [(0x11942, 0x11943), (0x119d1, 0x119e0), (0x119e4, 0x119e4), (0x11a01, 0x11a0a)],
     [(0x11a33, 0x11a39), (0x11a3b, 0x11a3e), (0x11a47, 0x11a47), (0x11a51, 0x11a5b)],
     [(0x11a8a, 0x11a99), (0x11c2f, 0x11c3f), (0x11c92, 0x11cb6), (0x11d31, 0x11d45)],
     [(0x11d47, 0x11d47), (0x11d8a, 0x11d97), (0x11ef3, 0x11ef6), (0x16af0, 0x16af4)],
     [(0x16b30, 0x16b36), (0x16f4f, 0x16f4f), (0x16f51, 0x16f92), (0x16fe4, 0x16ff1)],
     [(0x1bc9d, 0x1bc9e), (0x1cf00, 0x1cf46), (0x1d165, 0x1d169), (0x1d16d, 0x1d182)],
     [(0x1d185, 0x1d18b), (0x1d1aa, 0x1d1ad), (0x1d242, 0x1d244), (0x1da00, 0x1da36)],
     [(0x1da3b, 0x1da6c), (0x1da75, 0x1da75), (0x1da84, 0x1da84), (0x1da9b, 0x1daaf)],
     [(0x1e000, 0x1e02a), (0x1e130, 0x1e136), (0x1e2ae, 0x1e2ae), (0x1e2ec, 0x1e2ef)],
     [(0x1e8d0, 0x1e8d6), (0x1e944, 0x1e94a)]]

/-- Whether a character is a mark on the one before it. -/
def isMark (c : Char) : Bool := markRanges.contains c.toNat

/-- Letters that join to the next letter only. -/
def joinsNextRanges : CodeRanges :=
  .ofRows
    [[(0xa872, 0xa872), (0x10acd, 0x10acd), (0x10ad7, 0x10ad7), (0x10d00, 0x10d00)],
     [(0x10fcb, 0x10fcb)]]

/-- Letters that join to the letter before only. -/
def joinsPreviousRanges : CodeRanges :=
  .ofRows
    [[(0x622, 0x625), (0x627, 0x627), (0x629, 0x629), (0x62f, 0x632), (0x648, 0x648)],
     [(0x671, 0x673), (0x688, 0x699), (0x6c0, 0x6c0), (0x6c3, 0x6cb), (0x6cd, 0x6cd)],
     [(0x6cf, 0x6cf), (0x6d2, 0x6d3), (0x6d5, 0x6d5), (0x6ee, 0x6ef), (0x710, 0x710)],
     [(0x715, 0x719), (0x71e, 0x71e), (0x728, 0x728), (0x72a, 0x72a), (0x72c, 0x72c)],
     [(0x72f, 0x72f), (0x74d, 0x74d), (0x759, 0x75b), (0x76b, 0x76c), (0x771, 0x771)],
     [(0x773, 0x774), (0x778, 0x779), (0x840, 0x840), (0x846, 0x847), (0x849, 0x849)],
     [(0x854, 0x854), (0x856, 0x858), (0x867, 0x867), (0x869, 0x882), (0x88e, 0x88e)],
     [(0x8aa, 0x8ac), (0x8ae, 0x8ae), (0x8b1, 0x8b2), (0x8b9, 0x8b9), (0x10ac5, 0x10ac5)],
     [(0x10ac7, 0x10ac7), (0x10ac9, 0x10aca), (0x10ace, 0x10ad2), (0x10add, 0x10add)],
     [(0x10ae1, 0x10ae1), (0x10ae4, 0x10ae4), (0x10aef, 0x10aef), (0x10b81, 0x10b81)],
     [(0x10b83, 0x10b85), (0x10b89, 0x10b89), (0x10b8c, 0x10b8c), (0x10b8e, 0x10b8f)],
     [(0x10b91, 0x10b91), (0x10ba9, 0x10bac), (0x10d22, 0x10d22), (0x10ec2, 0x10ec2)],
     [(0x10f33, 0x10f33), (0x10f54, 0x10f54), (0x10f74, 0x10f75), (0x10fb4, 0x10fb6)],
     [(0x10fb9, 0x10fba), (0x10fbd, 0x10fbd), (0x10fc2, 0x10fc3), (0x10fc9, 0x10fc9)]]

/-- Letters that join on both sides. -/
def joinsBothRanges : CodeRanges :=
  .ofRows
    [[(0x620, 0x620), (0x626, 0x626), (0x628, 0x628), (0x62a, 0x62e), (0x633, 0x63f)],
     [(0x641, 0x647), (0x649, 0x64a), (0x66e, 0x66f), (0x679, 0x687), (0x69a, 0x6bf)],
     [(0x6c1, 0x6c2), (0x6cc, 0x6cc), (0x6ce, 0x6ce), (0x6d0, 0x6d1), (0x6fa, 0x6fc)],
     [(0x6ff, 0x6ff), (0x712, 0x714), (0x71a, 0x71d), (0x71f, 0x727), (0x729, 0x729)],
     [(0x72b, 0x72b), (0x72d, 0x72e), (0x74e, 0x758), (0x75c, 0x76a), (0x76d, 0x770)],
     [(0x772, 0x772), (0x775, 0x777), (0x77a, 0x77f), (0x7ca, 0x7ea), (0x841, 0x845)],
     [(0x848, 0x848), (0x84a, 0x853), (0x855, 0x855), (0x860, 0x860), (0x862, 0x865)],
     [(0x868, 0x868), (0x886, 0x886), (0x889, 0x88d), (0x88f, 0x88f), (0x8a0, 0x8a9)],
     [(0x8af, 0x8b0), (0x8b3, 0x8b8), (0x8ba, 0x8c8), (0x1807, 0x1807), (0x1820, 0x1878)],
     [(0x1887, 0x18a8), (0x18aa, 0x18aa), (0xa840, 0xa871), (0x10ac0, 0x10ac4), (0x10ad3, 0x10ad6)],
     [(0x10ad8, 0x10adc), (0x10ade, 0x10ae0), (0x10aeb, 0x10aee), (0x10b80, 0x10b80)],
     [(0x10b82, 0x10b82), (0x10b86, 0x10b88), (0x10b8a, 0x10b8b), (0x10b8d, 0x10b8d)],
     [(0x10b90, 0x10b90), (0x10bad, 0x10bae), (0x10d01, 0x10d21), (0x10d23, 0x10d23)],
     [(0x10ec3, 0x10ec4), (0x10ec6, 0x10ec7), (0x10f30, 0x10f32), (0x10f34, 0x10f44)],
     [(0x10f51, 0x10f53), (0x10f70, 0x10f73), (0x10f76, 0x10f81), (0x10fb0, 0x10fb0)],
     [(0x10fb2, 0x10fb3), (0x10fb8, 0x10fb8), (0x10fbb, 0x10fbc), (0x10fbe, 0x10fbf)],
     [(0x10fc1, 0x10fc1), (0x10fc4, 0x10fc4), (0x10fca, 0x10fca), (0x1e922, 0x1e943)]]

/-- Characters that letters join across. -/
def transparentRanges : CodeRanges :=
  .ofRows
    [[(0x300, 0x36f), (0x483, 0x489), (0x591, 0x5bd), (0x5bf, 0x5bf), (0x5c1, 0x5c2)],
     [(0x5c4, 0x5c5), (0x5c7, 0x5c7), (0x610, 0x61a), (0x64b, 0x65f), (0x670, 0x670)],
     [(0x6d6, 0x6dc), (0x6df, 0x6e4), (0x6e7, 0x6e8), (0x6ea, 0x6ed), (0x711, 0x711)],
     [(0x730, 0x74a), (0x7a6, 0x7b0), (0x7eb, 0x7f3), (0x7fd, 0x7fd), (0x816, 0x819)],
     [(0x81b, 0x823), (0x825, 0x827), (0x829, 0x82d), (0x859, 0x85b), (0x897, 0x89f)],
     [(0x8ca, 0x902), (0x93a, 0x93a), (0x93c, 0x93c), (0x941, 0x948), (0x94d, 0x94d)],
     [(0x951, 0x957), (0x962, 0x963), (0x981, 0x981), (0x9bc, 0x9bc), (0x9c1, 0x9c4)],
     [(0x9cd, 0x9cd), (0x9e2, 0x9e3), (0x9fe, 0xa02), (0xa3c, 0xa3c), (0xa41, 0xa51)],
     [(0xa70, 0xa71), (0xa75, 0xa75), (0xa81, 0xa82), (0xabc, 0xabc), (0xac1, 0xac8)],
     [(0xacd, 0xacd), (0xae2, 0xae3), (0xafa, 0xb01), (0xb3c, 0xb3c), (0xb3f, 0xb3f)],
     [(0xb41, 0xb44), (0xb4d, 0xb56), (0xb62, 0xb63), (0xb82, 0xb82), (0xbc0, 0xbc0)],
     [(0xbcd, 0xbcd), (0xc00, 0xc00), (0xc04, 0xc04), (0xc3c, 0xc3c), (0xc3e, 0xc40)],
     [(0xc46, 0xc56), (0xc62, 0xc63), (0xc81, 0xc81), (0xcbc, 0xcbc), (0xcbf, 0xcbf)],
     [(0xcc6, 0xcc6), (0xccc, 0xccd), (0xce2, 0xce3), (0xd00, 0xd01), (0xd3b, 0xd3c)],
     [(0xd41, 0xd44), (0xd4d, 0xd4d), (0xd62, 0xd63), (0xd81, 0xd81), (0xdca, 0xdca)],
     [(0xdd2, 0xdd6), (0xe31, 0xe31), (0xe34, 0xe3a), (0xe47, 0xe4e), (0xeb1, 0xeb1)],
     [(0xeb4, 0xebc), (0xec8, 0xece), (0xf18, 0xf19), (0xf35, 0xf35), (0xf37, 0xf37)],
     [(0xf39, 0xf39), (0xf71, 0xf7e), (0xf80, 0xf84), (0xf86, 0xf87), (0xf8d, 0xfbc)],
     [(0xfc6, 0xfc6), (0x102d, 0x1030), (0x1032, 0x1037), (0x1039, 0x103a), (0x103d, 0x103e)],
     [(0x1058, 0x1059), (0x105e, 0x1060), (0x1071, 0x1074), (0x1082, 0x1082), (0x1085, 0x1086)],
     [(0x108d, 0x108d), (0x109d, 0x109d), (0x135d, 0x135f), (0x1712, 0x1714), (0x1732, 0x1733)],
     [(0x1752, 0x1753), (0x1772, 0x1773), (0x17b7, 0x17bd), (0x17c6, 0x17c6), (0x17c9, 0x17d3)],
     [(0x17dd, 0x17dd), (0x1885, 0x1886), (0x18a9, 0x18a9), (0x1920, 0x1922), (0x1927, 0x1928)],
     [(0x1932, 0x1932), (0x1939, 0x193b), (0x1a17, 0x1a18), (0x1a1b, 0x1a1b), (0x1a56, 0x1a56)],
     [(0x1a58, 0x1a60), (0x1a62, 0x1a62), (0x1a65, 0x1a6c), (0x1a73, 0x1a7f), (0x1ab0, 0x1b03)],
     [(0x1b34, 0x1b34), (0x1b36, 0x1b3a), (0x1b3c, 0x1b3c), (0x1b42, 0x1b42), (0x1b6b, 0x1b73)],
     [(0x1b80, 0x1b81), (0x1ba2, 0x1ba5), (0x1ba8, 0x1ba9), (0x1bab, 0x1bad), (0x1be6, 0x1be6)],
     [(0x1be8, 0x1be9), (0x1bed, 0x1bed), (0x1bef, 0x1bf1), (0x1c2c, 0x1c33), (0x1c36, 0x1c37)],
     [(0x1cd0, 0x1cd2), (0x1cd4, 0x1ce0), (0x1ce2, 0x1ce8), (0x1ced, 0x1ced), (0x1cf4, 0x1cf4)],
     [(0x1cf8, 0x1cf9), (0x1dc0, 0x1dff), (0x20d0, 0x20f0), (0x2cef, 0x2cf1), (0x2d7f, 0x2d7f)],
     [(0x2de0, 0x2dff), (0x302a, 0x302d), (0x3099, 0x309a), (0xa66f, 0xa672), (0xa674, 0xa67d)],
     [(0xa69e, 0xa69f), (0xa6f0, 0xa6f1), (0xa802, 0xa802), (0xa806, 0xa806), (0xa80b, 0xa80b)],
     [(0xa825, 0xa826), (0xa82c, 0xa82c), (0xa8c4, 0xa8c5), (0xa8e0, 0xa8f1), (0xa8ff, 0xa8ff)],
     [(0xa926, 0xa92d), (0xa947, 0xa951), (0xa980, 0xa982), (0xa9b3, 0xa9b3), (0xa9b6, 0xa9b9)],
     [(0xa9bc, 0xa9bd), (0xa9e5, 0xa9e5), (0xaa29, 0xaa2e), (0xaa31, 0xaa32), (0xaa35, 0xaa36)],
     [(0xaa43, 0xaa43), (0xaa4c, 0xaa4c), (0xaa7c, 0xaa7c), (0xaab0, 0xaab0), (0xaab2, 0xaab4)],
     [(0xaab7, 0xaab8), (0xaabe, 0xaabf), (0xaac1, 0xaac1), (0xaaec, 0xaaed), (0xaaf6, 0xaaf6)],
     [(0xabe5, 0xabe5), (0xabe8, 0xabe8), (0xabed, 0xabed), (0xfb1e, 0xfb1e), (0xfe20, 0xfe2f)],
     [(0x101fd, 0x101fd), (0x102e0, 0x102e0), (0x10376, 0x1037a), (0x10a01, 0x10a0f)],
     [(0x10a38, 0x10a3f), (0x10ae5, 0x10ae6), (0x10d24, 0x10d27), (0x10d69, 0x10d6d)],
     [(0x10eab, 0x10eac), (0x10efa, 0x10eff), (0x10f46, 0x10f50), (0x10f82, 0x10f85)],
     [(0x11001, 0x11001), (0x11038, 0x11046), (0x11070, 0x11070), (0x11073, 0x11074)],
     [(0x1107f, 0x11081), (0x110b3, 0x110b6), (0x110b9, 0x110ba), (0x110c2, 0x110c2)],
     [(0x11100, 0x11102), (0x11127, 0x1112b), (0x1112d, 0x11134), (0x11173, 0x11173)],
     [(0x11180, 0x11181), (0x111b6, 0x111be), (0x111c9, 0x111cc), (0x111cf, 0x111cf)],
     [(0x1122f, 0x11231), (0x11234, 0x11234), (0x11236, 0x11237), (0x1123e, 0x1123e)],
     [(0x11241, 0x11241), (0x112df, 0x112df), (0x112e3, 0x112ea), (0x11300, 0x11301)],
     [(0x1133b, 0x1133c), (0x11340, 0x11340), (0x11366, 0x11374), (0x113bb, 0x113c0)],
     [(0x113ce, 0x113ce), (0x113d0, 0x113d0), (0x113d2, 0x113d2), (0x113e1, 0x113e2)],
     [(0x11438, 0x1143f), (0x11442, 0x11444), (0x11446, 0x11446), (0x1145e, 0x1145e)],
     [(0x114b3, 0x114b8), (0x114ba, 0x114ba), (0x114bf, 0x114c0), (0x114c2, 0x114c3)],
     [(0x115b2, 0x115b5), (0x115bc, 0x115bd), (0x115bf, 0x115c0), (0x115dc, 0x115dd)],
     [(0x11633, 0x1163a), (0x1163d, 0x1163d), (0x1163f, 0x11640), (0x116ab, 0x116ab)],
     [(0x116ad, 0x116ad), (0x116b0, 0x116b5), (0x116b7, 0x116b7), (0x1171d, 0x1171d)],
     [(0x1171f, 0x1171f), (0x11722, 0x11725), (0x11727, 0x1172b), (0x1182f, 0x11837)],
     [(0x11839, 0x1183a), (0x1193b, 0x1193c), (0x1193e, 0x1193e), (0x11943, 0x11943)],
     [(0x119d4, 0x119db), (0x119e0, 0x119e0), (0x11a01, 0x11a0a), (0x11a33, 0x11a38)],
     [(0x11a3b, 0x11a3e), (0x11a47, 0x11a47), (0x11a51, 0x11a56), (0x11a59, 0x11a5b)],
     [(0x11a8a, 0x11a96), (0x11a98, 0x11a99), (0x11b60, 0x11b60), (0x11b62, 0x11b64)],
     [(0x11b66, 0x11b66), (0x11c30, 0x11c3d), (0x11c3f, 0x11c3f), (0x11c92, 0x11ca7)],
     [(0x11caa, 0x11cb0), (0x11cb2, 0x11cb3), (0x11cb5, 0x11cb6), (0x11d31, 0x11d45)],
     [(0x11d47, 0x11d47), (0x11d90, 0x11d91), (0x11d95, 0x11d95), (0x11d97, 0x11d97)],
     [(0x11ef3, 0x11ef4), (0x11f00, 0x11f01), (0x11f36, 0x11f3a), (0x11f40, 0x11f40)],
     [(0x11f42, 0x11f42), (0x11f5a, 0x11f5a), (0x13440, 0x13440), (0x13447, 0x13455)],
     [(0x1611e, 0x16129), (0x1612d, 0x1612f), (0x16af0, 0x16af4), (0x16b30, 0x16b36)],
     [(0x16f4f, 0x16f4f), (0x16f8f, 0x16f92), (0x16fe4, 0x16fe4), (0x1bc9d, 0x1bc9e)],
     [(0x1cf00, 0x1cf46), (0x1d167, 0x1d169), (0x1d17b, 0x1d182), (0x1d185, 0x1d18b)],
     [(0x1d1aa, 0x1d1ad), (0x1d242, 0x1d244), (0x1da00, 0x1da36), (0x1da3b, 0x1da6c)],
     [(0x1da75, 0x1da75), (0x1da84, 0x1da84), (0x1da9b, 0x1daaf), (0x1e000, 0x1e08f)],
     [(0x1e130, 0x1e136), (0x1e2ae, 0x1e2ae), (0x1e2ec, 0x1e2ef), (0x1e4ec, 0x1e4ef)],
     [(0x1e5ee, 0x1e5ef), (0x1e6e3, 0x1e6e3), (0x1e6e6, 0x1e6e6), (0x1e6ee, 0x1e6ef)],
     [(0x1e6f5, 0x1e6f5), (0x1e8d0, 0x1e8d6), (0x1e944, 0x1e94b)]]

/-- Whether a letter joins to the next. -/
def joinsNext (c : Char) : Bool :=
  joinsNextRanges.contains c.toNat || joinsBothRanges.contains c.toNat

/-- Whether a letter joins to the one before. -/
def joinsPrevious (c : Char) : Bool :=
  joinsPreviousRanges.contains c.toNat || joinsBothRanges.contains c.toNat

/-- Whether letters join across a character. -/
def isTransparent (c : Char) : Bool := transparentRanges.contains c.toNat

end TripClient.Url.Domain
