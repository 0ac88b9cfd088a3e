import FlowDecl.Text.Cases
import FlowDecl.Text.Glyphs

/-!
# Letters and digits

Outside of ASCII a character counts as a letter if it has a glyph and is no mark, sign, symbol or
space.  The tables list the code points that are none, in ascending order; a range may run over code
points that have no glyph.

A letter is a capital or a small one also where it has no other form, as among the letters of
mathematics and of phonetics.
-/

namespace FlowDecl
namespace Text

/-- Code points below `0x3000` that are no letters. -/
def signsLow : List (Nat × Nat) :=
  [
    (0xa0, 0xa9), (0xab, 0xb4), (0xb6, 0xb9), (0xbb, 0xbf), (0xd7, 0xd7), (0xf7, 0xf7),
    (0x2c2, 0x2c5), (0x2d2, 0x2df), (0x2e5, 0x2eb), (0x2ed, 0x2ed), (0x2ef, 0x344), (0x346, 0x36f),
    (0x375, 0x375), (0x37e, 0x37e), (0x384, 0x385), (0x387, 0x387), (0x3f6, 0x3f6), (0x482, 0x489),
    (0x55a, 0x55f), (0x589, 0x5af), (0x5be, 0x5be), (0x5c0, 0x5c0), (0x5c3, 0x5c3), (0x5c6, 0x5c6),
    (0x5f3, 0x60f), (0x61b, 0x61f), (0x658, 0x658), (0x66a, 0x66d), (0x6d4, 0x6d4), (0x6dd, 0x6e0),
    (0x6e9, 0x6ec), (0x6fd, 0x6fe), (0x700, 0x70f), (0x740, 0x74a), (0x7eb, 0x7f3), (0x7f6, 0x7f9),
    (0x7fd, 0x7ff), (0x818, 0x819), (0x82d, 0x83e), (0x859, 0x85e), (0x888, 0x888), (0x890, 0x89f),
    (0x8ca, 0x8d3), (0x8e0, 0x8e2), (0x8ea, 0x8ef), (0x93c, 0x93c), (0x94d, 0x94d), (0x951, 0x954),
    (0x964, 0x965), (0x970, 0x970), (0x9bc, 0x9bc), (0x9cd, 0x9cd), (0x9f2, 0x9fb), (0x9fd, 0x9fe),
    (0xa3c, 0xa3c), (0xa4d, 0xa4d), (0xa76, 0xa76), (0xabc, 0xabc), (0xacd, 0xacd), (0xaf0, 0xaf1),
    (0xafd, 0xaff), (0xb3c, 0xb3c), (0xb4d, 0xb55), (0xb70, 0xb70), (0xb72, 0xb77), (0xbcd, 0xbcd),
    (0xbf0, 0xbfa), (0xc3c, 0xc3c), (0xc4d, 0xc4d), (0xc77, 0xc7f), (0xc84, 0xc84), (0xcbc, 0xcbc),
    (0xccd, 0xccd), (0xd3b, 0xd3c), (0xd4d, 0xd4d), (0xd4f, 0xd4f), (0xd58, 0xd5e), (0xd70, 0xd79),
    (0xdca, 0xdca), (0xdf4, 0xdf4), (0xe3f, 0xe3f), (0xe47, 0xe4c), (0xe4e, 0xe4f), (0xe5a, 0xe5b),
    (0xeba, 0xeba), (0xec8, 0xecc), (0xece, 0xece), (0xf01, 0xf1f), (0xf2a, 0xf3f), (0xf84, 0xf87),
    (0xfbe, 0xfda), (0x1037, 0x1037), (0x1039, 0x103a), (0x104a, 0x104f), (0x109e, 0x109f),
    (0x10fb, 0x10fb), (0x135d, 0x137c), (0x1390, 0x1399), (0x1400, 0x1400), (0x166d, 0x166e),
    (0x1680, 0x1680), (0x169b, 0x169c), (0x16eb, 0x16ed), (0x1714, 0x1715), (0x1734, 0x1736),
    (0x17b4, 0x17b5), (0x17c9, 0x17d6), (0x17d8, 0x17db), (0x17dd, 0x17dd), (0x17f0, 0x180f),
    (0x1939, 0x1945), (0x19da, 0x19ff), (0x1a1e, 0x1a1f), (0x1a60, 0x1a60), (0x1a75, 0x1a7f),
    (0x1aa0, 0x1aa6), (0x1aa8, 0x1abe), (0x1ac1, 0x1acb), (0x1b34, 0x1b34), (0x1b44, 0x1b44),
    (0x1b5a, 0x1b7e), (0x1baa, 0x1bab), (0x1be6, 0x1be6), (0x1bf2, 0x1bff), (0x1c37, 0x1c3f),
    (0x1c7e, 0x1c7f), (0x1cc0, 0x1ce8), (0x1ced, 0x1ced), (0x1cf4, 0x1cf4), (0x1cf7, 0x1cf9),
    (0x1dc0, 0x1de6), (0x1df5, 0x1dff), (0x1fbd, 0x1fbd), (0x1fbf, 0x1fc1), (0x1fcd, 0x1fcf),
    (0x1fdd, 0x1fdf), (0x1fed, 0x1fef), (0x1ffd, 0x2070), (0x2074, 0x207e), (0x2080, 0x208e),
    (0x20a0, 0x2101), (0x2103, 0x2106), (0x2108, 0x2109), (0x2114, 0x2114), (0x2116, 0x2118),
    (0x211e, 0x2123), (0x2125, 0x2125), (0x2127, 0x2127), (0x2129, 0x2129), (0x212e, 0x212e),
    (0x213a, 0x213b), (0x2140, 0x2144), (0x214a, 0x214d), (0x214f, 0x215f), (0x2189, 0x24b5),
    (0x24ea, 0x2bff), (0x2ce5, 0x2cea), (0x2cef, 0x2cf1), (0x2cf9, 0x2cff), (0x2d70, 0x2d7f),
    (0x2e00, 0x2e2e), (0x2e30, 0x2fff)]

/-- Code points from `0x3000` on that are no letters. -/
def signsHigh : List (Nat × Nat) :=
  [
    (0x3000, 0x3004), (0x3008, 0x3020), (0x302a, 0x3030), (0x3036, 0x3037), (0x303d, 0x303f),
    (0x3099, 0x309c), (0x30a0, 0x30a0), (0x30fb, 0x30fb), (0x3190, 0x319f), (0x31c0, 0x31ef),
    (0x3200, 0x33ff), (0x4dc0, 0x4dff), (0xa490, 0xa4c6), (0xa4fe, 0xa4ff), (0xa60d, 0xa60f),
    (0xa66f, 0xa673), (0xa67c, 0xa67e), (0xa6f0, 0xa716), (0xa720, 0xa721), (0xa789, 0xa78a),
    (0xa806, 0xa806), (0xa828, 0xa839), (0xa874, 0xa877), (0xa8c4, 0xa8c4), (0xa8ce, 0xa8cf),
    (0xa8e0, 0xa8f1), (0xa8f8, 0xa8fa), (0xa8fc, 0xa8fc), (0xa92b, 0xa92f), (0xa953, 0xa95f),
    (0xa9b3, 0xa9b3), (0xa9c0, 0xa9cd), (0xa9de, 0xa9df), (0xaa5c, 0xaa5f), (0xaa77, 0xaa79),
    (0xaabf, 0xaabf), (0xaac1, 0xaac1), (0xaade, 0xaadf), (0xaaf0, 0xaaf1), (0xaaf6, 0xaaf6),
    (0xab5b, 0xab5b), (0xab6a, 0xab6b), (0xabeb, 0xabed), (0xe000, 0xf8ff), (0xfb29, 0xfb29),
    (0xfbb2, 0xfbc2), (0xfd3e, 0xfd4f), (0xfdcf, 0xfdcf), (0xfdfc, 0xfe6b), (0xfeff, 0xff0f),
    (0xff1a, 0xff20), (0xff3b, 0xff40), (0xff5b, 0xff65), (0xffe0, 0xfffd), (0x10100, 0x1013f),
    (0x10175, 0x101fd), (0x102e0, 0x102fb), (0x10320, 0x10323), (0x1039f, 0x1039f),
    (0x103d0, 0x103d0), (0x1056f, 0x1056f), (0x10857, 0x1085f), (0x10877, 0x1087f),
    (0x108a7, 0x108af), (0x108fb, 0x108ff), (0x10916, 0x1091f), (0x1093f, 0x1093f),
    (0x109bc, 0x109bd), (0x109c0, 0x109ff), (0x10a38, 0x10a58), (0x10a7d, 0x10a7f),
    (0x10a9d, 0x10a9f), (0x10ac8, 0x10ac8), (0x10ae5, 0x10af6), (0x10b39, 0x10b3f),
    (0x10b58, 0x10b5f), (0x10b78, 0x10b7f), (0x10b99, 0x10baf), (0x10cfa, 0x10cff),
    (0x10e60, 0x10e7e), (0x10ead, 0x10ead), (0x10efd, 0x10eff), (0x10f1d, 0x10f26),
    (0x10f46, 0x10f59), (0x10f82, 0x10f89), (0x10fc5, 0x10fcb), (0x11046, 0x11065),
    (0x11070, 0x11070), (0x1107f, 0x1107f), (0x110b9, 0x110c1), (0x110cd, 0x110cd),
    (0x11133, 0x11134), (0x11140, 0x11143), (0x11173, 0x11175), (0x111c0, 0x111c0),
    (0x111c5, 0x111cd), (0x111db, 0x111db), (0x111dd, 0x111f4), (0x11235, 0x11236),
    (0x11238, 0x1123d), (0x112a9, 0x112a9), (0x112e9, 0x112ea), (0x1133b, 0x1133c),
    (0x1134d, 0x1134d), (0x11366, 0x11374), (0x11442, 0x11442), (0x11446, 0x11446),
    (0x1144b, 0x1144f), (0x1145a, 0x1145e), (0x114c2, 0x114c3), (0x114c6, 0x114c6),
    (0x115bf, 0x115d7), (0x1163f, 0x1163f), (0x11641, 0x11643), (0x11660, 0x1166c),
    (0x116b6, 0x116b7), (0x116b9, 0x116b9), (0x1172b, 0x1172b), (0x1173a, 0x1173f),
    (0x11839, 0x1183b), (0x118ea, 0x118f2), (0x1193d, 0x1193e), (0x11943, 0x11946),
    (0x119e0, 0x119e0), (0x119e2, 0x119e2), (0x11a33, 0x11a34), (0x11a3f, 0x11a47),
    (0x11a98, 0x11a9c), (0x11a9e, 0x11aa2), (0x11b00, 0x11b09), (0x11c3f, 0x11c3f),
    (0x11c41, 0x11c45), (0x11c5a, 0x11c71), (0x11d42, 0x11d42), (0x11d44, 0x11d45),
    (0x11d97, 0x11d97), (0x11ef7, 0x11ef8), (0x11f41, 0x11f4f), (0x11fc0, 0x11fff),
    (0x12470, 0x12474), (0x12ff1, 0x12ff2), (0x13430, 0x13440), (0x13447, 0x13455),
    (0x16a6e, 0x16a6f), (0x16af0, 0x16af5), (0x16b30, 0x16b3f), (0x16b44, 0x16b45),
    (0x16b5b, 0x16b61), (0x16e80, 0x16e9a), (0x16fe2, 0x16fe2), (0x16fe4, 0x16fe4),
    (0x1bc9c, 0x1bc9d), (0x1bc9f, 0x1d378), (0x1d6c1, 0x1d6c1), (0x1d6db, 0x1d6db),
    (0x1d6fb, 0x1d6fb), (0x1d715, 0x1d715), (0x1d735, 0x1d735), (0x1d74f, 0x1d74f),
    (0x1d76f, 0x1d76f), (0x1d789, 0x1d789), (0x1d7a9, 0x1d7a9), (0x1d7c3, 0x1d7c3),
    (0x1d800, 0x1daaf), (0x1e130, 0x1e136), (0x1e14f, 0x1e14f), (0x1e2ae, 0x1e2ae),
    (0x1e2ec, 0x1e2ef), (0x1e2ff, 0x1e2ff), (0x1e4ec, 0x1e4ef), (0x1e8c7, 0x1e8d6),
    (0x1e944, 0x1e946), (0x1e948, 0x1e94a), (0x1e95e, 0x1ed3d), (0x1eef0, 0x1f12f),
    (0x1f14a, 0x1f14f), (0x1f16a, 0x1f16f), (0x1f18a, 0x1fbca), (0xe0001, 0x10fffd)]

def isLetter (c : Char) : Bool :=
  if c.toNat < 0x80 then c.isAlphanum
  else hasGlyph c && !inRanges (if c.toNat < 0x3000 then signsLow else signsHigh) c.toNat

/-- The capital letters that have no small form. -/
def loneCapitals : List (Nat × Nat) :=
  [
    (0x3d2, 0x3d4), (0x2102, 0x2102), (0x2107, 0x2107), (0x210b, 0x210d), (0x2110, 0x2112),
    (0x2115, 0x2115), (0x2119, 0x211d), (0x2124, 0x2124), (0x2128, 0x2128), (0x212c, 0x212d),
    (0x2130, 0x2131), (0x2133, 0x2133), (0x213e, 0x213f), (0x2145, 0x2145), (0x1d400, 0x1d419),
    (0x1d434, 0x1d44d), (0x1d468, 0x1d481), (0x1d49c, 0x1d4b5), (0x1d4d0, 0x1d4e9),
    (0x1d504, 0x1d51c), (0x1d538, 0x1d550), (0x1d56c, 0x1d585), (0x1d5a0, 0x1d5b9),
    (0x1d5d4, 0x1d5ed), (0x1d608, 0x1d621), (0x1d63c, 0x1d655), (0x1d670, 0x1d689),
    (0x1d6a8, 0x1d6c0), (0x1d6e2, 0x1d6fa), (0x1d71c, 0x1d734), (0x1d756, 0x1d76e),
    (0x1d790, 0x1d7a8), (0x1d7ca, 0x1d7ca), (0x1f130, 0x1f149), (0x1f150, 0x1f169),
    (0x1f170, 0x1f189)]

/-- The small letters that have no capital form; ranges run over letters that have one. -/
def loneSmalls : List (Nat × Nat) :=
  [
    (0xaa, 0xaa), (0xba, 0xba), (0xdf, 0xdf), (0x138, 0x138), (0x149, 0x149), (0x18d, 0x18d),
    (0x19b, 0x19b), (0x1aa, 0x1ab), (0x1ba, 0x1ba), (0x1be, 0x1be), (0x1f0, 0x1f0), (0x221, 0x221),
    (0x234, 0x239), (0x255, 0x255), (0x258, 0x258), (0x25a, 0x25a), (0x25d, 0x25f), (0x262, 0x262),
    (0x264, 0x264), (0x267, 0x267), (0x26d, 0x26e), (0x270, 0x270), (0x273, 0x274), (0x276, 0x27c),
    (0x27e, 0x27f), (0x281, 0x281), (0x284, 0x286), (0x28d, 0x291), (0x293, 0x293), (0x295, 0x29c),
    (0x29f, 0x2b8), (0x2c0, 0x2c1), (0x2e0, 0x2e4), (0x37a, 0x37a), (0x390, 0x390), (0x3b0, 0x3b0),
    (0x3fc, 0x3fc), (0x560, 0x560), (0x587, 0x588), (0x10fc, 0x10fc), (0x1d00, 0x1d78),
    (0x1d7a, 0x1d7c), (0x1d7e, 0x1d8d), (0x1d8f, 0x1dbf), (0x1e96, 0x1e9a), (0x1e9c, 0x1e9d),
    (0x1e9f, 0x1e9f), (0x1f50, 0x1f50), (0x1f52, 0x1f52), (0x1f54, 0x1f54), (0x1f56, 0x1f56),
    (0x1fb2, 0x1fb2), (0x1fb4, 0x1fb7), (0x1fc2, 0x1fc2), (0x1fc4, 0x1fc7), (0x1fd2, 0x1fd7),
    (0x1fe2, 0x1fe4), (0x1fe6, 0x1fe7), (0x1ff2, 0x1ff2), (0x1ff4, 0x1ff7), (0x2071, 0x209c),
    (0x210a, 0x210a), (0x210e, 0x210f), (0x2113, 0x2113), (0x212f, 0x212f), (0x2134, 0x2134),
    (0x2139, 0x213d), (0x2146, 0x2149), (0x2c71, 0x2c71), (0x2c74, 0x2c74), (0x2c77, 0x2c7d),
    (0x2ce4, 0x2ce4), (0xa69c, 0xa69d), (0xa730, 0xa731), (0xa770, 0xa778), (0xa78e, 0xa78e),
    (0xa795, 0xa795), (0xa7af, 0xa7af), (0xa7d3, 0xa7d5), (0xa7f2, 0xa7f4), (0xa7f8, 0xa7fa),
    (0xab30, 0xab52), (0xab54, 0xab69), (0xfb00, 0xfb17), (0x10780, 0x10780), (0x10783, 0x107ba),
    (0x1d41a, 0x1d433), (0x1d44e, 0x1d467), (0x1d482, 0x1d49b), (0x1d4b6, 0x1d4cf),
    (0x1d4ea, 0x1d503), (0x1d51e, 0x1d537), (0x1d552, 0x1d56b), (0x1d586, 0x1d59f),
    (0x1d5ba, 0x1d5d3), (0x1d5ee, 0x1d607), (0x1d622, 0x1d63b), (0x1d656, 0x1d66f),
    (0x1d68a, 0x1d6a5), (0x1d6c2, 0x1d6e1), (0x1d6fc, 0x1d71b), (0x1d736, 0x1d755),
    (0x1d770, 0x1d78f), (0x1d7aa, 0x1d7c9), (0x1d7cb, 0x1d7cb), (0x1df00, 0x1df09),
    (0x1df0b, 0x1df2a), (0x1e030, 0x1e06d)]

def isCapital (c : Char) : Bool :=
  small c != c || (inRanges loneCapitals c.toNat && hasGlyph c)

def isSmall (c : Char) : Bool :=
  capital c != c || (inRanges loneSmalls c.toNat && isLetter c)

/-- Whether a character is one of the spaces at which lines may be broken. -/
def isSpace (c : Char) : Bool :=
  let n := c.toNat
  (9 ≤ n && n ≤ 13) || n = 32 || n = 0x1680 || (0x2000 ≤ n && n ≤ 0x200a && n != 0x2007) ||
    n = 0x2028 || n = 0x2029 || n = 0x205f || n = 0x3000

end Text
end FlowDecl
