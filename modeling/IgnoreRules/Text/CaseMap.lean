import IgnoreRules.Text.Cased

/-!
# Full case mappings

Lowercasing and uppercasing of texts by the full mappings of Unicode 14, as the matcher lowercases
names and literal text and uppercases a character that it asks a class about (matcher.py:25–50 and
95–117): a character may map to several characters (`ß` uppercases to `SS`, `İ` lowercases to `i`
followed by a combining dot). The only context rule is the one for the capital sigma, which
lowercases to the final form `ς` when a cased letter precedes it (skipping case-ignorable
characters) and none follows it.

- `lowerChar c`, `upperChar c`: the full mapping of one character.
- `Text.lower s`, `Text.upper s`: the mappings of a whole text.
-/

namespace IgnoreRules.Text

/-- A run of characters `start, start + stride, …` (`count` of them) that each map to the
character `delta` code points away. -/
structure CaseRun where
  start : Nat
  count : Nat
  delta : Int
  stride : Nat

/-- Whether the run moves the code point `n`. -/
def CaseRun.covers (r : CaseRun) (n : Nat) : Bool :=
  r.start ≤ n && n < r.start + r.count * r.stride && (n - r.start) % r.stride == 0

/-- Runs of the single-character lowercase mapping. -/
def lowerRuns : Array CaseRun := #[
    ⟨0x41, 26, 32, 1⟩, ⟨0xc0, 23, 32, 1⟩, ⟨0xd8, 7, 32, 1⟩, ⟨0x100, 24, 1, 2⟩,
    ⟨0x132, 3, 1, 2⟩, ⟨0x139, 8, 1, 2⟩, ⟨0x14a, 23, 1, 2⟩, ⟨0x178, 1, -121, 1⟩,
    ⟨0x179, 3, 1, 2⟩, ⟨0x181, 1, 210, 1⟩, ⟨0x182, 2, 1, 2⟩, ⟨0x186, 1, 206, 1⟩,
    ⟨0x187, 1, 1, 1⟩, ⟨0x189, 2, 205, 1⟩, ⟨0x18b, 1, 1, 1⟩, ⟨0x18e, 1, 79, 1⟩,
    ⟨0x18f, 1, 202, 1⟩, ⟨0x190, 1, 203, 1⟩, ⟨0x191, 1, 1, 1⟩, ⟨0x193, 1, 205, 1⟩,
    ⟨0x194, 1, 207, 1⟩, ⟨0x196, 1, 211, 1⟩, ⟨0x197, 1, 209, 1⟩, ⟨0x198, 1, 1, 1⟩,
    ⟨0x19c, 1, 211, 1⟩, ⟨0x19d, 1, 213, 1⟩, ⟨0x19f, 1, 214, 1⟩, ⟨0x1a0, 3, 1, 2⟩,
    ⟨0x1a6, 1, 218, 1⟩, ⟨0x1a7, 1, 1, 1⟩, ⟨0x1a9, 1, 218, 1⟩, ⟨0x1ac, 1, 1, 1⟩,
    ⟨0x1ae, 1, 218, 1⟩, ⟨0x1af, 1, 1, 1⟩, ⟨0x1b1, 2, 217, 1⟩, ⟨0x1b3, 2, 1, 2⟩,
    ⟨0x1b7, 1, 219, 1⟩, ⟨0x1b8, 1, 1, 1⟩, ⟨0x1bc, 1, 1, 1⟩, ⟨0x1c4, 1, 2, 1⟩,
    ⟨0x1c5, 1, 1, 1⟩, ⟨0x1c7, 1, 2, 1⟩, ⟨0x1c8, 1, 1, 1⟩, ⟨0x1ca, 1, 2, 1⟩,
    ⟨0x1cb, 9, 1, 2⟩, ⟨0x1de, 9, 1, 2⟩, ⟨0x1f1, 1, 2, 1⟩, ⟨0x1f2, 2, 1, 2⟩,
    ⟨0x1f6, 1, -97, 1⟩, ⟨0x1f7, 1, -56, 1⟩, ⟨0x1f8, 20, 1, 2⟩, ⟨0x220, 1, -130, 1⟩,
    ⟨0x222, 9, 1, 2⟩, ⟨0x23a, 1, 10795, 1⟩, ⟨0x23b, 1, 1, 1⟩, ⟨0x23d, 1, -163, 1⟩,
    ⟨0x23e, 1, 10792, 1⟩, ⟨0x241, 1, 1, 1⟩, ⟨0x243, 1, -195, 1⟩, ⟨0x244, 1, 69, 1⟩,
    ⟨0x245, 1, 71, 1⟩, ⟨0x246, 5, 1, 2⟩, ⟨0x370, 2, 1, 2⟩, ⟨0x376, 1, 1, 1⟩,
    ⟨0x37f, 1, 116, 1⟩, ⟨0x386, 1, 38, 1⟩, ⟨0x388, 3, 37, 1⟩, ⟨0x38c, 1, 64, 1⟩,
    ⟨0x38e, 2, 63, 1⟩, ⟨0x391, 17, 32, 1⟩, ⟨0x3a3, 9, 32, 1⟩, ⟨0x3cf, 1, 8, 1⟩,
    ⟨0x3d8, 12, 1, 2⟩, ⟨0x3f4, 1, -60, 1⟩, ⟨0x3f7, 1, 1, 1⟩, ⟨0x3f9, 1, -7, 1⟩,
    ⟨0x3fa, 1, 1, 1⟩, ⟨0x3fd, 3, -130, 1⟩, ⟨0x400, 16, 80, 1⟩, ⟨0x410, 32, 32, 1⟩,
    ⟨0x460, 17, 1, 2⟩, ⟨0x48a, 27, 1, 2⟩, ⟨0x4c0, 1, 15, 1⟩, ⟨0x4c1, 7, 1, 2⟩,
    ⟨0x4d0, 48, 1, 2⟩, ⟨0x531, 38, 48, 1⟩, ⟨0x10a0, 38, 7264, 1⟩, ⟨0x10c7, 1, 7264, 1⟩,
    ⟨0x10cd, 1, 7264, 1⟩, ⟨0x13a0, 80, 38864, 1⟩, ⟨0x13f0, 6, 8, 1⟩, ⟨0x1c90, 43, -3008, 1⟩,
    ⟨0x1cbd, 3, -3008, 1⟩, ⟨0x1e00, 75, 1, 2⟩, ⟨0x1e9e, 1, -7615, 1⟩, ⟨0x1ea0, 48, 1, 2⟩,
    ⟨0x1f08, 8, -8, 1⟩, ⟨0x1f18, 6, -8, 1⟩, ⟨0x1f28, 8, -8, 1⟩, ⟨0x1f38, 8, -8, 1⟩,
    ⟨0x1f48, 6, -8, 1⟩, ⟨0x1f59, 4, -8, 2⟩, ⟨0x1f68, 8, -8, 1⟩, ⟨0x1f88, 8, -8, 1⟩,
    ⟨0x1f98, 8, -8, 1⟩, ⟨0x1fa8, 8, -8, 1⟩, ⟨0x1fb8, 2, -8, 1⟩, ⟨0x1fba, 2, -74, 1⟩,
    ⟨0x1fbc, 1, -9, 1⟩, ⟨0x1fc8, 4, -86, 1⟩, ⟨0x1fcc, 1, -9, 1⟩, ⟨0x1fd8, 2, -8, 1⟩,
    ⟨0x1fda, 2, -100, 1⟩, ⟨0x1fe8, 2, -8, 1⟩, ⟨0x1fea, 2, -112, 1⟩, ⟨0x1fec, 1, -7, 1⟩,
    ⟨0x1ff8, 2, -128, 1⟩, ⟨0x1ffa, 2, -126, 1⟩, ⟨0x1ffc, 1, -9, 1⟩, ⟨0x2126, 1, -7517, 1⟩,
    ⟨0x212a, 1, -8383, 1⟩, ⟨0x212b, 1, -8262, 1⟩, ⟨0x2132, 1, 28, 1⟩, ⟨0x2160, 16, 16, 1⟩,
    ⟨0x2183, 1, 1, 1⟩, ⟨0x24b6, 26, 26, 1⟩, ⟨0x2c00, 48, 48, 1⟩, ⟨0x2c60, 1, 1, 1⟩,
    ⟨0x2c62, 1, -10743, 1⟩, ⟨0x2c63, 1, -3814, 1⟩, ⟨0x2c64, 1, -10727, 1⟩, ⟨0x2c67, 3, 1, 2⟩,
    ⟨0x2c6d, 1, -10780, 1⟩, ⟨0x2c6e, 1, -10749, 1⟩, ⟨0x2c6f, 1, -10783, 1⟩, ⟨0x2c70, 1, -10782, 1⟩,
    ⟨0x2c72, 1, 1, 1⟩, ⟨0x2c75, 1, 1, 1⟩, ⟨0x2c7e, 2, -10815, 1⟩, ⟨0x2c80, 50, 1, 2⟩,
    ⟨0x2ceb, 2, 1, 2⟩, ⟨0x2cf2, 1, 1, 1⟩, ⟨0xa640, 23, 1, 2⟩, ⟨0xa680, 14, 1, 2⟩,
    ⟨0xa722, 7, 1, 2⟩, ⟨0xa732, 31, 1, 2⟩, ⟨0xa779, 2, 1, 2⟩, ⟨0xa77d, 1, -35332, 1⟩,
    ⟨0xa77e, 5, 1, 2⟩, ⟨0xa78b, 1, 1, 1⟩, ⟨0xa78d, 1, -42280, 1⟩, ⟨0xa790, 2, 1, 2⟩,
    ⟨0xa796, 10, 1, 2⟩, ⟨0xa7aa, 1, -42308, 1⟩, ⟨0xa7ab, 1, -42319, 1⟩, ⟨0xa7ac, 1, -42315, 1⟩,
    ⟨0xa7ad, 1, -42305, 1⟩, ⟨0xa7ae, 1, -42308, 1⟩, ⟨0xa7b0, 1, -42258, 1⟩, ⟨0xa7b1, 1, -42282, 1⟩,
    ⟨0xa7b2, 1, -42261, 1⟩, ⟨0xa7b3, 1, 928, 1⟩, ⟨0xa7b4, 8, 1, 2⟩, ⟨0xa7c4, 1, -48, 1⟩,
    ⟨0xa7c5, 1, -42307, 1⟩, ⟨0xa7c6, 1, -35384, 1⟩, ⟨0xa7c7, 2, 1, 2⟩, ⟨0xa7d0, 1, 1, 1⟩,
    ⟨0xa7d6, 2, 1, 2⟩, ⟨0xa7f5, 1, 1, 1⟩, ⟨0xff21, 26, 32, 1⟩, ⟨0x10400, 40, 40, 1⟩,
    ⟨0x104b0, 36, 40, 1⟩, ⟨0x10570, 11, 39, 1⟩, ⟨0x1057c, 15, 39, 1⟩, ⟨0x1058c, 7, 39, 1⟩,
    ⟨0x10594, 2, 39, 1⟩, ⟨0x10c80, 51, 64, 1⟩, ⟨0x118a0, 32, 32, 1⟩, ⟨0x16e40, 32, 32, 1⟩,
    ⟨0x1e900, 34, 34, 1⟩]

/-- Characters whose lowercase form has several characters. -/
def lowerExpansions : Array (Nat × List Char) := #[
    (0x130, ['\u0069', '\u0307'])]

/-- Runs of the single-character uppercase mapping. -/
def upperRuns : Array CaseRun := #[
    ⟨0x61, 26, -32, 1⟩, ⟨0xb5, 1, 743, 1⟩, ⟨0xe0, 23, -32, 1⟩, ⟨0xf8, 7, -32, 1⟩,
    ⟨0xff, 1, 121, 1⟩, ⟨0x101, 24, -1, 2⟩, ⟨0x131, 1, -232, 1⟩, ⟨0x133, 3, -1, 2⟩,
    ⟨0x13a, 8, -1, 2⟩, ⟨0x14b, 23, -1, 2⟩, ⟨0x17a, 3, -1, 2⟩, ⟨0x17f, 1, -300, 1⟩,
    ⟨0x180, 1, 195, 1⟩, ⟨0x183, 2, -1, 2⟩, ⟨0x188, 1, -1, 1⟩, ⟨0x18c, 1, -1, 1⟩,
    ⟨0x192, 1, -1, 1⟩, ⟨0x195, 1, 97, 1⟩, ⟨0x199, 1, -1, 1⟩, ⟨0x19a, 1, 163, 1⟩,
    ⟨0x19e, 1, 130, 1⟩, ⟨0x1a1, 3, -1, 2⟩, ⟨0x1a8, 1, -1, 1⟩, ⟨0x1ad, 1, -1, 1⟩,
    ⟨0x1b0, 1, -1, 1⟩, ⟨0x1b4, 2, -1, 2⟩, ⟨0x1b9, 1, -1, 1⟩, ⟨0x1bd, 1, -1, 1⟩,
    ⟨0x1bf, 1, 56, 1⟩, ⟨0x1c5, 1, -1, 1⟩, ⟨0x1c6, 1, -2, 1⟩, ⟨0x1c8, 1, -1, 1⟩,
    ⟨0x1c9, 1, -2, 1⟩, ⟨0x1cb, 1, -1, 1⟩, ⟨0x1cc, 1, -2, 1⟩, ⟨0x1ce, 8, -1, 2⟩,
    ⟨0x1dd, 1, -79, 1⟩, ⟨0x1df, 9, -1, 2⟩, ⟨0x1f2, 1, -1, 1⟩, ⟨0x1f3, 1, -2, 1⟩,
    ⟨0x1f5, 1, -1, 1⟩, ⟨0x1f9, 20, -1, 2⟩, ⟨0x223, 9, -1, 2⟩, ⟨0x23c, 1, -1, 1⟩,
    ⟨0x23f, 2, 10815, 1⟩, ⟨0x242, 1, -1, 1⟩, ⟨0x247, 5, -1, 2⟩, ⟨0x250, 1, 10783, 1⟩,
    ⟨0x251, 1, 10780, 1⟩, ⟨0x252, 1, 10782, 1⟩, ⟨0x253, 1, -210, 1⟩, ⟨0x254, 1, -206, 1⟩,
    ⟨0x256, 2, -205, 1⟩, ⟨0x259, 1, -202, 1⟩, ⟨0x25b, 1, -203, 1⟩, ⟨0x25c, 1, 42319, 1⟩,
    ⟨0x260, 1, -205, 1⟩, ⟨0x261, 1, 42315, 1⟩, ⟨0x263, 1, -207, 1⟩, ⟨0x265, 1, 42280, 1⟩,
    ⟨0x266, 1, 42308, 1⟩, ⟨0x268, 1, -209, 1⟩, ⟨0x269, 1, -211, 1⟩, ⟨0x26a, 1, 42308, 1⟩,
    ⟨0x26b, 1, 10743, 1⟩, ⟨0x26c, 1, 42305, 1⟩, ⟨0x26f, 1, -211, 1⟩, ⟨0x271, 1, 10749, 1⟩,
    ⟨0x272, 1, -213, 1⟩, ⟨0x275, 1, -214, 1⟩, ⟨0x27d, 1, 10727, 1⟩, ⟨0x280, 1, -218, 1⟩,
    ⟨0x282, 1, 42307, 1⟩, ⟨0x283, 1, -218, 1⟩, ⟨0x287, 1, 42282, 1⟩, ⟨0x288, 1, -218, 1⟩,
    ⟨0x289, 1, -69, 1⟩, ⟨0x28a, 2, -217, 1⟩, ⟨0x28c, 1, -71, 1⟩, ⟨0x292, 1, -219, 1⟩,
    ⟨0x29d, 1, 42261, 1⟩, ⟨0x29e, 1, 42258, 1⟩, ⟨0x345, 1, 84, 1⟩, ⟨0x371, 2, -1, 2⟩,
    ⟨0x377, 1, -1, 1⟩, ⟨0x37b, 3, 130, 1⟩, ⟨0x3ac, 1, -38, 1⟩, ⟨0x3ad, 3, -37, 1⟩,
    ⟨0x3b1, 17, -32, 1⟩, ⟨0x3c2, 1, -31, 1⟩, ⟨0x3c3, 9, -32, 1⟩, ⟨0x3cc, 1, -64, 1⟩,
    ⟨0x3cd, 2, -63, 1⟩, ⟨0x3d0, 1, -62, 1⟩, ⟨0x3d1, 1, -57, 1⟩, ⟨0x3d5, 1, -47, 1⟩,
    ⟨0x3d6, 1, -54, 1⟩, ⟨0x3d7, 1, -8, 1⟩, ⟨0x3d9, 12, -1, 2⟩, ⟨0x3f0, 1, -86, 1⟩,
    ⟨0x3f1, 1, -80, 1⟩, ⟨0x3f2, 1, 7, 1⟩, ⟨0x3f3, 1, -116, 1⟩, ⟨0x3f5, 1, -96, 1⟩,
    ⟨0x3f8, 1, -1, 1⟩, ⟨0x3fb, 1, -1, 1⟩, ⟨0x430, 32, -32, 1⟩, ⟨0x450, 16, -80, 1⟩,
    ⟨0x461, 17, -1, 2⟩, ⟨0x48b, 27, -1, 2⟩, ⟨0x4c2, 7, -1, 2⟩, ⟨0x4cf, 1, -15, 1⟩,
    ⟨0x4d1, 48, -1, 2⟩, ⟨0x561, 38, -48, 1⟩, ⟨0x10d0, 43, 3008, 1⟩, ⟨0x10fd, 3, 3008, 1⟩,
    ⟨0x13f8, 6, -8, 1⟩, ⟨0x1c80, 1, -6254, 1⟩, ⟨0x1c81, 1, -6253, 1⟩, ⟨0x1c82, 1, -6244, 1⟩,
    ⟨0x1c83, 2, -6242, 1⟩, ⟨0x1c85, 1, -6243, 1⟩, ⟨0x1c86, 1, -6236, 1⟩, ⟨0x1c87, 1, -6181, 1⟩,
    ⟨0x1c88, 1, 35266, 1⟩, ⟨0x1d79, 1, 35332, 1⟩, ⟨0x1d7d, 1, 3814, 1⟩, ⟨0x1d8e, 1, 35384, 1⟩,
    ⟨0x1e01, 75, -1, 2⟩, ⟨0x1e9b, 1, -59, 1⟩, ⟨0x1ea1, 48, -1, 2⟩, ⟨0x1f00, 8, 8, 1⟩,
    ⟨0x1f10, 6, 8, 1⟩, ⟨0x1f20, 8, 8, 1⟩, ⟨0x1f30, 8, 8, 1⟩, ⟨0x1f40, 6, 8, 1⟩,
    ⟨0x1f51, 4, 8, 2⟩, ⟨0x1f60, 8, 8, 1⟩, ⟨0x1f70, 2, 74, 1⟩, ⟨0x1f72, 4, 86, 1⟩,
    ⟨0x1f76, 2, 100, 1⟩, ⟨0x1f78, 2, 128, 1⟩, ⟨0x1f7a, 2, 112, 1⟩, ⟨0x1f7c, 2, 126, 1⟩,
    ⟨0x1fb0, 2, 8, 1⟩, ⟨0x1fbe, 1, -7205, 1⟩, ⟨0x1fd0, 2, 8, 1⟩, ⟨0x1fe0, 2, 8, 1⟩,
    ⟨0x1fe5, 1, 7, 1⟩, ⟨0x214e, 1, -28, 1⟩, ⟨0x2170, 16, -16, 1⟩, ⟨0x2184, 1, -1, 1⟩,
    ⟨0x24d0, 26, -26, 1⟩, ⟨0x2c30, 48, -48, 1⟩, ⟨0x2c61, 1, -1, 1⟩, ⟨0x2c65, 1, -10795, 1⟩,
    ⟨0x2c66, 1, -10792, 1⟩, ⟨0x2c68, 3, -1, 2⟩, ⟨0x2c73, 1, -1, 1⟩, ⟨0x2c76, 1, -1, 1⟩,
    ⟨0x2c81, 50, -1, 2⟩, ⟨0x2cec, 2, -1, 2⟩, ⟨0x2cf3, 1, -1, 1⟩, ⟨0x2d00, 38, -7264, 1⟩,
    ⟨0x2d27, 1, -7264, 1⟩, ⟨0x2d2d, 1, -7264, 1⟩, ⟨0xa641, 23, -1, 2⟩, ⟨0xa681, 14, -1, 2⟩,
    ⟨0xa723, 7, -1, 2⟩, ⟨0xa733, 31, -1, 2⟩, ⟨0xa77a, 2, -1, 2⟩, ⟨0xa77f, 5, -1, 2⟩,
    ⟨0xa78c, 1, -1, 1⟩, ⟨0xa791, 2, -1, 2⟩, ⟨0xa794, 1, 48, 1⟩, ⟨0xa797, 10, -1, 2⟩,
    ⟨0xa7b5, 8, -1, 2⟩, ⟨0xa7c8, 2, -1, 2⟩, ⟨0xa7d1, 1, -1, 1⟩, ⟨0xa7d7, 2, -1, 2⟩,
    ⟨0xa7f6, 1, -1, 1⟩, ⟨0xab53, 1, -928, 1⟩, ⟨0xab70, 80, -38864, 1⟩, ⟨0xff41, 26, -32, 1⟩,
    ⟨0x10428, 40, -40, 1⟩, ⟨0x104d8, 36, -40, 1⟩, ⟨0x10597, 11, -39, 1⟩, ⟨0x105a3, 15, -39, 1⟩,
    ⟨0x105b3, 7, -39, 1⟩, ⟨0x105bb, 2, -39, 1⟩, ⟨0x10cc0, 51, -64, 1⟩, ⟨0x118c0, 32, -32, 1⟩,
    ⟨0x16e60, 32, -32, 1⟩, ⟨0x1e922, 34, -34, 1⟩]

/-- Characters whose uppercase form has several characters. -/
def upperExpansions : Array (Nat × List Char) := #[
    (0xdf, ['\u0053', '\u0053']), (0x149, ['\u02bc', '\u004e']),
    (0x1f0, ['\u004a', '\u030c']), (0x390, ['\u0399', '\u0308', '\u0301']),
    (0x3b0, ['\u03a5', '\u0308', '\u0301']), (0x587, ['\u0535', '\u0552']),
    (0x1e96, ['\u0048', '\u0331']), (0x1e97, ['\u0054', '\u0308']),
    (0x1e98, ['\u0057', '\u030a']), (0x1e99, ['\u0059', '\u030a']),
    (0x1e9a, ['\u0041', '\u02be']), (0x1f50, ['\u03a5', '\u0313']),
    (0x1f52, ['\u03a5', '\u0313', '\u0300']), (0x1f54, ['\u03a5', '\u0313', '\u0301']),
    (0x1f56, ['\u03a5', '\u0313', '\u0342']), (0x1f80, ['\u1f08', '\u0399']),
    (0x1f81, ['\u1f09', '\u0399']), (0x1f82, ['\u1f0a', '\u0399']),
    (0x1f83, ['\u1f0b', '\u0399']), (0x1f84, ['\u1f0c', '\u0399']),
    (0x1f85, ['\u1f0d', '\u0399']), (0x1f86, ['\u1f0e', '\u0399']),
    (0x1f87, ['\u1f0f', '\u0399']), (0x1f88, ['\u1f08', '\u0399']),
    (0x1f89, ['\u1f09', '\u0399']), (0x1f8a, ['\u1f0a', '\u0399']),
    (0x1f8b, ['\u1f0b', '\u0399']), (0x1f8c, ['\u1f0c', '\u0399']),
    (0x1f8d, ['\u1f0d', '\u0399']), (0x1f8e, ['\u1f0e', '\u0399']),
    (0x1f8f, ['\u1f0f', '\u0399']), (0x1f90, ['\u1f28', '\u0399']),
    (0x1f91, ['\u1f29', '\u0399']), (0x1f92, ['\u1f2a', '\u0399']),
    (0x1f93, ['\u1f2b', '\u0399']), (0x1f94, ['\u1f2c', '\u0399']),
    (0x1f95, ['\u1f2d', '\u0399']), (0x1f96, ['\u1f2e', '\u0399']),
    (0x1f97, ['\u1f2f', '\u0399']), (0x1f98, ['\u1f28', '\u0399']),
    (0x1f99, ['\u1f29', '\u0399']), (0x1f9a, ['\u1f2a', '\u0399']),
    (0x1f9b, ['\u1f2b', '\u0399']), (0x1f9c, ['\u1f2c', '\u0399']),
    (0x1f9d, ['\u1f2d', '\u0399']), (0x1f9e, ['\u1f2e', '\u0399']),
    (0x1f9f, ['\u1f2f', '\u0399']), (0x1fa0, ['\u1f68', '\u0399']),
    (0x1fa1, ['\u1f69', '\u0399']), (0x1fa2, ['\u1f6a', '\u0399']),
    (0x1fa3, ['\u1f6b', '\u0399']), (0x1fa4, ['\u1f6c', '\u0399']),
    (0x1fa5, ['\u1f6d', '\u0399']), (0x1fa6, ['\u1f6e', '\u0399']),
    (0x1fa7, ['\u1f6f', '\u0399']), (0x1fa8, ['\u1f68', '\u0399']),
    (0x1fa9, ['\u1f69', '\u0399']), (0x1faa, ['\u1f6a', '\u0399']),
    (0x1fab, ['\u1f6b', '\u0399']), (0x1fac, ['\u1f6c', '\u0399']),
    (0x1fad, ['\u1f6d', '\u0399']), (0x1fae, ['\u1f6e', '\u0399']),
    (0x1faf, ['\u1f6f', '\u0399']), (0x1fb2, ['\u1fba', '\u0399']),
    (0x1fb3, ['\u0391', '\u0399']), (0x1fb4, ['\u0386', '\u0399']),
    (0x1fb6, ['\u0391', '\u0342']), (0x1fb7, ['\u0391', '\u0342', '\u0399']),
    (0x1fbc, ['\u0391', '\u0399']), (0x1fc2, ['\u1fca', '\u0399']),
    (0x1fc3, ['\u0397', '\u0399']), (0x1fc4, ['\u0389', '\u0399']),
    (0x1fc6, ['\u0397', '\u0342']), (0x1fc7, ['\u0397', '\u0342', '\u0399']),
    (0x1fcc, ['\u0397', '\u0399']), (0x1fd2, ['\u0399', '\u0308', '\u0300']),
    (0x1fd3, ['\u0399', '\u0308', '\u0301']), (0x1fd6, ['\u0399', '\u0342']),
    (0x1fd7, ['\u0399', '\u0308', '\u0342']), (0x1fe2, ['\u03a5', '\u0308', '\u0300']),
    (0x1fe3, ['\u03a5', '\u0308', '\u0301']), (0x1fe4, ['\u03a1', '\u0313']),
    (0x1fe6, ['\u03a5', '\u0342']), (0x1fe7, ['\u03a5', '\u0308', '\u0342']),
    (0x1ff2, ['\u1ffa', '\u0399']), (0x1ff3, ['\u03a9', '\u0399']),
    (0x1ff4, ['\u038f', '\u0399']), (0x1ff6, ['\u03a9', '\u0342']),
    (0x1ff7, ['\u03a9', '\u0342', '\u0399']), (0x1ffc, ['\u03a9', '\u0399']),
    (0xfb00, ['\u0046', '\u0046']), (0xfb01, ['\u0046', '\u0049']),
    (0xfb02, ['\u0046', '\u004c']), (0xfb03, ['\u0046', '\u0046', '\u0049']),
    (0xfb04, ['\u0046', '\u0046', '\u004c']), (0xfb05, ['\u0053', '\u0054']),
    (0xfb06, ['\u0053', '\u0054']), (0xfb13, ['\u0544', '\u0546']),
    (0xfb14, ['\u0544', '\u0535']), (0xfb15, ['\u0544', '\u053b']),
    (0xfb16, ['\u054e', '\u0546']), (0xfb17, ['\u0544', '\u053d'])]

/-- The full mapping of `c` by a table of runs and a table of expansions; a character that
neither table moves maps to itself. -/
def mapChar (runs : Array CaseRun) (expansions : Array (Nat × List Char)) (c : Char) :
    List Char :=
  match expansions.find? (·.1 == c.toNat) with
  | some (_, target) => target
  | none =>
    match runs.find? (·.covers c.toNat) with
    | some r => [Char.ofNat (Int.toNat (c.toNat + r.delta))]
    | none => [c]

/-- The full lowercase mapping of one character, without context. -/
def lowerChar (c : Char) : List Char := mapChar lowerRuns lowerExpansions c

/-- The full uppercase mapping of one character. -/
def upperChar (c : Char) : List Char := mapChar upperRuns upperExpansions c

/-- The first character of `cs` that is not case-ignorable. -/
def firstRelevant (cs : List Char) : Option Char := cs.find? (fun c => !isCaseIgnorable c)

/-- A capital sigma is final when the nearest relevant character before it is cased and the
nearest relevant character after it, if any, is not. `before` lists the preceding characters
nearest first. -/
def sigmaIsFinal (before after : List Char) : Bool :=
  match firstRelevant before with
  | some b =>
    isCased b &&
      match firstRelevant after with
      | some a => !isCased a
      | none => true
  | none => false

/-- Lowercases `rest`, given the characters `before` it, nearest first. -/
def lowerFrom (before : List Char) : List Char → List Char
  | [] => []
  | c :: after =>
    (if c = '\u03a3' then [if sigmaIsFinal before after then '\u03c2' else '\u03c3']
     else lowerChar c) ++ lowerFrom (c :: before) after

/-- The full lowercase form of a text. -/
def lower (s : String) : String := String.ofList (lowerFrom [] s.toList)

/-- The full uppercase form of a text. -/
def upper (s : String) : String := String.ofList (s.toList.flatMap upperChar)

end IgnoreRules.Text
