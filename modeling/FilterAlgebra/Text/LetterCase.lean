/-!
# Capital and small letters

Letters of several scripts come in a capital and a small form, and a few digraphs in a
third one, which starts words. The tables hold how the forms of one letter are found from
each other, by the fourteenth version of the character standard. A run of a table
stands for letters that are at equal distances from each other and at one distance from
their other form; some letters become several.
-/

set_option autoImplicit false

namespace FilterAlgebra.LetterCase

/-- The first letter of a run, the count of its letters, the distance between them, and the
distance to the other form. -/
abbrev Run := Nat × Nat × Nat × Int

/-- The other form of a letter, by the runs of a table. -/
def ofRuns? (runs : List Run) (c : Char) : Option Char :=
  let n := c.toNat
  (runs.find? fun (start, count, step, _) =>
    start ≤ n && n < start + count * step && (n - start) % step == 0).map fun (_, _, _, shift) =>
      Char.ofNat (n + shift).toNat

/-- Whether a character lies in one of some closed ranges. -/
def isWithin (ranges : List (Nat × Nat)) (c : Char) : Bool :=
  ranges.any fun (first, last) => first ≤ c.toNat && c.toNat ≤ last

set_option maxRecDepth 2000 in
/-- From capital letters to small ones. -/
def smallRuns : List Run :=
  [(0x41, 26, 1, 32), (0xc0, 23, 1, 32), (0xd8, 7, 1, 32), (0x100, 24, 2, 1), (0x132, 3, 2, 1),
   (0x139, 8, 2, 1), (0x14a, 23, 2, 1), (0x178, 1, 1, -121), (0x179, 3, 2, 1), (0x181, 1, 1, 210),
   (0x182, 2, 2, 1), (0x186, 1, 1, 206), (0x187, 1, 1, 1), (0x189, 2, 1, 205), (0x18b, 1, 1, 1),
   (0x18e, 1, 1, 79), (0x18f, 1, 1, 202), (0x190, 1, 1, 203), (0x191, 1, 1, 1), (0x193, 1, 1, 205),
   (0x194, 1, 1, 207), (0x196, 1, 1, 211), (0x197, 1, 1, 209), (0x198, 1, 1, 1), (0x19c, 1, 1, 211),
   (0x19d, 1, 1, 213), (0x19f, 1, 1, 214), (0x1a0, 3, 2, 1), (0x1a6, 1, 1, 218), (0x1a7, 1, 1, 1),
   (0x1a9, 1, 1, 218), (0x1ac, 1, 1, 1), (0x1ae, 1, 1, 218), (0x1af, 1, 1, 1), (0x1b1, 2, 1, 217),
   (0x1b3, 2, 2, 1), (0x1b7, 1, 1, 219), (0x1b8, 1, 1, 1), (0x1bc, 1, 1, 1), (0x1c4, 1, 1, 2),
   (0x1c5, 1, 1, 1), (0x1c7, 1, 1, 2), (0x1c8, 1, 1, 1), (0x1ca, 1, 1, 2), (0x1cb, 9, 2, 1),
   (0x1de, 9, 2, 1), (0x1f1, 1, 1, 2), (0x1f2, 2, 2, 1), (0x1f6, 1, 1, -97), (0x1f7, 1, 1, -56),
   (0x1f8, 20, 2, 1), (0x220, 1, 1, -130), (0x222, 9, 2, 1), (0x23a, 1, 1, 10795), (0x23b, 1, 1, 1),
   (0x23d, 1, 1, -163), (0x23e, 1, 1, 10792), (0x241, 1, 1, 1), (0x243, 1, 1, -195), (0x244, 1, 1, 69),
   (0x245, 1, 1, 71), (0x246, 5, 2, 1), (0x370, 2, 2, 1), (0x376, 1, 1, 1), (0x37f, 1, 1, 116),
   (0x386, 1, 1, 38), (0x388, 3, 1, 37), (0x38c, 1, 1, 64), (0x38e, 2, 1, 63), (0x391, 17, 1, 32),
   (0x3a3, 9, 1, 32), (0x3cf, 1, 1, 8), (0x3d8, 12, 2, 1), (0x3f4, 1, 1, -60), (0x3f7, 1, 1, 1),
   (0x3f9, 1, 1, -7), (0x3fa, 1, 1, 1), (0x3fd, 3, 1, -130), (0x400, 16, 1, 80), (0x410, 32, 1, 32),
   (0x460, 17, 2, 1), (0x48a, 27, 2, 1), (0x4c0, 1, 1, 15), (0x4c1, 7, 2, 1), (0x4d0, 48, 2, 1),
   (0x531, 38, 1, 48), (0x10a0, 38, 1, 7264), (0x10c7, 1, 1, 7264), (0x10cd, 1, 1, 7264),
   (0x13a0, 80, 1, 38864), (0x13f0, 6, 1, 8), (0x1c90, 43, 1, -3008), (0x1cbd, 3, 1, -3008),
   (0x1e00, 75, 2, 1), (0x1e9e, 1, 1, -7615), (0x1ea0, 48, 2, 1), (0x1f08, 8, 1, -8), (0x1f18, 6, 1, -8),
   (0x1f28, 8, 1, -8), (0x1f38, 8, 1, -8), (0x1f48, 6, 1, -8), (0x1f59, 4, 2, -8), (0x1f68, 8, 1, -8),
   (0x1f88, 8, 1, -8), (0x1f98, 8, 1, -8), (0x1fa8, 8, 1, -8), (0x1fb8, 2, 1, -8), (0x1fba, 2, 1, -74),
   (0x1fbc, 1, 1, -9), (0x1fc8, 4, 1, -86), (0x1fcc, 1, 1, -9), (0x1fd8, 2, 1, -8), (0x1fda, 2, 1, -100),
   (0x1fe8, 2, 1, -8), (0x1fea, 2, 1, -112), (0x1fec, 1, 1, -7), (0x1ff8, 2, 1, -128),
   (0x1ffa, 2, 1, -126), (0x1ffc, 1, 1, -9), (0x2126, 1, 1, -7517), (0x212a, 1, 1, -8383),
   (0x212b, 1, 1, -8262), (0x2132, 1, 1, 28), (0x2160, 16, 1, 16), (0x2183, 1, 1, 1), (0x24b6, 26, 1, 26),
   (0x2c00, 48, 1, 48), (0x2c60, 1, 1, 1), (0x2c62, 1, 1, -10743), (0x2c63, 1, 1, -3814),
   (0x2c64, 1, 1, -10727), (0x2c67, 3, 2, 1), (0x2c6d, 1, 1, -10780), (0x2c6e, 1, 1, -10749),
   (0x2c6f, 1, 1, -10783), (0x2c70, 1, 1, -10782), (0x2c72, 1, 1, 1), (0x2c75, 1, 1, 1),
   (0x2c7e, 2, 1, -10815), (0x2c80, 50, 2, 1), (0x2ceb, 2, 2, 1), (0x2cf2, 1, 1, 1), (0xa640, 23, 2, 1),
   (0xa680, 14, 2, 1), (0xa722, 7, 2, 1), (0xa732, 31, 2, 1), (0xa779, 2, 2, 1), (0xa77d, 1, 1, -35332),
   (0xa77e, 5, 2, 1), (0xa78b, 1, 1, 1), (0xa78d, 1, 1, -42280), (0xa790, 2, 2, 1), (0xa796, 10, 2, 1),
   (0xa7aa, 1, 1, -42308), (0xa7ab, 1, 1, -42319), (0xa7ac, 1, 1, -42315), (0xa7ad, 1, 1, -42305),
   (0xa7ae, 1, 1, -42308), (0xa7b0, 1, 1, -42258), (0xa7b1, 1, 1, -42282), (0xa7b2, 1, 1, -42261),
   (0xa7b3, 1, 1, 928), (0xa7b4, 8, 2, 1), (0xa7c4, 1, 1, -48), (0xa7c5, 1, 1, -42307),
   (0xa7c6, 1, 1, -35384), (0xa7c7, 2, 2, 1), (0xa7d0, 1, 1, 1), (0xa7d6, 2, 2, 1), (0xa7f5, 1, 1, 1),
   (0xff21, 26, 1, 32), (0x10400, 40, 1, 40), (0x104b0, 36, 1, 40), (0x10570, 19, 2, 39),
   (0x10571, 5, 2, 39), (0x1057d, 7, 2, 39), (0x1058d, 3, 2, 39), (0x10595, 1, 1, 39),
   (0x10c80, 51, 1, 64), (0x118a0, 32, 1, 32), (0x16e40, 32, 1, 32), (0x1e900, 34, 1, 34)]

set_option maxRecDepth 2000 in
/-- From small letters to capital ones. -/
def capitalRuns : List Run :=
  [(0x61, 26, 1, -32), (0xb5, 1, 1, 743), (0xe0, 23, 1, -32), (0xf8, 7, 1, -32), (0xff, 1, 1, 121),
   (0x101, 24, 2, -1), (0x131, 1, 1, -232), (0x133, 3, 2, -1), (0x13a, 8, 2, -1), (0x14b, 23, 2, -1),
   (0x17a, 3, 2, -1), (0x17f, 1, 1, -300), (0x180, 1, 1, 195), (0x183, 2, 2, -1), (0x188, 1, 1, -1),
   (0x18c, 1, 1, -1), (0x192, 1, 1, -1), (0x195, 1, 1, 97), (0x199, 1, 1, -1), (0x19a, 1, 1, 163),
   (0x19e, 1, 1, 130), (0x1a1, 3, 2, -1), (0x1a8, 1, 1, -1), (0x1ad, 1, 1, -1), (0x1b0, 1, 1, -1),
   (0x1b4, 2, 2, -1), (0x1b9, 1, 1, -1), (0x1bd, 1, 1, -1), (0x1bf, 1, 1, 56), (0x1c5, 1, 1, -1),
   (0x1c6, 1, 1, -2), (0x1c8, 1, 1, -1), (0x1c9, 1, 1, -2), (0x1cb, 1, 1, -1), (0x1cc, 1, 1, -2),
   (0x1ce, 8, 2, -1), (0x1dd, 1, 1, -79), (0x1df, 9, 2, -1), (0x1f2, 1, 1, -1), (0x1f3, 1, 1, -2),
   (0x1f5, 1, 1, -1), (0x1f9, 20, 2, -1), (0x223, 9, 2, -1), (0x23c, 1, 1, -1), (0x23f, 2, 1, 10815),
   (0x242, 1, 1, -1), (0x247, 5, 2, -1), (0x250, 1, 1, 10783), (0x251, 1, 1, 10780), (0x252, 1, 1, 10782),
   (0x253, 1, 1, -210), (0x254, 1, 1, -206), (0x256, 2, 1, -205), (0x259, 1, 1, -202),
   (0x25b, 1, 1, -203), (0x25c, 1, 1, 42319), (0x260, 1, 1, -205), (0x261, 1, 1, 42315),
   (0x263, 1, 1, -207), (0x265, 1, 1, 42280), (0x266, 1, 1, 42308), (0x268, 1, 1, -209),
   (0x269, 1, 1, -211), (0x26a, 1, 1, 42308), (0x26b, 1, 1, 10743), (0x26c, 1, 1, 42305),
   (0x26f, 1, 1, -211), (0x271, 1, 1, 10749), (0x272, 1, 1, -213), (0x275, 1, 1, -214),
   (0x27d, 1, 1, 10727), (0x280, 1, 1, -218), (0x282, 1, 1, 42307), (0x283, 1, 1, -218),
   (0x287, 1, 1, 42282), (0x288, 1, 1, -218), (0x289, 1, 1, -69), (0x28a, 2, 1, -217), (0x28c, 1, 1, -71),
   (0x292, 1, 1, -219), (0x29d, 1, 1, 42261), (0x29e, 1, 1, 42258), (0x345, 1, 1, 84), (0x371, 2, 2, -1),
   (0x377, 1, 1, -1), (0x37b, 3, 1, 130), (0x3ac, 1, 1, -38), (0x3ad, 3, 1, -37), (0x3b1, 17, 1, -32),
   (0x3c2, 1, 1, -31), (0x3c3, 9, 1, -32), (0x3cc, 1, 1, -64), (0x3cd, 2, 1, -63), (0x3d0, 1, 1, -62),
   (0x3d1, 1, 1, -57), (0x3d5, 1, 1, -47), (0x3d6, 1, 1, -54), (0x3d7, 1, 1, -8), (0x3d9, 12, 2, -1),
   (0x3f0, 1, 1, -86), (0x3f1, 1, 1, -80), (0x3f2, 1, 1, 7), (0x3f3, 1, 1, -116), (0x3f5, 1, 1, -96),
   (0x3f8, 1, 1, -1), (0x3fb, 1, 1, -1), (0x430, 32, 1, -32), (0x450, 16, 1, -80), (0x461, 17, 2, -1),
   (0x48b, 27, 2, -1), (0x4c2, 7, 2, -1), (0x4cf, 1, 1, -15), (0x4d1, 48, 2, -1), (0x561, 38, 1, -48),
   (0x10d0, 43, 1, 3008), (0x10fd, 3, 1, 3008), (0x13f8, 6, 1, -8), (0x1c80, 1, 1, -6254),
   (0x1c81, 1, 1, -6253), (0x1c82, 1, 1, -6244), (0x1c83, 2, 1, -6242), (0x1c85, 1, 1, -6243),
   (0x1c86, 1, 1, -6236), (0x1c87, 1, 1, -6181), (0x1c88, 1, 1, 35266), (0x1d79, 1, 1, 35332),
   (0x1d7d, 1, 1, 3814), (0x1d8e, 1, 1, 35384), (0x1e01, 75, 2, -1), (0x1e9b, 1, 1, -59),
   (0x1ea1, 48, 2, -1), (0x1f00, 8, 1, 8), (0x1f10, 6, 1, 8), (0x1f20, 8, 1, 8), (0x1f30, 8, 1, 8),
   (0x1f40, 6, 1, 8), (0x1f51, 4, 2, 8), (0x1f60, 8, 1, 8), (0x1f70, 2, 1, 74), (0x1f72, 4, 1, 86),
   (0x1f76, 2, 1, 100), (0x1f78, 2, 1, 128), (0x1f7a, 2, 1, 112), (0x1f7c, 2, 1, 126), (0x1fb0, 2, 1, 8),
   (0x1fbe, 1, 1, -7205), (0x1fd0, 2, 1, 8), (0x1fe0, 2, 1, 8), (0x1fe5, 1, 1, 7), (0x214e, 1, 1, -28),
   (0x2170, 16, 1, -16), (0x2184, 1, 1, -1), (0x24d0, 26, 1, -26), (0x2c30, 48, 1, -48),
   (0x2c61, 1, 1, -1), (0x2c65, 1, 1, -10795), (0x2c66, 1, 1, -10792), (0x2c68, 3, 2, -1),
   (0x2c73, 1, 1, -1), (0x2c76, 1, 1, -1), (0x2c81, 50, 2, -1), (0x2cec, 2, 2, -1), (0x2cf3, 1, 1, -1),
   (0x2d00, 38, 1, -7264), (0x2d27, 1, 1, -7264), (0x2d2d, 1, 1, -7264), (0xa641, 23, 2, -1),
   (0xa681, 14, 2, -1), (0xa723, 7, 2, -1), (0xa733, 31, 2, -1), (0xa77a, 2, 2, -1), (0xa77f, 5, 2, -1),
   (0xa78c, 1, 1, -1), (0xa791, 2, 2, -1), (0xa794, 1, 1, 48), (0xa797, 10, 2, -1), (0xa7b5, 8, 2, -1),
   (0xa7c8, 2, 2, -1), (0xa7d1, 1, 1, -1), (0xa7d7, 2, 2, -1), (0xa7f6, 1, 1, -1), (0xab53, 1, 1, -928),
   (0xab70, 80, 1, -38864), (0xff41, 26, 1, -32), (0x10428, 40, 1, -40), (0x104d8, 36, 1, -40),
   (0x10597, 19, 2, -39), (0x10598, 5, 2, -39), (0x105a4, 7, 2, -39), (0x105b4, 3, 2, -39),
   (0x105bc, 1, 1, -39), (0x10cc0, 51, 1, -64), (0x118c0, 32, 1, -32), (0x16e60, 32, 1, -32),
   (0x1e922, 34, 1, -34)]

/-- From letters to the form that starts words, where it is not the capital one. -/
def initialRuns : List Run :=
  [(0x1c4, 1, 1, 1), (0x1c5, 1, 1, 0), (0x1c6, 1, 1, -1), (0x1c7, 1, 1, 1), (0x1c8, 1, 1, 0),
   (0x1c9, 1, 1, -1), (0x1ca, 1, 1, 1), (0x1cb, 1, 1, 0), (0x1cc, 1, 1, -1), (0x1f1, 1, 1, 1),
   (0x1f2, 1, 1, 0), (0x1f3, 1, 1, -1), (0x10d0, 43, 1, 0), (0x10fd, 3, 1, 0), (0x1f80, 8, 1, 8),
   (0x1f88, 8, 1, 0), (0x1f90, 8, 1, 8), (0x1f98, 8, 1, 0), (0x1fa0, 8, 1, 8), (0x1fa8, 8, 1, 0),
   (0x1fb3, 1, 1, 9), (0x1fbc, 1, 1, 0), (0x1fc3, 1, 1, 9), (0x1fcc, 1, 1, 0), (0x1ff3, 1, 1, 9),
   (0x1ffc, 1, 1, 0)]

set_option maxRecDepth 2000 in
/-- The letters whose capital form is several letters. -/
def manyCapitals : List (Nat × List Nat) :=
  [(0xdf, [0x53, 0x53]), (0x149, [0x2bc, 0x4e]), (0x1f0, [0x4a, 0x30c]), (0x390, [0x399, 0x308, 0x301]),
   (0x3b0, [0x3a5, 0x308, 0x301]), (0x587, [0x535, 0x552]), (0x1e96, [0x48, 0x331]),
   (0x1e97, [0x54, 0x308]), (0x1e98, [0x57, 0x30a]), (0x1e99, [0x59, 0x30a]), (0x1e9a, [0x41, 0x2be]),
   (0x1f50, [0x3a5, 0x313]), (0x1f52, [0x3a5, 0x313, 0x300]), (0x1f54, [0x3a5, 0x313, 0x301]),
   (0x1f56, [0x3a5, 0x313, 0x342]), (0x1f80, [0x1f08, 0x399]), (0x1f81, [0x1f09, 0x399]),
   (0x1f82, [0x1f0a, 0x399]), (0x1f83, [0x1f0b, 0x399]), (0x1f84, [0x1f0c, 0x399]),
   (0x1f85, [0x1f0d, 0x399]), (0x1f86, [0x1f0e, 0x399]), (0x1f87, [0x1f0f, 0x399]),
   (0x1f88, [0x1f08, 0x399]), (0x1f89, [0x1f09, 0x399]), (0x1f8a, [0x1f0a, 0x399]),
   (0x1f8b, [0x1f0b, 0x399]), (0x1f8c, [0x1f0c, 0x399]), (0x1f8d, [0x1f0d, 0x399]),
   (0x1f8e, [0x1f0e, 0x399]), (0x1f8f, [0x1f0f, 0x399]), (0x1f90, [0x1f28, 0x399]),
   (0x1f91, [0x1f29, 0x399]), (0x1f92, [0x1f2a, 0x399]), (0x1f93, [0x1f2b, 0x399]),
   (0x1f94, [0x1f2c, 0x399]), (0x1f95, [0x1f2d, 0x399]), (0x1f96, [0x1f2e, 0x399]),
   (0x1f97, [0x1f2f, 0x399]), (0x1f98, [0x1f28, 0x399]), (0x1f99, [0x1f29, 0x399]),
   (0x1f9a, [0x1f2a, 0x399]), (0x1f9b, [0x1f2b, 0x399]), (0x1f9c, [0x1f2c, 0x399]),
   (0x1f9d, [0x1f2d, 0x399]), (0x1f9e, [0x1f2e, 0x399]), (0x1f9f, [0x1f2f, 0x399]),
   (0x1fa0, [0x1f68, 0x399]), (0x1fa1, [0x1f69, 0x399]), (0x1fa2, [0x1f6a, 0x399]),
   (0x1fa3, [0x1f6b, 0x399]), (0x1fa4, [0x1f6c, 0x399]), (0x1fa5, [0x1f6d, 0x399]),
   (0x1fa6, [0x1f6e, 0x399]), (0x1fa7, [0x1f6f, 0x399]), (0x1fa8, [0x1f68, 0x399]),
   (0x1fa9, [0x1f69, 0x399]), (0x1faa, [0x1f6a, 0x399]), (0x1fab, [0x1f6b, 0x399]),
   (0x1fac, [0x1f6c, 0x399]), (0x1fad, [0x1f6d, 0x399]), (0x1fae, [0x1f6e, 0x399]),
   (0x1faf, [0x1f6f, 0x399]), (0x1fb2, [0x1fba, 0x399]), (0x1fb3, [0x391, 0x399]),
   (0x1fb4, [0x386, 0x399]), (0x1fb6, [0x391, 0x342]), (0x1fb7, [0x391, 0x342, 0x399]),
   (0x1fbc, [0x391, 0x399]), (0x1fc2, [0x1fca, 0x399]), (0x1fc3, [0x397, 0x399]),
   (0x1fc4, [0x389, 0x399]), (0x1fc6, [0x397, 0x342]), (0x1fc7, [0x397, 0x342, 0x399]),
   (0x1fcc, [0x397, 0x399]), (0x1fd2, [0x399, 0x308, 0x300]), (0x1fd3, [0x399, 0x308, 0x301]),
   (0x1fd6, [0x399, 0x342]), (0x1fd7, [0x399, 0x308, 0x342]), (0x1fe2, [0x3a5, 0x308, 0x300]),
   (0x1fe3, [0x3a5, 0x308, 0x301]), (0x1fe4, [0x3a1, 0x313]), (0x1fe6, [0x3a5, 0x342]),
   (0x1fe7, [0x3a5, 0x308, 0x342]), (0x1ff2, [0x1ffa, 0x399]), (0x1ff3, [0x3a9, 0x399]),
   (0x1ff4, [0x38f, 0x399]), (0x1ff6, [0x3a9, 0x342]), (0x1ff7, [0x3a9, 0x342, 0x399]),
   (0x1ffc, [0x3a9, 0x399]), (0xfb00, [0x46, 0x46]), (0xfb01, [0x46, 0x49]), (0xfb02, [0x46, 0x4c]),
   (0xfb03, [0x46, 0x46, 0x49]), (0xfb04, [0x46, 0x46, 0x4c]), (0xfb05, [0x53, 0x54]),
   (0xfb06, [0x53, 0x54]), (0xfb13, [0x544, 0x546]), (0xfb14, [0x544, 0x535]), (0xfb15, [0x544, 0x53b]),
   (0xfb16, [0x54e, 0x546]), (0xfb17, [0x544, 0x53d])]

/-- The letters whose form at the start of words is several letters, and not the capital ones. -/
def manyInitials : List (Nat × List Nat) :=
  [(0xdf, [0x53, 0x73]), (0x587, [0x535, 0x582]), (0x1fb2, [0x1fba, 0x345]), (0x1fb4, [0x386, 0x345]),
   (0x1fb7, [0x391, 0x342, 0x345]), (0x1fc2, [0x1fca, 0x345]), (0x1fc4, [0x389, 0x345]),
   (0x1fc7, [0x397, 0x342, 0x345]), (0x1ff2, [0x1ffa, 0x345]), (0x1ff4, [0x38f, 0x345]),
   (0x1ff7, [0x3a9, 0x342, 0x345]), (0xfb00, [0x46, 0x66]), (0xfb01, [0x46, 0x69]),
   (0xfb02, [0x46, 0x6c]), (0xfb03, [0x46, 0x66, 0x69]), (0xfb04, [0x46, 0x66, 0x6c]),
   (0xfb05, [0x53, 0x74]), (0xfb06, [0x53, 0x74]), (0xfb13, [0x544, 0x576]), (0xfb14, [0x544, 0x565]),
   (0xfb15, [0x544, 0x56b]), (0xfb16, [0x54e, 0x576]), (0xfb17, [0x544, 0x56d])]

set_option maxRecDepth 2000 in
/-- The small letters that have no capital form. -/
def lastingSmall : List (Nat × Nat) :=
  [(0xaa, 0xaa), (0xba, 0xba), (0x138, 0x138), (0x18d, 0x18d), (0x19b, 0x19b), (0x1aa, 0x1ab),
   (0x1ba, 0x1ba), (0x1be, 0x1be), (0x221, 0x221), (0x234, 0x239), (0x255, 0x255), (0x258, 0x258),
   (0x25a, 0x25a), (0x25d, 0x25f), (0x262, 0x262), (0x264, 0x264), (0x267, 0x267), (0x26d, 0x26e),
   (0x270, 0x270), (0x273, 0x274), (0x276, 0x27c), (0x27e, 0x27f), (0x281, 0x281), (0x284, 0x286),
   (0x28d, 0x291), (0x293, 0x293), (0x295, 0x29c), (0x29f, 0x2b8), (0x2c0, 0x2c1), (0x2e0, 0x2e4),
   (0x37a, 0x37a), (0x3fc, 0x3fc), (0x560, 0x560), (0x588, 0x588), (0x1d00, 0x1d78), (0x1d7a, 0x1d7c),
   (0x1d7e, 0x1d8d), (0x1d8f, 0x1dbf), (0x1e9c, 0x1e9d), (0x1e9f, 0x1e9f), (0x2071, 0x2071),
   (0x207f, 0x207f), (0x2090, 0x209c), (0x210a, 0x210a), (0x210e, 0x210f), (0x2113, 0x2113),
   (0x212f, 0x212f), (0x2134, 0x2134), (0x2139, 0x2139), (0x213c, 0x213d), (0x2146, 0x2149),
   (0x2c71, 0x2c71), (0x2c74, 0x2c74), (0x2c77, 0x2c7d), (0x2ce4, 0x2ce4), (0xa69c, 0xa69d),
   (0xa730, 0xa731), (0xa770, 0xa778), (0xa78e, 0xa78e), (0xa795, 0xa795), (0xa7af, 0xa7af),
   (0xa7d3, 0xa7d3), (0xa7d5, 0xa7d5), (0xa7f8, 0xa7fa), (0xab30, 0xab52), (0xab54, 0xab5a),
   (0xab5c, 0xab68), (0x10780, 0x10780), (0x10783, 0x10785), (0x10787, 0x107b0), (0x107b2, 0x107ba),
   (0x1d41a, 0x1d433), (0x1d44e, 0x1d454), (0x1d456, 0x1d467), (0x1d482, 0x1d49b), (0x1d4b6, 0x1d4b9),
   (0x1d4bb, 0x1d4bb), (0x1d4bd, 0x1d4c3), (0x1d4c5, 0x1d4cf), (0x1d4ea, 0x1d503), (0x1d51e, 0x1d537),
   (0x1d552, 0x1d56b), (0x1d586, 0x1d59f), (0x1d5ba, 0x1d5d3), (0x1d5ee, 0x1d607), (0x1d622, 0x1d63b),
   (0x1d656, 0x1d66f), (0x1d68a, 0x1d6a5), (0x1d6c2, 0x1d6da), (0x1d6dc, 0x1d6e1), (0x1d6fc, 0x1d714),
   (0x1d716, 0x1d71b), (0x1d736, 0x1d74e), (0x1d750, 0x1d755), (0x1d770, 0x1d788), (0x1d78a, 0x1d78f),
   (0x1d7aa, 0x1d7c2), (0x1d7c4, 0x1d7c9), (0x1d7cb, 0x1d7cb), (0x1df00, 0x1df09), (0x1df0b, 0x1df1e)]

/-- The capital letters that have no small form. -/
def lastingCapitals : List (Nat × Nat) :=
  [(0x3d2, 0x3d4), (0x2102, 0x2102), (0x2107, 0x2107), (0x210b, 0x210d), (0x2110, 0x2112),
   (0x2115, 0x2115), (0x2119, 0x211d), (0x2124, 0x2124), (0x2128, 0x2128), (0x212c, 0x212d),
   (0x2130, 0x2131), (0x2133, 0x2133), (0x213e, 0x213f), (0x2145, 0x2145), (0x1d400, 0x1d419),
   (0x1d434, 0x1d44d), (0x1d468, 0x1d481), (0x1d49c, 0x1d49c), (0x1d49e, 0x1d49f), (0x1d4a2, 0x1d4a2),
   (0x1d4a5, 0x1d4a6), (0x1d4a9, 0x1d4ac), (0x1d4ae, 0x1d4b5), (0x1d4d0, 0x1d4e9), (0x1d504, 0x1d505),
   (0x1d507, 0x1d50a), (0x1d50d, 0x1d514), (0x1d516, 0x1d51c), (0x1d538, 0x1d539), (0x1d53b, 0x1d53e),
   (0x1d540, 0x1d544), (0x1d546, 0x1d546), (0x1d54a, 0x1d550), (0x1d56c, 0x1d585), (0x1d5a0, 0x1d5b9),
   (0x1d5d4, 0x1d5ed), (0x1d608, 0x1d621), (0x1d63c, 0x1d655), (0x1d670, 0x1d689), (0x1d6a8, 0x1d6c0),
   (0x1d6e2, 0x1d6fa), (0x1d71c, 0x1d734), (0x1d756, 0x1d76e), (0x1d790, 0x1d7a8), (0x1d7ca, 0x1d7ca),
   (0x1f130, 0x1f149), (0x1f150, 0x1f169), (0x1f170, 0x1f189)]

/-- The letters that a character becomes by a table, if any. -/
def ofTable? (table : List (Nat × List Nat)) (c : Char) : Option (List Char) :=
  (table.find? (·.1 == c.toNat)).map fun (_, letters) => letters.map Char.ofNat

/-- The small form of a letter. -/
def small (c : Char) : List Char :=
  if c.toNat = 0x130 then ['i', Char.ofNat 0x307] else [(ofRuns? smallRuns c).getD c]

/-- The capital form of a letter. -/
def capital (c : Char) : List Char :=
  (ofTable? manyCapitals c).getD [(ofRuns? capitalRuns c).getD c]

/-- The form of a letter at the start of a word. -/
def initial (c : Char) : List Char :=
  match ofTable? manyInitials c, ofRuns? initialRuns c with
  | some letters, _ => letters
  | none, some letter => [letter]
  | none, none => capital c

/-- The letters of the form that starts words. -/
def initials : List (Nat × Nat) :=
  [(0x1c5, 0x1c5), (0x1c8, 0x1c8), (0x1cb, 0x1cb), (0x1f2, 0x1f2), (0x1f88, 0x1f8f), (0x1f98, 0x1f9f),
   (0x1fa8, 0x1faf), (0x1fbc, 0x1fbc), (0x1fcc, 0x1fcc), (0x1ffc, 0x1ffc)]

/-- Whether a letter has the form that starts words and is no capital one. -/
def isInitial (c : Char) : Bool :=
  isWithin initials c

/-- Whether a letter is a capital one. -/
def isCapital (c : Char) : Bool :=
  isWithin lastingCapitals c || (!isInitial c && small c != [c])

/-- Whether a letter is a small one. -/
def isSmall (c : Char) : Bool :=
  isWithin lastingSmall c || (!isInitial c && capital c != [c])

/-- Whether a character has forms. -/
def isCased (c : Char) : Bool :=
  isCapital c || isSmall c || isInitial c

/-- Whether a character does not end a word whose letters have forms. -/
def isPassed (c : Char) : Bool :=
  ['\'', '.', ':', '^', '`', Char.ofNat 0xa8, Char.ofNat 0xad, Char.ofNat 0xaf, Char.ofNat 0xb4,
   Char.ofNat 0xb7, Char.ofNat 0xb8, Char.ofNat 0x2018, Char.ofNat 0x2019].contains c ||
    isWithin [(0x2b0, 0x36f), (0x483, 0x489), (0x1dc4, 0x1dff), (0x20d0, 0x20f0)] c

/-- The capital letter whose small form depends on its place. -/
def sigma : Char := Char.ofNat 0x3a3

/-- The small form of a letter between those before it, the nearest first, and those after it: one
letter has a form of its own at the end of words. -/
def smallBetween (before : List Char) (c : Char) (after : List Char) : List Char :=
  let meets := fun chars => (chars.dropWhile isPassed).head?.any isCased
  let endsWord := meets before && !meets after
  if c == sigma then [Char.ofNat (if endsWord then 0x3c2 else 0x3c3)] else small c

/-- The small forms of letters, given those before them, the nearest first. -/
def smallAfter (before : List Char) : List Char → List Char
  | [] => []
  | c :: rest => smallBetween before c rest ++ smallAfter (c :: before) rest

/-- A text in small letters. -/
def lowered (chars : List Char) : List Char :=
  smallAfter [] chars

/-- A text in capital letters. -/
def raised (chars : List Char) : List Char :=
  chars.flatMap capital

/-- A text that starts with a capital letter and goes on in small ones. -/
def capitalized : List Char → List Char
  | [] => []
  | c :: rest => initial c ++ smallAfter [c] rest

/-- A text whose words start with capital letters, given the letters before it. -/
def titledAfter (before : List Char) : List Char → List Char
  | [] => []
  | c :: rest =>
    let form := if before.head?.any isCased then smallBetween before c rest else initial c
    form ++ titledAfter (c :: before) rest

/-- A text whose words start with capital letters. -/
def titled (chars : List Char) : List Char :=
  titledAfter [] chars

/-- A text with small letters for the capital ones, and the other way around, given the letters
before it. -/
def swappedAfter (before : List Char) : List Char → List Char
  | [] => []
  | c :: rest =>
    let swapped :=
      if isCapital c then smallBetween before c rest else if isSmall c then capital c else [c]
    swapped ++ swappedAfter (c :: before) rest

/-- A text with small letters for the capital ones, and the other way around. -/
def swapped (chars : List Char) : List Char :=
  swappedAfter [] chars

/-- What a letter is compared by where its form does not matter. -/
def folded (c : Char) : List Char :=
  let n := c.toNat
  if n = 0x131 then [c]
  else if n = 0x1e9e then ['s', 's']
  else if 0x13a0 ≤ n && n ≤ 0x13f5 then [c]
  else if (0x13f8 ≤ n && n ≤ 0x13fd) || (0xab70 ≤ n && n ≤ 0xabbf) then capital c
  else ((capital c).flatMap small).map fun letter => if letter.toNat = 0x3c2 then Char.ofNat 0x3c3 else letter

end FilterAlgebra.LetterCase
