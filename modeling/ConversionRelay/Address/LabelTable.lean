/-!
The characters that may stand in the name of a host: letters in lower case, digits, marks and the
hyphen. Ranges are in ascending order and do not overlap.
-/
namespace ConversionRelay.Address

/-- Every so many characters of a range, as far as they are printable at all. -/
def labelRanges : List (Nat × Nat × Nat) := [
  (0x2d, 0x2d, 1), (0x30, 0x39, 1), (0x61, 0x7a, 1), (0xdf, 0xf6, 1), (0xf8, 0xff, 1),
  (0x101, 0x131, 2), (0x135, 0x137, 2), (0x138, 0x13e, 2), (0x142, 0x148, 2), (0x14b, 0x177, 2),
  (0x17a, 0x180, 2), (0x183, 0x185, 2), (0x188, 0x188, 1), (0x18c, 0x18d, 1), (0x192, 0x192, 1),
  (0x195, 0x195, 1), (0x199, 0x19b, 1), (0x19e, 0x19e, 1), (0x1a1, 0x1a5, 2), (0x1a8, 0x1aa, 2),
  (0x1ab, 0x1ad, 2), (0x1b0, 0x1b0, 1), (0x1b4, 0x1b6, 2), (0x1b9, 0x1bb, 1), (0x1bd, 0x1c3, 1),
  (0x1ce, 0x1dc, 2), (0x1dd, 0x1ef, 2), (0x1f0, 0x1f0, 1), (0x1f5, 0x1f5, 1), (0x1f9, 0x233, 2),
  (0x234, 0x239, 1), (0x23c, 0x23c, 1), (0x23f, 0x240, 1), (0x242, 0x242, 1), (0x247, 0x24f, 2),
  (0x250, 0x2af, 1), (0x2b9, 0x2c1, 1), (0x2c6, 0x2d1, 1), (0x2ec, 0x2ee, 2), (0x300, 0x33f, 1),
  (0x342, 0x342, 1), (0x346, 0x34e, 1), (0x350, 0x36f, 1), (0x371, 0x373, 2), (0x377, 0x37b, 2),
  (0x37c, 0x37d, 1), (0x390, 0x390, 1), (0x3ac, 0x3ce, 1), (0x3d7, 0x3ef, 2), (0x3f3, 0x3f3, 1),
  (0x3f8, 0x3f8, 1), (0x3fb, 0x3fc, 1), (0x430, 0x45f, 1), (0x461, 0x483, 2), (0x484, 0x487, 1),
  (0x48b, 0x4bf, 2), (0x4c2, 0x4ce, 2), (0x4cf, 0x52f, 2), (0x559, 0x559, 1), (0x560, 0x586, 1),
  (0x588, 0x588, 1), (0x591, 0x5bd, 1), (0x5bf, 0x5c1, 2), (0x5c2, 0x5c4, 2), (0x5c5, 0x5c7, 2),
  (0x5d0, 0x5f2, 1), (0x610, 0x61a, 1), (0x620, 0x63f, 1), (0x641, 0x65f, 1), (0x66e, 0x674, 1),
  (0x679, 0x6d3, 1), (0x6d5, 0x6dc, 1), (0x6df, 0x6e8, 1), (0x6ea, 0x6ef, 1), (0x6fa, 0x6ff, 1),
  (0x710, 0x7f5, 1), (0x7fd, 0x7fd, 1), (0x800, 0x82d, 1), (0x840, 0x85b, 1), (0x860, 0x887, 1),
  (0x889, 0x957, 1), (0x960, 0x963, 1), (0x966, 0x96f, 1), (0x971, 0x9d7, 1), (0x9e0, 0x9f1, 1),
  (0x9fc, 0x9fe, 2), (0xa01, 0xa32, 1), (0xa35, 0xa35, 1), (0xa38, 0xa51, 1), (0xa5c, 0xa5c, 1),
  (0xa66, 0xa75, 1), (0xa81, 0xaef, 1), (0xaf9, 0xb57, 1), (0xb5f, 0xb6f, 1), (0xb71, 0xb71, 1),
  (0xb82, 0xbef, 1), (0xc00, 0xc6f, 1), (0xc80, 0xc83, 1), (0xc85, 0xd4e, 1), (0xd54, 0xd57, 1),
  (0xd5f, 0xd6f, 1), (0xd7a, 0xdf3, 1), (0xe01, 0xe32, 1), (0xe34, 0xe3a, 1), (0xe40, 0xe4e, 1),
  (0xe50, 0xe59, 1), (0xe81, 0xeb2, 1), (0xeb4, 0xed9, 1), (0xede, 0xf00, 1), (0xf0b, 0xf0b, 1),
  (0xf18, 0xf19, 1), (0xf20, 0xf29, 1), (0xf35, 0xf39, 2), (0xf3e, 0xf42, 1), (0xf44, 0xf4c, 1),
  (0xf4e, 0xf51, 1), (0xf53, 0xf56, 1), (0xf58, 0xf5b, 1), (0xf5d, 0xf68, 1), (0xf6a, 0xf72, 1),
  (0xf74, 0xf74, 1), (0xf7a, 0xf80, 1), (0xf82, 0xf84, 1), (0xf86, 0xf92, 1), (0xf94, 0xf9c, 1),
  (0xf9e, 0xfa1, 1), (0xfa3, 0xfa6, 1), (0xfa8, 0xfab, 1), (0xfad, 0xfb8, 1), (0xfba, 0xfbc, 1),
  (0xfc6, 0xfc6, 1), (0x1000, 0x1049, 1), (0x1050, 0x109d, 1), (0x10d0, 0x10fa, 1),
  (0x10fd, 0x10ff, 1), (0x1200, 0x135f, 1), (0x1380, 0x138f, 1), (0x13a0, 0x13f5, 1),
  (0x1401, 0x166c, 1), (0x166f, 0x169a, 1), (0x16a0, 0x16ea, 1), (0x16f1, 0x1734, 1),
  (0x1740, 0x17b3, 1), (0x17b6, 0x17d3, 1), (0x17d7, 0x17d7, 1), (0x17dc, 0x17e9, 1),
  (0x1810, 0x193b, 1), (0x1946, 0x19d9, 1), (0x1a00, 0x1a1b, 1), (0x1a20, 0x1a99, 1),
  (0x1aa7, 0x1aa7, 1), (0x1ab0, 0x1abd, 1), (0x1abf, 0x1b59, 1), (0x1b6b, 0x1b73, 1),
  (0x1b80, 0x1bf3, 1), (0x1c00, 0x1c37, 1), (0x1c40, 0x1c7d, 1), (0x1cd0, 0x1cd2, 1),
  (0x1cd4, 0x1d2b, 1), (0x1d2f, 0x1d2f, 1), (0x1d3b, 0x1d3b, 1), (0x1d4e, 0x1d4e, 1),
  (0x1d6b, 0x1d77, 1), (0x1d79, 0x1d9a, 1), (0x1dc0, 0x1dff, 1), (0x1e01, 0x1e95, 2),
  (0x1e96, 0x1e99, 1), (0x1e9c, 0x1e9d, 1), (0x1e9f, 0x1eff, 2), (0x1f00, 0x1f07, 1),
  (0x1f10, 0x1f15, 1), (0x1f20, 0x1f27, 1), (0x1f30, 0x1f37, 1), (0x1f40, 0x1f45, 1),
  (0x1f50, 0x1f57, 1), (0x1f60, 0x1f67, 1), (0x1f70, 0x1f7c, 2), (0x1fb0, 0x1fb1, 1),
  (0x1fb6, 0x1fb6, 1), (0x1fc6, 0x1fc6, 1), (0x1fd0, 0x1fd2, 1), (0x1fd6, 0x1fd7, 1),
  (0x1fe0, 0x1fe2, 1), (0x1fe4, 0x1fe7, 1), (0x1ff6, 0x1ff6, 1), (0x214e, 0x214e, 1),
  (0x2184, 0x2184, 1), (0x2c30, 0x2c5f, 1), (0x2c61, 0x2c61, 1), (0x2c65, 0x2c66, 1),
  (0x2c68, 0x2c6c, 2), (0x2c71, 0x2c73, 2), (0x2c74, 0x2c76, 2), (0x2c77, 0x2c7b, 1),
  (0x2c81, 0x2ce3, 2), (0x2ce4, 0x2ce4, 1), (0x2cec, 0x2cee, 2), (0x2cef, 0x2cf1, 1),
  (0x2cf3, 0x2cf3, 1), (0x2d00, 0x2d67, 1), (0x2d7f, 0x2dff, 1), (0x2e2f, 0x2e2f, 1),
  (0x3005, 0x3007, 1), (0x302a, 0x302d, 1), (0x303c, 0x303c, 1), (0x3041, 0x309a, 1),
  (0x309d, 0x309e, 1), (0x30a1, 0x30fa, 1), (0x30fc, 0x30fe, 1), (0x3105, 0x312f, 1),
  (0x31a0, 0x31bf, 1), (0x31f0, 0x31ff, 1), (0x3400, 0x4dbf, 1), (0x4e00, 0xa48c, 1),
  (0xa4d0, 0xa4fd, 1), (0xa500, 0xa60c, 1), (0xa610, 0xa62b, 1), (0xa641, 0xa66d, 2),
  (0xa66e, 0xa66f, 1), (0xa674, 0xa67d, 1), (0xa67f, 0xa69b, 2), (0xa69e, 0xa6e5, 1),
  (0xa6f0, 0xa6f1, 1), (0xa717, 0xa71f, 1), (0xa723, 0xa72f, 2), (0xa730, 0xa731, 1),
  (0xa733, 0xa771, 2), (0xa772, 0xa778, 1), (0xa77a, 0xa77c, 2), (0xa77f, 0xa787, 2),
  (0xa788, 0xa788, 1), (0xa78c, 0xa78e, 2), (0xa78f, 0xa793, 2), (0xa794, 0xa795, 1),
  (0xa797, 0xa7a9, 2), (0xa7af, 0xa7af, 1), (0xa7b5, 0xa7c3, 2), (0xa7c8, 0xa7ca, 2),
  (0xa7d1, 0xa7d5, 1), (0xa7d7, 0xa7d9, 2), (0xa7f6, 0xa7f7, 1), (0xa7fa, 0xa827, 1),
  (0xa82c, 0xa82c, 1), (0xa840, 0xa873, 1), (0xa880, 0xa8c5, 1), (0xa8d0, 0xa8f7, 1),
  (0xa8fb, 0xa8fd, 2), (0xa8fe, 0xa92d, 1), (0xa930, 0xa953, 1), (0xa980, 0xa9c0, 1),
  (0xa9cf, 0xa9d9, 1), (0xa9e0, 0xaa59, 1), (0xaa60, 0xaa76, 1), (0xaa7a, 0xaadd, 1),
  (0xaae0, 0xaaef, 1), (0xaaf2, 0xab5a, 1), (0xab60, 0xab68, 1), (0xabc0, 0xabea, 1),
  (0xabec, 0xd7a3, 1), (0xfa0e, 0xfa0f, 1), (0xfa11, 0xfa13, 2), (0xfa14, 0xfa14, 1),
  (0xfa1f, 0xfa23, 2), (0xfa24, 0xfa24, 1), (0xfa27, 0xfa29, 1), (0xfb1e, 0xfb1e, 1),
  (0xfe20, 0xfe2f, 1), (0xfe73, 0xfe73, 1), (0x10000, 0x100fa, 1), (0x101fd, 0x102e0, 1),
  (0x10300, 0x1031f, 1), (0x1032d, 0x10340, 1), (0x10342, 0x10349, 1), (0x10350, 0x1039d, 1),
  (0x103a0, 0x103cf, 1), (0x10428, 0x104a9, 1), (0x104d8, 0x10563, 1), (0x10597, 0x10780, 1),
  (0x10800, 0x10855, 1), (0x10860, 0x10876, 1), (0x10880, 0x1089e, 1), (0x108e0, 0x108f5, 1),
  (0x10900, 0x10915, 1), (0x10920, 0x10939, 1), (0x10980, 0x109b7, 1), (0x109be, 0x109bf, 1),
  (0x10a00, 0x10a3f, 1), (0x10a60, 0x10a7c, 1), (0x10a80, 0x10a9c, 1), (0x10ac0, 0x10ac7, 1),
  (0x10ac9, 0x10ae6, 1), (0x10b00, 0x10b35, 1), (0x10b40, 0x10b55, 1), (0x10b60, 0x10b72, 1),
  (0x10b80, 0x10b91, 1), (0x10c00, 0x10c48, 1), (0x10cc0, 0x10cf2, 1), (0x10d00, 0x10d39, 1),
  (0x10e80, 0x10eac, 1), (0x10eb0, 0x10f1c, 1), (0x10f27, 0x10f50, 1), (0x10f70, 0x10f85, 1),
  (0x10fb0, 0x10fc4, 1), (0x10fe0, 0x11046, 1), (0x11066, 0x110ba, 1), (0x110c2, 0x1113f, 1),
  (0x11144, 0x11173, 1), (0x11176, 0x111c4, 1), (0x111c9, 0x111cc, 1), (0x111ce, 0x111da, 1),
  (0x111dc, 0x111dc, 1), (0x11200, 0x11237, 1), (0x1123e, 0x112a8, 1), (0x112b0, 0x1144a, 1),
  (0x11450, 0x11459, 1), (0x1145e, 0x114c5, 1), (0x114c7, 0x115c0, 1), (0x115d8, 0x11640, 1),
  (0x11644, 0x11659, 1), (0x11680, 0x116b8, 1), (0x116c0, 0x11739, 1), (0x11740, 0x1183a, 1),
  (0x118c0, 0x118e9, 1), (0x118ff, 0x11943, 1), (0x11950, 0x119e1, 1), (0x119e3, 0x11a3e, 1),
  (0x11a47, 0x11a99, 1), (0x11a9d, 0x11a9d, 1), (0x11ab0, 0x11c40, 1), (0x11c50, 0x11c59, 1),
  (0x11c72, 0x11ef6, 1), (0x11fb0, 0x11fb0, 1), (0x12000, 0x12399, 1), (0x12480, 0x12ff0, 1),
  (0x13000, 0x16a69, 1), (0x16a70, 0x16af4, 1), (0x16b00, 0x16b36, 1), (0x16b40, 0x16b43, 1),
  (0x16b50, 0x16b59, 1), (0x16b63, 0x16b8f, 1), (0x16e60, 0x16e7f, 1), (0x16f00, 0x16fe1, 1),
  (0x16fe3, 0x1bc99, 1), (0x1bc9d, 0x1bc9e, 1), (0x1cf00, 0x1cf46, 1), (0x1da00, 0x1da36, 1),
  (0x1da3b, 0x1da6c, 1), (0x1da75, 0x1da75, 1), (0x1da84, 0x1da84, 1), (0x1da9b, 0x1e14e, 1),
  (0x1e290, 0x1e2f9, 1), (0x1e7e0, 0x1e8c4, 1), (0x1e8d0, 0x1e8d6, 1), (0x1e922, 0x1e959, 1),
  (0x20000, 0x2ebe0, 1), (0x30000, 0x3134a, 1)]

end ConversionRelay.Address
