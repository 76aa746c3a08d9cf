/-! The plain letter that the matcher reads for an accented or otherwise modified one. From 0x1d00
on the pairing follows the order of the two lists it was made from and not the shapes. -/

namespace DocPages.Table

def plain : List (Nat × Char) :=
  [(0xc0, 'A'), (0xc1, 'A'), (0xc2, 'A'), (0xc3, 'A'), (0xc4, 'A'), (0xc5, 'A'), (0xc7, 'C'),
   (0xc8, 'E'), (0xc9, 'E'), (0xca, 'E'), (0xcb, 'E'), (0xcc, 'I'), (0xcd, 'I'), (0xce, 'I'),
   (0xcf, 'I'), (0xd1, 'N'), (0xd2, 'O'), (0xd3, 'O'), (0xd4, 'O'), (0xd5, 'O'), (0xd6, 'O'),
   (0xd8, 'O'), (0xd9, 'U'), (0xda, 'U'), (0xdb, 'U'), (0xdc, 'U'), (0xdd, 'Y'), (0xdf, 's'),
   (0xe0, 'a'), (0xe1, 'a'), (0xe2, 'a'), (0xe3, 'a'), (0xe4, 'a'), (0xe5, 'a'), (0xe7, 'c'),
   (0xe8, 'e'), (0xe9, 'e'), (0xea, 'e'), (0xeb, 'e'), (0xec, 'i'), (0xed, 'i'), (0xee, 'i'),
   (0xef, 'i'), (0xf1, 'n'), (0xf2, 'o'), (0xf3, 'o'), (0xf4, 'o'), (0xf5, 'o'), (0xf6, 'o'),
   (0xf8, 'o'), (0xf9, 'u'), (0xfa, 'u'), (0xfb, 'u'), (0xfc, 'u'), (0xfd, 'y'), (0xff, 'y'),
   (0x101, 'a'), (0x103, 'a'), (0x105, 'a'), (0x107, 'c'), (0x109, 'c'), (0x10b, 'c'),
   (0x10d, 'c'), (0x10f, 'd'), (0x111, 'd'), (0x113, 'e'), (0x115, 'e'), (0x117, 'e'),
   (0x119, 'e'), (0x11b, 'e'), (0x11d, 'g'), (0x11f, 'g'), (0x121, 'g'), (0x123, 'g'),
   (0x125, 'h'), (0x127, 'h'), (0x129, 'i'), (0x12b, 'i'), (0x12d, 'i'), (0x12f, 'i'),
   (0x130, 'I'), (0x131, 'i'), (0x135, 'j'), (0x137, 'k'), (0x13a, 'l'), (0x13c, 'l'),
   (0x13e, 'l'), (0x140, 'l'), (0x142, 'l'), (0x144, 'n'), (0x146, 'n'), (0x148, 'n'),
   (0x14d, 'o'), (0x14f, 'o'), (0x151, 'o'), (0x155, 'r'), (0x157, 'r'), (0x159, 'r'),
   (0x15b, 's'), (0x15d, 's'), (0x15f, 's'), (0x161, 's'), (0x163, 't'), (0x165, 't'),
   (0x167, 't'), (0x169, 'u'), (0x16b, 'u'), (0x16d, 'u'), (0x16f, 'u'), (0x171, 'u'),
   (0x173, 'u'), (0x175, 'w'), (0x177, 'y'), (0x178, 'Y'), (0x17a, 'z'), (0x17c, 'z'),
   (0x17e, 'z'), (0x17f, 's'), (0x180, 'b'), (0x181, 'B'), (0x183, 'b'), (0x186, 'O'),
   (0x188, 'c'), (0x189, 'D'), (0x18a, 'D'), (0x18c, 'd'), (0x18e, 'E'), (0x190, 'E'),
   (0x192, 'f'), (0x193, 'G'), (0x197, 'I'), (0x199, 'k'), (0x19a, 'l'), (0x19c, 'M'),
   (0x19d, 'N'), (0x19e, 'n'), (0x19f, 'O'), (0x1a1, 'o'), (0x1a5, 'p'), (0x1ab, 't'),
   (0x1ad, 't'), (0x1ae, 'T'), (0x1b0, 'u'), (0x1b2, 'V'), (0x1b4, 'y'), (0x1b6, 'z'),
   (0x1ce, 'a'), (0x1d0, 'i'), (0x1d2, 'o'), (0x1d4, 'u'), (0x1dd, 'e'), (0x1e5, 'g'),
   (0x1e7, 'g'), (0x1e9, 'k'), (0x1eb, 'o'), (0x1f0, 'j'), (0x1f5, 'g'), (0x1f9, 'n'),
   (0x201, 'a'), (0x203, 'a'), (0x205, 'e'), (0x207, 'e'), (0x209, 'i'), (0x20b, 'i'),
   (0x20d, 'o'), (0x20f, 'o'), (0x211, 'r'), (0x213, 'r'), (0x215, 'u'), (0x217, 'u'),
   (0x219, 's'), (0x21b, 't'), (0x21f, 'h'), (0x220, 'N'), (0x221, 'd'), (0x225, 'z'),
   (0x227, 'a'), (0x229, 'e'), (0x22f, 'o'), (0x233, 'y'), (0x234, 'l'), (0x235, 'n'),
   (0x236, 't'), (0x237, 'j'), (0x23a, 'A'), (0x23b, 'C'), (0x23c, 'c'), (0x23d, 'L'),
   (0x23e, 'T'), (0x23f, 's'), (0x240, 'z'), (0x243, 'B'), (0x244, 'U'), (0x245, 'V'),
   (0x246, 'E'), (0x247, 'e'), (0x248, 'J'), (0x249, 'j'), (0x24a, 'Q'), (0x24b, 'q'),
   (0x24c, 'R'), (0x24d, 'r'), (0x24e, 'Y'), (0x24f, 'y'), (0x250, 'a'), (0x251, 'a'),
   (0x253, 'b'), (0x254, 'o'), (0x255, 'c'), (0x256, 'd'), (0x257, 'd'), (0x258, 'e'),
   (0x25b, 'e'), (0x25c, 'e'), (0x25d, 'e'), (0x25e, 'e'), (0x25f, 'j'), (0x260, 'g'),
   (0x261, 'g'), (0x262, 'G'), (0x265, 'h'), (0x266, 'h'), (0x268, 'i'), (0x26a, 'I'),
   (0x26b, 'l'), (0x26c, 'l'), (0x26d, 'l'), (0x26f, 'm'), (0x270, 'm'), (0x271, 'm'),
   (0x272, 'n'), (0x273, 'n'), (0x274, 'N'), (0x275, 'o'), (0x279, 'r'), (0x27a, 'r'),
   (0x27b, 'r'), (0x27c, 'r'), (0x27d, 'r'), (0x27e, 'r'), (0x27f, 'r'), (0x280, 'R'),
   (0x281, 'R'), (0x282, 's'), (0x287, 't'), (0x288, 't'), (0x289, 'u'), (0x28b, 'v'),
   (0x28c, 'v'), (0x28d, 'w'), (0x28e, 'y'), (0x28f, 'Y'), (0x290, 'z'), (0x291, 'z'),
   (0x297, 'c'), (0x299, 'B'), (0x29a, 'e'), (0x29b, 'G'), (0x29c, 'H'), (0x29d, 'j'),
   (0x29e, 'k'), (0x29f, 'L'), (0x2a0, 'q'), (0x2ae, 'h'), (0x363, 'a'), (0x364, 'e'),
   (0x365, 'i'), (0x366, 'o'), (0x367, 'u'), (0x368, 'c'), (0x369, 'd'), (0x36a, 'h'),
   (0x36b, 'm'), (0x36c, 'r'), (0x36d, 't'), (0x36e, 'v'), (0x36f, 'x'), (0x1d00, 'A'),
   (0x1d03, 'A'), (0x1d04, 'A'), (0x1d05, 'A'), (0x1d07, 'A'), (0x1d08, 'A'), (0x1d09, 'C'),
   (0x1d0a, 'E'), (0x1d0b, 'E'), (0x1d0c, 'E'), (0x1d0d, 'E'), (0x1d0e, 'I'), (0x1d0f, 'I'),
   (0x1d10, 'I'), (0x1d11, 'I'), (0x1d12, 'N'), (0x1d13, 'O'), (0x1d16, 'O'), (0x1d17, 'O'),
   (0x1d18, 'O'), (0x1d19, 'O'), (0x1d1a, 'O'), (0x1d1b, 'U'), (0x1d1c, 'U'), (0x1d1d, 'U'),
   (0x1d1e, 'U'), (0x1d1f, 'Y'), (0x1d20, 's'), (0x1d21, 'a'), (0x1d22, 'a'), (0x1d62, 'a'),
   (0x1d63, 'a'), (0x1d64, 'a'), (0x1d65, 'a'), (0x1e01, 'c'), (0x1e03, 'e'), (0x1e05, 'e'),
   (0x1e07, 'e'), (0x1e0b, 'e'), (0x1e0d, 'i'), (0x1e0f, 'i'), (0x1e11, 'i'), (0x1e13, 'i'),
   (0x1e19, 'n'), (0x1e1b, 'o'), (0x1e1f, 'o'), (0x1e21, 'o'), (0x1e23, 'o'), (0x1e25, 'o'),
   (0x1e27, 'o'), (0x1e29, 'u'), (0x1e2b, 'u'), (0x1e2d, 'u'), (0x1e31, 'u'), (0x1e33, 'y'),
   (0x1e35, 'y'), (0x1e37, 'a'), (0x1e3d, 'a'), (0x1e3f, 'a'), (0x1e41, 'c'), (0x1e43, 'c'),
   (0x1e45, 'c'), (0x1e47, 'c'), (0x1e49, 'd'), (0x1e4b, 'd'), (0x1e55, 'e'), (0x1e57, 'e'),
   (0x1e5b, 'e'), (0x1e5f, 'e'), (0x1e61, 'e'), (0x1e63, 'g'), (0x1e6b, 'g'), (0x1e6d, 'g'),
   (0x1e6f, 'g'), (0x1e71, 'h'), (0x1e73, 'h'), (0x1e75, 'i'), (0x1e7d, 'i'), (0x1e7f, 'i'),
   (0x1e81, 'i'), (0x1e83, 'I'), (0x1e85, 'i'), (0x1e89, 'j'), (0x1e8b, 'k'), (0x1e8d, 'l'),
   (0x1e8f, 'l'), (0x1e91, 'l'), (0x1e95, 'l'), (0x1e96, 'l'), (0x1e97, 'n'), (0x1e98, 'n'),
   (0x1e99, 'n'), (0x1e9a, 'o'), (0x1e9b, 'o'), (0x1ea1, 'o'), (0x1ea3, 'r'), (0x1eb9, 'r'),
   (0x1ebd, 'r'), (0x1ec9, 's'), (0x1ecb, 's'), (0x1ecd, 's'), (0x1ecf, 's'), (0x1ee5, 't'),
   (0x1ee7, 't'), (0x2071, 'A'), (0x2095, 'A'), (0x2096, 'A'), (0x2097, 'A'), (0x2098, 'A'),
   (0x209a, 'A'), (0x209b, 'C'), (0x209c, 'E'), (0x2184, 'E')]

end DocPages.Table
