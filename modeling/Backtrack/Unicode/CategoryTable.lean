import Backtrack.Unicode.GeneralCategory

/-!
# The general category of each code point

The assigned code points of Unicode 17 as ranges of one category each, in order. A page holds 4096
code points, numbered from zero; the last table holds every page from number 32 on. What Unicode 18
assigns besides is a table of its own.
-/

namespace Backtrack

namespace GeneralCategory

/-- Ranges of code points, each with first, last and category. -/
abbrev Table : Type := List (Nat × Nat × GeneralCategory)

namespace Table

set_option maxRecDepth 4000

def page00 : Table := [
  (0x0, 0x1F, control), (0x20, 0x20, spaceSeparator), (0x21, 0x23, otherPunctuation),
  (0x24, 0x24, currencySymbol), (0x25, 0x27, otherPunctuation), (0x28, 0x28, openPunctuation),
  (0x29, 0x29, closePunctuation), (0x2A, 0x2A, otherPunctuation), (0x2B, 0x2B, mathSymbol),
  (0x2C, 0x2C, otherPunctuation), (0x2D, 0x2D, dashPunctuation), (0x2E, 0x2F, otherPunctuation),
  (0x30, 0x39, decimalNumber), (0x3A, 0x3B, otherPunctuation), (0x3C, 0x3E, mathSymbol),
  (0x3F, 0x40, otherPunctuation), (0x41, 0x5A, uppercaseLetter), (0x5B, 0x5B, openPunctuation),
  (0x5C, 0x5C, otherPunctuation), (0x5D, 0x5D, closePunctuation), (0x5E, 0x5E, modifierSymbol),
  (0x5F, 0x5F, connectorPunctuation), (0x60, 0x60, modifierSymbol), (0x61, 0x7A, lowercaseLetter),
  (0x7B, 0x7B, openPunctuation), (0x7C, 0x7C, mathSymbol), (0x7D, 0x7D, closePunctuation),
  (0x7E, 0x7E, mathSymbol), (0x7F, 0x9F, control), (0xA0, 0xA0, spaceSeparator),
  (0xA1, 0xA1, otherPunctuation), (0xA2, 0xA5, currencySymbol), (0xA6, 0xA6, otherSymbol),
  (0xA7, 0xA7, otherPunctuation), (0xA8, 0xA8, modifierSymbol), (0xA9, 0xA9, otherSymbol),
  (0xAA, 0xAA, otherLetter), (0xAB, 0xAB, initialPunctuation), (0xAC, 0xAC, mathSymbol),
  (0xAD, 0xAD, format), (0xAE, 0xAE, otherSymbol), (0xAF, 0xAF, modifierSymbol),
  (0xB0, 0xB0, otherSymbol), (0xB1, 0xB1, mathSymbol), (0xB2, 0xB3, otherNumber),
  (0xB4, 0xB4, modifierSymbol), (0xB5, 0xB5, lowercaseLetter), (0xB6, 0xB7, otherPunctuation),
  (0xB8, 0xB8, modifierSymbol), (0xB9, 0xB9, otherNumber), (0xBA, 0xBA, otherLetter),
  (0xBB, 0xBB, finalPunctuation), (0xBC, 0xBE, otherNumber), (0xBF, 0xBF, otherPunctuation),
  (0xC0, 0xD6, uppercaseLetter), (0xD7, 0xD7, mathSymbol), (0xD8, 0xDE, uppercaseLetter),
  (0xDF, 0xF6, lowercaseLetter), (0xF7, 0xF7, mathSymbol), (0xF8, 0xFF, lowercaseLetter),
  (0x100, 0x100, uppercaseLetter), (0x101, 0x101, lowercaseLetter),
  (0x102, 0x102, uppercaseLetter), (0x103, 0x103, lowercaseLetter),
  (0x104, 0x104, uppercaseLetter), (0x105, 0x105, lowercaseLetter),
  (0x106, 0x106, uppercaseLetter), (0x107, 0x107, lowercaseLetter),
  (0x108, 0x108, uppercaseLetter), (0x109, 0x109, lowercaseLetter),
  (0x10A, 0x10A, uppercaseLetter), (0x10B, 0x10B, lowercaseLetter),
  (0x10C, 0x10C, uppercaseLetter), (0x10D, 0x10D, lowercaseLetter),
  (0x10E, 0x10E, uppercaseLetter), (0x10F, 0x10F, lowercaseLetter),
  (0x110, 0x110, uppercaseLetter), (0x111, 0x111, lowercaseLetter),
  (0x112, 0x112, uppercaseLetter), (0x113, 0x113, lowercaseLetter),
  (0x114, 0x114, uppercaseLetter), (0x115, 0x115, lowercaseLetter),
  (0x116, 0x116, uppercaseLetter), (0x117, 0x117, lowercaseLetter),
  (0x118, 0x118, uppercaseLetter), (0x119, 0x119, lowercaseLetter),
  (0x11A, 0x11A, uppercaseLetter), (0x11B, 0x11B, lowercaseLetter),
  (0x11C, 0x11C, uppercaseLetter), (0x11D, 0x11D, lowercaseLetter),
  (0x11E, 0x11E, uppercaseLetter), (0x11F, 0x11F, lowercaseLetter),
  (0x120, 0x120, uppercaseLetter), (0x121, 0x121, lowercaseLetter),
  (0x122, 0x122, uppercaseLetter), (0x123, 0x123, lowercaseLetter),
  (0x124, 0x124, uppercaseLetter), (0x125, 0x125, lowercaseLetter),
  (0x126, 0x126, uppercaseLetter), (0x127, 0x127, lowercaseLetter),
  (0x128, 0x128, uppercaseLetter), (0x129, 0x129, lowercaseLetter),
  (0x12A, 0x12A, uppercaseLetter), (0x12B, 0x12B, lowercaseLetter),
  (0x12C, 0x12C, uppercaseLetter), (0x12D, 0x12D, lowercaseLetter),
  (0x12E, 0x12E, uppercaseLetter), (0x12F, 0x12F, lowercaseLetter),
  (0x130, 0x130, uppercaseLetter), (0x131, 0x131, lowercaseLetter),
  (0x132, 0x132, uppercaseLetter), (0x133, 0x133, lowercaseLetter),
  (0x134, 0x134, uppercaseLetter), (0x135, 0x135, lowercaseLetter),
  (0x136, 0x136, uppercaseLetter), (0x137, 0x138, lowercaseLetter),
  (0x139, 0x139, uppercaseLetter), (0x13A, 0x13A, lowercaseLetter),
  (0x13B, 0x13B, uppercaseLetter), (0x13C, 0x13C, lowercaseLetter),
  (0x13D, 0x13D, uppercaseLetter), (0x13E, 0x13E, lowercaseLetter),
  (0x13F, 0x13F, uppercaseLetter), (0x140, 0x140, lowercaseLetter),
  (0x141, 0x141, uppercaseLetter), (0x142, 0x142, lowercaseLetter),
  (0x143, 0x143, uppercaseLetter), (0x144, 0x144, lowercaseLetter),
  (0x145, 0x145, uppercaseLetter), (0x146, 0x146, lowercaseLetter),
  (0x147, 0x147, uppercaseLetter), (0x148, 0x149, lowercaseLetter),
  (0x14A, 0x14A, uppercaseLetter), (0x14B, 0x14B, lowercaseLetter),
  (0x14C, 0x14C, uppercaseLetter), (0x14D, 0x14D, lowercaseLetter),
  (0x14E, 0x14E, uppercaseLetter), (0x14F, 0x14F, lowercaseLetter),
  (0x150, 0x150, uppercaseLetter), (0x151, 0x151, lowercaseLetter),
  (0x152, 0x152, uppercaseLetter), (0x153, 0x153, lowercaseLetter),
  (0x154, 0x154, uppercaseLetter), (0x155, 0x155, lowercaseLetter),
  (0x156, 0x156, uppercaseLetter), (0x157, 0x157, lowercaseLetter),
  (0x158, 0x158, uppercaseLetter), (0x159, 0x159, lowercaseLetter),
  (0x15A, 0x15A, uppercaseLetter), (0x15B, 0x15B, lowercaseLetter),
  (0x15C, 0x15C, uppercaseLetter), (0x15D, 0x15D, lowercaseLetter),
  (0x15E, 0x15E, uppercaseLetter), (0x15F, 0x15F, lowercaseLetter),
  (0x160, 0x160, uppercaseLetter), (0x161, 0x161, lowercaseLetter),
  (0x162, 0x162, uppercaseLetter), (0x163, 0x163, lowercaseLetter),
  (0x164, 0x164, uppercaseLetter), (0x165, 0x165, lowercaseLetter),
  (0x166, 0x166, uppercaseLetter), (0x167, 0x167, lowercaseLetter),
  (0x168, 0x168, uppercaseLetter), (0x169, 0x169, lowercaseLetter),
  (0x16A, 0x16A, uppercaseLetter), (0x16B, 0x16B, lowercaseLetter),
  (0x16C, 0x16C, uppercaseLetter), (0x16D, 0x16D, lowercaseLetter),
  (0x16E, 0x16E, uppercaseLetter), (0x16F, 0x16F, lowercaseLetter),
  (0x170, 0x170, uppercaseLetter), (0x171, 0x171, lowercaseLetter),
  (0x172, 0x172, uppercaseLetter), (0x173, 0x173, lowercaseLetter),
  (0x174, 0x174, uppercaseLetter), (0x175, 0x175, lowercaseLetter),
  (0x176, 0x176, uppercaseLetter), (0x177, 0x177, lowercaseLetter),
  (0x178, 0x179, uppercaseLetter), (0x17A, 0x17A, lowercaseLetter),
  (0x17B, 0x17B, uppercaseLetter), (0x17C, 0x17C, lowercaseLetter),
  (0x17D, 0x17D, uppercaseLetter), (0x17E, 0x180, lowercaseLetter),
  (0x181, 0x182, uppercaseLetter), (0x183, 0x183, lowercaseLetter),
  (0x184, 0x184, uppercaseLetter), (0x185, 0x185, lowercaseLetter),
  (0x186, 0x187, uppercaseLetter), (0x188, 0x188, lowercaseLetter),
  (0x189, 0x18B, uppercaseLetter), (0x18C, 0x18D, lowercaseLetter),
  (0x18E, 0x191, uppercaseLetter), (0x192, 0x192, lowercaseLetter),
  (0x193, 0x194, uppercaseLetter), (0x195, 0x195, lowercaseLetter),
  (0x196, 0x198, uppercaseLetter), (0x199, 0x19B, lowercaseLetter),
  (0x19C, 0x19D, uppercaseLetter), (0x19E, 0x19E, lowercaseLetter),
  (0x19F, 0x1A0, uppercaseLetter), (0x1A1, 0x1A1, lowercaseLetter),
  (0x1A2, 0x1A2, uppercaseLetter), (0x1A3, 0x1A3, lowercaseLetter),
  (0x1A4, 0x1A4, uppercaseLetter), (0x1A5, 0x1A5, lowercaseLetter),
  (0x1A6, 0x1A7, uppercaseLetter), (0x1A8, 0x1A8, lowercaseLetter),
  (0x1A9, 0x1A9, uppercaseLetter), (0x1AA, 0x1AB, lowercaseLetter),
  (0x1AC, 0x1AC, uppercaseLetter), (0x1AD, 0x1AD, lowercaseLetter),
  (0x1AE, 0x1AF, uppercaseLetter), (0x1B0, 0x1B0, lowercaseLetter),
  (0x1B1, 0x1B3, uppercaseLetter), (0x1B4, 0x1B4, lowercaseLetter),
  (0x1B5, 0x1B5, uppercaseLetter), (0x1B6, 0x1B6, lowercaseLetter),
  (0x1B7, 0x1B8, uppercaseLetter), (0x1B9, 0x1BA, lowercaseLetter), (0x1BB, 0x1BB, otherLetter),
  (0x1BC, 0x1BC, uppercaseLetter), (0x1BD, 0x1BF, lowercaseLetter), (0x1C0, 0x1C3, otherLetter),
  (0x1C4, 0x1C4, uppercaseLetter), (0x1C5, 0x1C5, titlecaseLetter),
  (0x1C6, 0x1C6, lowercaseLetter), (0x1C7, 0x1C7, uppercaseLetter),
  (0x1C8, 0x1C8, titlecaseLetter), (0x1C9, 0x1C9, lowercaseLetter),
  (0x1CA, 0x1CA, uppercaseLetter), (0x1CB, 0x1CB, titlecaseLetter),
  (0x1CC, 0x1CC, lowercaseLetter), (0x1CD, 0x1CD, uppercaseLetter),
  (0x1CE, 0x1CE, lowercaseLetter), (0x1CF, 0x1CF, uppercaseLetter),
  (0x1D0, 0x1D0, lowercaseLetter), (0x1D1, 0x1D1, uppercaseLetter),
  (0x1D2, 0x1D2, lowercaseLetter), (0x1D3, 0x1D3, uppercaseLetter),
  (0x1D4, 0x1D4, lowercaseLetter), (0x1D5, 0x1D5, uppercaseLetter),
  (0x1D6, 0x1D6, lowercaseLetter), (0x1D7, 0x1D7, uppercaseLetter),
  (0x1D8, 0x1D8, lowercaseLetter), (0x1D9, 0x1D9, uppercaseLetter),
  (0x1DA, 0x1DA, lowercaseLetter), (0x1DB, 0x1DB, uppercaseLetter),
  (0x1DC, 0x1DD, lowercaseLetter), (0x1DE, 0x1DE, uppercaseLetter),
  (0x1DF, 0x1DF, lowercaseLetter), (0x1E0, 0x1E0, uppercaseLetter),
  (0x1E1, 0x1E1, lowercaseLetter), (0x1E2, 0x1E2, uppercaseLetter),
  (0x1E3, 0x1E3, lowercaseLetter), (0x1E4, 0x1E4, uppercaseLetter),
  (0x1E5, 0x1E5, lowercaseLetter), (0x1E6, 0x1E6, uppercaseLetter),
  (0x1E7, 0x1E7, lowercaseLetter), (0x1E8, 0x1E8, uppercaseLetter),
  (0x1E9, 0x1E9, lowercaseLetter), (0x1EA, 0x1EA, uppercaseLetter),
  (0x1EB, 0x1EB, lowercaseLetter), (0x1EC, 0x1EC, uppercaseLetter),
  (0x1ED, 0x1ED, lowercaseLetter), (0x1EE, 0x1EE, uppercaseLetter),
  (0x1EF, 0x1F0, lowercaseLetter), (0x1F1, 0x1F1, uppercaseLetter),
  (0x1F2, 0x1F2, titlecaseLetter), (0x1F3, 0x1F3, lowercaseLetter),
  (0x1F4, 0x1F4, uppercaseLetter), (0x1F5, 0x1F5, lowercaseLetter),
  (0x1F6, 0x1F8, uppercaseLetter), (0x1F9, 0x1F9, lowercaseLetter),
  (0x1FA, 0x1FA, uppercaseLetter), (0x1FB, 0x1FB, lowercaseLetter),
  (0x1FC, 0x1FC, uppercaseLetter), (0x1FD, 0x1FD, lowercaseLetter),
  (0x1FE, 0x1FE, uppercaseLetter), (0x1FF, 0x1FF, lowercaseLetter),
  (0x200, 0x200, uppercaseLetter), (0x201, 0x201, lowercaseLetter),
  (0x202, 0x202, uppercaseLetter), (0x203, 0x203, lowercaseLetter),
  (0x204, 0x204, uppercaseLetter), (0x205, 0x205, lowercaseLetter),
  (0x206, 0x206, uppercaseLetter), (0x207, 0x207, lowercaseLetter),
  (0x208, 0x208, uppercaseLetter), (0x209, 0x209, lowercaseLetter),
  (0x20A, 0x20A, uppercaseLetter), (0x20B, 0x20B, lowercaseLetter),
  (0x20C, 0x20C, uppercaseLetter), (0x20D, 0x20D, lowercaseLetter),
  (0x20E, 0x20E, uppercaseLetter), (0x20F, 0x20F, lowercaseLetter),
  (0x210, 0x210, uppercaseLetter), (0x211, 0x211, lowercaseLetter),
  (0x212, 0x212, uppercaseLetter), (0x213, 0x213, lowercaseLetter),
  (0x214, 0x214, uppercaseLetter), (0x215, 0x215, lowercaseLetter),
  (0x216, 0x216, uppercaseLetter), (0x217, 0x217, lowercaseLetter),
  (0x218, 0x218, uppercaseLetter), (0x219, 0x219, lowercaseLetter),
  (0x21A, 0x21A, uppercaseLetter), (0x21B, 0x21B, lowercaseLetter),
  (0x21C, 0x21C, uppercaseLetter), (0x21D, 0x21D, lowercaseLetter),
  (0x21E, 0x21E, uppercaseLetter), (0x21F, 0x21F, lowercaseLetter),
  (0x220, 0x220, uppercaseLetter), (0x221, 0x221, lowercaseLetter),
  (0x222, 0x222, uppercaseLetter), (0x223, 0x223, lowercaseLetter),
  (0x224, 0x224, uppercaseLetter), (0x225, 0x225, lowercaseLetter),
  (0x226, 0x226, uppercaseLetter), (0x227, 0x227, lowercaseLetter),
  (0x228, 0x228, uppercaseLetter), (0x229, 0x229, lowercaseLetter),
  (0x22A, 0x22A, uppercaseLetter), (0x22B, 0x22B, lowercaseLetter),
  (0x22C, 0x22C, uppercaseLetter), (0x22D, 0x22D, lowercaseLetter),
  (0x22E, 0x22E, uppercaseLetter), (0x22F, 0x22F, lowercaseLetter),
  (0x230, 0x230, uppercaseLetter), (0x231, 0x231, lowercaseLetter),
  (0x232, 0x232, uppercaseLetter), (0x233, 0x239, lowercaseLetter),
  (0x23A, 0x23B, uppercaseLetter), (0x23C, 0x23C, lowercaseLetter),
  (0x23D, 0x23E, uppercaseLetter), (0x23F, 0x240, lowercaseLetter),
  (0x241, 0x241, uppercaseLetter), (0x242, 0x242, lowercaseLetter),
  (0x243, 0x246, uppercaseLetter), (0x247, 0x247, lowercaseLetter),
  (0x248, 0x248, uppercaseLetter), (0x249, 0x249, lowercaseLetter),
  (0x24A, 0x24A, uppercaseLetter), (0x24B, 0x24B, lowercaseLetter),
  (0x24C, 0x24C, uppercaseLetter), (0x24D, 0x24D, lowercaseLetter),
  (0x24E, 0x24E, uppercaseLetter), (0x24F, 0x293, lowercaseLetter), (0x294, 0x295, otherLetter),
  (0x296, 0x2AF, lowercaseLetter), (0x2B0, 0x2C1, modifierLetter), (0x2C2, 0x2C5, modifierSymbol),
  (0x2C6, 0x2D1, modifierLetter), (0x2D2, 0x2DF, modifierSymbol), (0x2E0, 0x2E4, modifierLetter),
  (0x2E5, 0x2EB, modifierSymbol), (0x2EC, 0x2EC, modifierLetter), (0x2ED, 0x2ED, modifierSymbol),
  (0x2EE, 0x2EE, modifierLetter), (0x2EF, 0x2FF, modifierSymbol), (0x300, 0x36F, nonspacingMark),
  (0x370, 0x370, uppercaseLetter), (0x371, 0x371, lowercaseLetter),
  (0x372, 0x372, uppercaseLetter), (0x373, 0x373, lowercaseLetter),
  (0x374, 0x374, modifierLetter), (0x375, 0x375, modifierSymbol), (0x376, 0x376, uppercaseLetter),
  (0x377, 0x377, lowercaseLetter), (0x37A, 0x37A, modifierLetter),
  (0x37B, 0x37D, lowercaseLetter), (0x37E, 0x37E, otherPunctuation),
  (0x37F, 0x37F, uppercaseLetter), (0x384, 0x385, modifierSymbol),
  (0x386, 0x386, uppercaseLetter), (0x387, 0x387, otherPunctuation),
  (0x388, 0x38A, uppercaseLetter), (0x38C, 0x38C, uppercaseLetter),
  (0x38E, 0x38F, uppercaseLetter), (0x390, 0x390, lowercaseLetter),
  (0x391, 0x3A1, uppercaseLetter), (0x3A3, 0x3AB, uppercaseLetter),
  (0x3AC, 0x3CE, lowercaseLetter), (0x3CF, 0x3CF, uppercaseLetter),
  (0x3D0, 0x3D1, lowercaseLetter), (0x3D2, 0x3D4, uppercaseLetter),
  (0x3D5, 0x3D7, lowercaseLetter), (0x3D8, 0x3D8, uppercaseLetter),
  (0x3D9, 0x3D9, lowercaseLetter), (0x3DA, 0x3DA, uppercaseLetter),
  (0x3DB, 0x3DB, lowercaseLetter), (0x3DC, 0x3DC, uppercaseLetter),
  (0x3DD, 0x3DD, lowercaseLetter), (0x3DE, 0x3DE, uppercaseLetter),
  (0x3DF, 0x3DF, lowercaseLetter), (0x3E0, 0x3E0, uppercaseLetter),
  (0x3E1, 0x3E1, lowercaseLetter), (0x3E2, 0x3E2, uppercaseLetter),
  (0x3E3, 0x3E3, lowercaseLetter), (0x3E4, 0x3E4, uppercaseLetter),
  (0x3E5, 0x3E5, lowercaseLetter), (0x3E6, 0x3E6, uppercaseLetter),
  (0x3E7, 0x3E7, lowercaseLetter), (0x3E8, 0x3E8, uppercaseLetter),
  (0x3E9, 0x3E9, lowercaseLetter), (0x3EA, 0x3EA, uppercaseLetter),
  (0x3EB, 0x3EB, lowercaseLetter), (0x3EC, 0x3EC, uppercaseLetter),
  (0x3ED, 0x3ED, lowercaseLetter), (0x3EE, 0x3EE, uppercaseLetter),
  (0x3EF, 0x3F3, lowercaseLetter), (0x3F4, 0x3F4, uppercaseLetter),
  (0x3F5, 0x3F5, lowercaseLetter), (0x3F6, 0x3F6, mathSymbol), (0x3F7, 0x3F7, uppercaseLetter),
  (0x3F8, 0x3F8, lowercaseLetter), (0x3F9, 0x3FA, uppercaseLetter),
  (0x3FB, 0x3FC, lowercaseLetter), (0x3FD, 0x42F, uppercaseLetter),
  (0x430, 0x45F, lowercaseLetter), (0x460, 0x460, uppercaseLetter),
  (0x461, 0x461, lowercaseLetter), (0x462, 0x462, uppercaseLetter),
  (0x463, 0x463, lowercaseLetter), (0x464, 0x464, uppercaseLetter),
  (0x465, 0x465, lowercaseLetter), (0x466, 0x466, uppercaseLetter),
  (0x467, 0x467, lowercaseLetter), (0x468, 0x468, uppercaseLetter),
  (0x469, 0x469, lowercaseLetter), (0x46A, 0x46A, uppercaseLetter),
  (0x46B, 0x46B, lowercaseLetter), (0x46C, 0x46C, uppercaseLetter),
  (0x46D, 0x46D, lowercaseLetter), (0x46E, 0x46E, uppercaseLetter),
  (0x46F, 0x46F, lowercaseLetter), (0x470, 0x470, uppercaseLetter),
  (0x471, 0x471, lowercaseLetter), (0x472, 0x472, uppercaseLetter),
  (0x473, 0x473, lowercaseLetter), (0x474, 0x474, uppercaseLetter),
  (0x475, 0x475, lowercaseLetter), (0x476, 0x476, uppercaseLetter),
  (0x477, 0x477, lowercaseLetter), (0x478, 0x478, uppercaseLetter),
  (0x479, 0x479, lowercaseLetter), (0x47A, 0x47A, uppercaseLetter),
  (0x47B, 0x47B, lowercaseLetter), (0x47C, 0x47C, uppercaseLetter),
  (0x47D, 0x47D, lowercaseLetter), (0x47E, 0x47E, uppercaseLetter),
  (0x47F, 0x47F, lowercaseLetter), (0x480, 0x480, uppercaseLetter),
  (0x481, 0x481, lowercaseLetter), (0x482, 0x482, otherSymbol), (0x483, 0x487, nonspacingMark),
  (0x488, 0x489, enclosingMark), (0x48A, 0x48A, uppercaseLetter), (0x48B, 0x48B, lowercaseLetter),
  (0x48C, 0x48C, uppercaseLetter), (0x48D, 0x48D, lowercaseLetter),
  (0x48E, 0x48E, uppercaseLetter), (0x48F, 0x48F, lowercaseLetter),
  (0x490, 0x490, uppercaseLetter), (0x491, 0x491, lowercaseLetter),
  (0x492, 0x492, uppercaseLetter), (0x493, 0x493, lowercaseLetter),
  (0x494, 0x494, uppercaseLetter), (0x495, 0x495, lowercaseLetter),
  (0x496, 0x496, uppercaseLetter), (0x497, 0x497, lowercaseLetter),
  (0x498, 0x498, uppercaseLetter), (0x499, 0x499, lowercaseLetter),
  (0x49A, 0x49A, uppercaseLetter), (0x49B, 0x49B, lowercaseLetter),
  (0x49C, 0x49C, uppercaseLetter), (0x49D, 0x49D, lowercaseLetter),
  (0x49E, 0x49E, uppercaseLetter), (0x49F, 0x49F, lowercaseLetter),
  (0x4A0, 0x4A0, uppercaseLetter), (0x4A1, 0x4A1, lowercaseLetter),
  (0x4A2, 0x4A2, uppercaseLetter), (0x4A3, 0x4A3, lowercaseLetter),
  (0x4A4, 0x4A4, uppercaseLetter), (0x4A5, 0x4A5, lowercaseLetter),
  (0x4A6, 0x4A6, uppercaseLetter), (0x4A7, 0x4A7, lowercaseLetter),
  (0x4A8, 0x4A8, uppercaseLetter), (0x4A9, 0x4A9, lowercaseLetter),
  (0x4AA, 0x4AA, uppercaseLetter), (0x4AB, 0x4AB, lowercaseLetter),
  (0x4AC, 0x4AC, uppercaseLetter), (0x4AD, 0x4AD, lowercaseLetter),
  (0x4AE, 0x4AE, uppercaseLetter), (0x4AF, 0x4AF, lowercaseLetter),
  (0x4B0, 0x4B0, uppercaseLetter), (0x4B1, 0x4B1, lowercaseLetter),
  (0x4B2, 0x4B2, uppercaseLetter), (0x4B3, 0x4B3, lowercaseLetter),
  (0x4B4, 0x4B4, uppercaseLetter), (0x4B5, 0x4B5, lowercaseLetter),
  (0x4B6, 0x4B6, uppercaseLetter), (0x4B7, 0x4B7, lowercaseLetter),
  (0x4B8, 0x4B8, uppercaseLetter), (0x4B9, 0x4B9, lowercaseLetter),
  (0x4BA, 0x4BA, uppercaseLetter), (0x4BB, 0x4BB, lowercaseLetter),
  (0x4BC, 0x4BC, uppercaseLetter), (0x4BD, 0x4BD, lowercaseLetter),
  (0x4BE, 0x4BE, uppercaseLetter), (0x4BF, 0x4BF, lowercaseLetter),
  (0x4C0, 0x4C1, uppercaseLetter), (0x4C2, 0x4C2, lowercaseLetter),
  (0x4C3, 0x4C3, uppercaseLetter), (0x4C4, 0x4C4, lowercaseLetter),
  (0x4C5, 0x4C5, uppercaseLetter), (0x4C6, 0x4C6, lowercaseLetter),
  (0x4C7, 0x4C7, uppercaseLetter), (0x4C8, 0x4C8, lowercaseLetter),
  (0x4C9, 0x4C9, uppercaseLetter), (0x4CA, 0x4CA, lowercaseLetter),
  (0x4CB, 0x4CB, uppercaseLetter), (0x4CC, 0x4CC, lowercaseLetter),
  (0x4CD, 0x4CD, uppercaseLetter), (0x4CE, 0x4CF, lowercaseLetter),
  (0x4D0, 0x4D0, uppercaseLetter), (0x4D1, 0x4D1, lowercaseLetter),
  (0x4D2, 0x4D2, uppercaseLetter), (0x4D3, 0x4D3, lowercaseLetter),
  (0x4D4, 0x4D4, uppercaseLetter), (0x4D5, 0x4D5, lowercaseLetter),
  (0x4D6, 0x4D6, uppercaseLetter), (0x4D7, 0x4D7, lowercaseLetter),
  (0x4D8, 0x4D8, uppercaseLetter), (0x4D9, 0x4D9, lowercaseLetter),
  (0x4DA, 0x4DA, uppercaseLetter), (0x4DB, 0x4DB, lowercaseLetter),
  (0x4DC, 0x4DC, uppercaseLetter), (0x4DD, 0x4DD, lowercaseLetter),
  (0x4DE, 0x4DE, uppercaseLetter), (0x4DF, 0x4DF, lowercaseLetter),
  (0x4E0, 0x4E0, uppercaseLetter), (0x4E1, 0x4E1, lowercaseLetter),
  (0x4E2, 0x4E2, uppercaseLetter), (0x4E3, 0x4E3, lowercaseLetter),
  (0x4E4, 0x4E4, uppercaseLetter), (0x4E5, 0x4E5, lowercaseLetter),
  (0x4E6, 0x4E6, uppercaseLetter), (0x4E7, 0x4E7, lowercaseLetter),
  (0x4E8, 0x4E8, uppercaseLetter), (0x4E9, 0x4E9, lowercaseLetter),
  (0x4EA, 0x4EA, uppercaseLetter), (0x4EB, 0x4EB, lowercaseLetter),
  (0x4EC, 0x4EC, uppercaseLetter), (0x4ED, 0x4ED, lowercaseLetter),
  (0x4EE, 0x4EE, uppercaseLetter), (0x4EF, 0x4EF, lowercaseLetter),
  (0x4F0, 0x4F0, uppercaseLetter), (0x4F1, 0x4F1, lowercaseLetter),
  (0x4F2, 0x4F2, uppercaseLetter), (0x4F3, 0x4F3, lowercaseLetter),
  (0x4F4, 0x4F4, uppercaseLetter), (0x4F5, 0x4F5, lowercaseLetter),
  (0x4F6, 0x4F6, uppercaseLetter), (0x4F7, 0x4F7, lowercaseLetter),
  (0x4F8, 0x4F8, uppercaseLetter), (0x4F9, 0x4F9, lowercaseLetter),
  (0x4FA, 0x4FA, uppercaseLetter), (0x4FB, 0x4FB, lowercaseLetter),
  (0x4FC, 0x4FC, uppercaseLetter), (0x4FD, 0x4FD, lowercaseLetter),
  (0x4FE, 0x4FE, uppercaseLetter), (0x4FF, 0x4FF, lowercaseLetter),
  (0x500, 0x500, uppercaseLetter), (0x501, 0x501, lowercaseLetter),
  (0x502, 0x502, uppercaseLetter), (0x503, 0x503, lowercaseLetter),
  (0x504, 0x504, uppercaseLetter), (0x505, 0x505, lowercaseLetter),
  (0x506, 0x506, uppercaseLetter), (0x507, 0x507, lowercaseLetter),
  (0x508, 0x508, uppercaseLetter), (0x509, 0x509, lowercaseLetter),
  (0x50A, 0x50A, uppercaseLetter), (0x50B, 0x50B, lowercaseLetter),
  (0x50C, 0x50C, uppercaseLetter), (0x50D, 0x50D, lowercaseLetter),
  (0x50E, 0x50E, uppercaseLetter), (0x50F, 0x50F, lowercaseLetter),
  (0x510, 0x510, uppercaseLetter), (0x511, 0x511, lowercaseLetter),
  (0x512, 0x512, uppercaseLetter), (0x513, 0x513, lowercaseLetter),
  (0x514, 0x514, uppercaseLetter), (0x515, 0x515, lowercaseLetter),
  (0x516, 0x516, uppercaseLetter), (0x517, 0x517, lowercaseLetter),
  (0x518, 0x518, uppercaseLetter), (0x519, 0x519, lowercaseLetter),
  (0x51A, 0x51A, uppercaseLetter), (0x51B, 0x51B, lowercaseLetter),
  (0x51C, 0x51C, uppercaseLetter), (0x51D, 0x51D, lowercaseLetter),
  (0x51E, 0x51E, uppercaseLetter), (0x51F, 0x51F, lowercaseLetter),
  (0x520, 0x520, uppercaseLetter), (0x521, 0x521, lowercaseLetter),
  (0x522, 0x522, uppercaseLetter), (0x523, 0x523, lowercaseLetter),
  (0x524, 0x524, uppercaseLetter), (0x525, 0x525, lowercaseLetter),
  (0x526, 0x526, uppercaseLetter), (0x527, 0x527, lowercaseLetter),
  (0x528, 0x528, uppercaseLetter), (0x529, 0x529, lowercaseLetter),
  (0x52A, 0x52A, uppercaseLetter), (0x52B, 0x52B, lowercaseLetter),
  (0x52C, 0x52C, uppercaseLetter), (0x52D, 0x52D, lowercaseLetter),
  (0x52E, 0x52E, uppercaseLetter), (0x52F, 0x52F, lowercaseLetter),
  (0x531, 0x556, uppercaseLetter), (0x559, 0x559, modifierLetter),
  (0x55A, 0x55F, otherPunctuation), (0x560, 0x588, lowercaseLetter),
  (0x589, 0x589, otherPunctuation), (0x58A, 0x58A, dashPunctuation), (0x58D, 0x58E, otherSymbol),
  (0x58F, 0x58F, currencySymbol), (0x591, 0x5BD, nonspacingMark), (0x5BE, 0x5BE, dashPunctuation),
  (0x5BF, 0x5BF, nonspacingMark), (0x5C0, 0x5C0, otherPunctuation),
  (0x5C1, 0x5C2, nonspacingMark), (0x5C3, 0x5C3, otherPunctuation),
  (0x5C4, 0x5C5, nonspacingMark), (0x5C6, 0x5C6, otherPunctuation),
  (0x5C7, 0x5C7, nonspacingMark), (0x5D0, 0x5EA, otherLetter), (0x5EF, 0x5F2, otherLetter),
  (0x5F3, 0x5F4, otherPunctuation), (0x600, 0x605, format), (0x606, 0x608, mathSymbol),
  (0x609, 0x60A, otherPunctuation), (0x60B, 0x60B, currencySymbol),
  (0x60C, 0x60D, otherPunctuation), (0x60E, 0x60F, otherSymbol), (0x610, 0x61A, nonspacingMark),
  (0x61B, 0x61B, otherPunctuation), (0x61C, 0x61C, format), (0x61D, 0x61F, otherPunctuation),
  (0x620, 0x63F, otherLetter), (0x640, 0x640, modifierLetter), (0x641, 0x64A, otherLetter),
  (0x64B, 0x65F, nonspacingMark), (0x660, 0x669, decimalNumber), (0x66A, 0x66D, otherPunctuation),
  (0x66E, 0x66F, otherLetter), (0x670, 0x670, nonspacingMark), (0x671, 0x6D3, otherLetter),
  (0x6D4, 0x6D4, otherPunctuation), (0x6D5, 0x6D5, otherLetter), (0x6D6, 0x6DC, nonspacingMark),
  (0x6DD, 0x6DD, format), (0x6DE, 0x6DE, otherSymbol), (0x6DF, 0x6E4, nonspacingMark),
  (0x6E5, 0x6E6, modifierLetter), (0x6E7, 0x6E8, nonspacingMark), (0x6E9, 0x6E9, otherSymbol),
  (0x6EA, 0x6ED, nonspacingMark), (0x6EE, 0x6EF, otherLetter), (0x6F0, 0x6F9, decimalNumber),
  (0x6FA, 0x6FC, otherLetter), (0x6FD, 0x6FE, otherSymbol), (0x6FF, 0x6FF, otherLetter),
  (0x700, 0x70D, otherPunctuation), (0x70F, 0x70F, format), (0x710, 0x710, otherLetter),
  (0x711, 0x711, nonspacingMark), (0x712, 0x72F, otherLetter), (0x730, 0x74A, nonspacingMark),
  (0x74D, 0x7A5, otherLetter), (0x7A6, 0x7B0, nonspacingMark), (0x7B1, 0x7B1, otherLetter),
  (0x7C0, 0x7C9, decimalNumber), (0x7CA, 0x7EA, otherLetter), (0x7EB, 0x7F3, nonspacingMark),
  (0x7F4, 0x7F5, modifierLetter), (0x7F6, 0x7F6, otherSymbol), (0x7F7, 0x7F9, otherPunctuation),
  (0x7FA, 0x7FA, modifierLetter), (0x7FD, 0x7FD, nonspacingMark), (0x7FE, 0x7FF, currencySymbol),
  (0x800, 0x815, otherLetter), (0x816, 0x819, nonspacingMark), (0x81A, 0x81A, modifierLetter),
  (0x81B, 0x823, nonspacingMark), (0x824, 0x824, modifierLetter), (0x825, 0x827, nonspacingMark),
  (0x828, 0x828, modifierLetter), (0x829, 0x82D, nonspacingMark),
  (0x830, 0x83E, otherPunctuation), (0x840, 0x858, otherLetter), (0x859, 0x85B, nonspacingMark),
  (0x85E, 0x85E, otherPunctuation), (0x860, 0x86A, otherLetter), (0x870, 0x887, otherLetter),
  (0x888, 0x888, modifierSymbol), (0x889, 0x88F, otherLetter), (0x890, 0x891, format),
  (0x897, 0x89F, nonspacingMark), (0x8A0, 0x8C8, otherLetter), (0x8C9, 0x8C9, modifierLetter),
  (0x8CA, 0x8E1, nonspacingMark), (0x8E2, 0x8E2, format), (0x8E3, 0x902, nonspacingMark),
  (0x903, 0x903, spacingMark), (0x904, 0x939, otherLetter), (0x93A, 0x93A, nonspacingMark),
  (0x93B, 0x93B, spacingMark), (0x93C, 0x93C, nonspacingMark), (0x93D, 0x93D, otherLetter),
  (0x93E, 0x940, spacingMark), (0x941, 0x948, nonspacingMark), (0x949, 0x94C, spacingMark),
  (0x94D, 0x94D, nonspacingMark), (0x94E, 0x94F, spacingMark), (0x950, 0x950, otherLetter),
  (0x951, 0x957, nonspacingMark), (0x958, 0x961, otherLetter), (0x962, 0x963, nonspacingMark),
  (0x964, 0x965, otherPunctuation), (0x966, 0x96F, decimalNumber),
  (0x970, 0x970, otherPunctuation), (0x971, 0x971, modifierLetter), (0x972, 0x980, otherLetter),
  (0x981, 0x981, nonspacingMark), (0x982, 0x983, spacingMark), (0x985, 0x98C, otherLetter),
  (0x98F, 0x990, otherLetter), (0x993, 0x9A8, otherLetter), (0x9AA, 0x9B0, otherLetter),
  (0x9B2, 0x9B2, otherLetter), (0x9B6, 0x9B9, otherLetter), (0x9BC, 0x9BC, nonspacingMark),
  (0x9BD, 0x9BD, otherLetter), (0x9BE, 0x9C0, spacingMark), (0x9C1, 0x9C4, nonspacingMark),
  (0x9C7, 0x9C8, spacingMark), (0x9CB, 0x9CC, spacingMark), (0x9CD, 0x9CD, nonspacingMark),
  (0x9CE, 0x9CE, otherLetter), (0x9D7, 0x9D7, spacingMark), (0x9DC, 0x9DD, otherLetter),
  (0x9DF, 0x9E1, otherLetter), (0x9E2, 0x9E3, nonspacingMark), (0x9E6, 0x9EF, decimalNumber),
  (0x9F0, 0x9F1, otherLetter), (0x9F2, 0x9F3, currencySymbol), (0x9F4, 0x9F9, otherNumber),
  (0x9FA, 0x9FA, otherSymbol), (0x9FB, 0x9FB, currencySymbol), (0x9FC, 0x9FC, otherLetter),
  (0x9FD, 0x9FD, otherPunctuation), (0x9FE, 0x9FE, nonspacingMark),
  (0xA01, 0xA02, nonspacingMark), (0xA03, 0xA03, spacingMark), (0xA05, 0xA0A, otherLetter),
  (0xA0F, 0xA10, otherLetter), (0xA13, 0xA28, otherLetter), (0xA2A, 0xA30, otherLetter),
  (0xA32, 0xA33, otherLetter), (0xA35, 0xA36, otherLetter), (0xA38, 0xA39, otherLetter),
  (0xA3C, 0xA3C, nonspacingMark), (0xA3E, 0xA40, spacingMark), (0xA41, 0xA42, nonspacingMark),
  (0xA47, 0xA48, nonspacingMark), (0xA4B, 0xA4D, nonspacingMark), (0xA51, 0xA51, nonspacingMark),
  (0xA59, 0xA5C, otherLetter), (0xA5E, 0xA5E, otherLetter), (0xA66, 0xA6F, decimalNumber),
  (0xA70, 0xA71, nonspacingMark), (0xA72, 0xA74, otherLetter), (0xA75, 0xA75, nonspacingMark),
  (0xA76, 0xA76, otherPunctuation), (0xA81, 0xA82, nonspacingMark), (0xA83, 0xA83, spacingMark),
  (0xA85, 0xA8D, otherLetter), (0xA8F, 0xA91, otherLetter), (0xA93, 0xAA8, otherLetter),
  (0xAAA, 0xAB0, otherLetter), (0xAB2, 0xAB3, otherLetter), (0xAB5, 0xAB9, otherLetter),
  (0xABC, 0xABC, nonspacingMark), (0xABD, 0xABD, otherLetter), (0xABE, 0xAC0, spacingMark),
  (0xAC1, 0xAC5, nonspacingMark), (0xAC7, 0xAC8, nonspacingMark), (0xAC9, 0xAC9, spacingMark),
  (0xACB, 0xACC, spacingMark), (0xACD, 0xACD, nonspacingMark), (0xAD0, 0xAD0, otherLetter),
  (0xAE0, 0xAE1, otherLetter), (0xAE2, 0xAE3, nonspacingMark), (0xAE6, 0xAEF, decimalNumber),
  (0xAF0, 0xAF0, otherPunctuation), (0xAF1, 0xAF1, currencySymbol), (0xAF9, 0xAF9, otherLetter),
  (0xAFA, 0xAFF, nonspacingMark), (0xB01, 0xB01, nonspacingMark), (0xB02, 0xB03, spacingMark),
  (0xB05, 0xB0C, otherLetter), (0xB0F, 0xB10, otherLetter), (0xB13, 0xB28, otherLetter),
  (0xB2A, 0xB30, otherLetter), (0xB32, 0xB33, otherLetter), (0xB35, 0xB39, otherLetter),
  (0xB3C, 0xB3C, nonspacingMark), (0xB3D, 0xB3D, otherLetter), (0xB3E, 0xB3E, spacingMark),
  (0xB3F, 0xB3F, nonspacingMark), (0xB40, 0xB40, spacingMark), (0xB41, 0xB44, nonspacingMark),
  (0xB47, 0xB48, spacingMark), (0xB4B, 0xB4C, spacingMark), (0xB4D, 0xB4D, nonspacingMark),
  (0xB55, 0xB56, nonspacingMark), (0xB57, 0xB57, spacingMark), (0xB5C, 0xB5D, otherLetter),
  (0xB5F, 0xB61, otherLetter), (0xB62, 0xB63, nonspacingMark), (0xB66, 0xB6F, decimalNumber),
  (0xB70, 0xB70, otherSymbol), (0xB71, 0xB71, otherLetter), (0xB72, 0xB77, otherNumber),
  (0xB82, 0xB82, nonspacingMark), (0xB83, 0xB83, otherLetter), (0xB85, 0xB8A, otherLetter),
  (0xB8E, 0xB90, otherLetter), (0xB92, 0xB95, otherLetter), (0xB99, 0xB9A, otherLetter),
  (0xB9C, 0xB9C, otherLetter), (0xB9E, 0xB9F, otherLetter), (0xBA3, 0xBA4, otherLetter),
  (0xBA8, 0xBAA, otherLetter), (0xBAE, 0xBB9, otherLetter), (0xBBE, 0xBBF, spacingMark),
  (0xBC0, 0xBC0, nonspacingMark), (0xBC1, 0xBC2, spacingMark), (0xBC6, 0xBC8, spacingMark),
  (0xBCA, 0xBCC, spacingMark), (0xBCD, 0xBCD, nonspacingMark), (0xBD0, 0xBD0, otherLetter),
  (0xBD7, 0xBD7, spacingMark), (0xBE6, 0xBEF, decimalNumber), (0xBF0, 0xBF2, otherNumber),
  (0xBF3, 0xBF8, otherSymbol), (0xBF9, 0xBF9, currencySymbol), (0xBFA, 0xBFA, otherSymbol),
  (0xC00, 0xC00, nonspacingMark), (0xC01, 0xC03, spacingMark), (0xC04, 0xC04, nonspacingMark),
  (0xC05, 0xC0C, otherLetter), (0xC0E, 0xC10, otherLetter), (0xC12, 0xC28, otherLetter),
  (0xC2A, 0xC39, otherLetter), (0xC3C, 0xC3C, nonspacingMark), (0xC3D, 0xC3D, otherLetter),
  (0xC3E, 0xC40, nonspacingMark), (0xC41, 0xC44, spacingMark), (0xC46, 0xC48, nonspacingMark),
  (0xC4A, 0xC4D, nonspacingMark), (0xC55, 0xC56, nonspacingMark), (0xC58, 0xC5A, otherLetter),
  (0xC5C, 0xC5D, otherLetter), (0xC60, 0xC61, otherLetter), (0xC62, 0xC63, nonspacingMark),
  (0xC66, 0xC6F, decimalNumber), (0xC77, 0xC77, otherPunctuation), (0xC78, 0xC7E, otherNumber),
  (0xC7F, 0xC7F, otherSymbol), (0xC80, 0xC80, otherLetter), (0xC81, 0xC81, nonspacingMark),
  (0xC82, 0xC83, spacingMark), (0xC84, 0xC84, otherPunctuation), (0xC85, 0xC8C, otherLetter),
  (0xC8E, 0xC90, otherLetter), (0xC92, 0xCA8, otherLetter), (0xCAA, 0xCB3, otherLetter),
  (0xCB5, 0xCB9, otherLetter), (0xCBC, 0xCBC, nonspacingMark), (0xCBD, 0xCBD, otherLetter),
  (0xCBE, 0xCBE, spacingMark), (0xCBF, 0xCBF, nonspacingMark), (0xCC0, 0xCC4, spacingMark),
  (0xCC6, 0xCC6, nonspacingMark), (0xCC7, 0xCC8, spacingMark), (0xCCA, 0xCCB, spacingMark),
  (0xCCC, 0xCCD, nonspacingMark), (0xCD5, 0xCD6, spacingMark), (0xCDC, 0xCDE, otherLetter),
  (0xCE0, 0xCE1, otherLetter), (0xCE2, 0xCE3, nonspacingMark), (0xCE6, 0xCEF, decimalNumber),
  (0xCF1, 0xCF2, otherLetter), (0xCF3, 0xCF3, spacingMark), (0xD00, 0xD01, nonspacingMark),
  (0xD02, 0xD03, spacingMark), (0xD04, 0xD0C, otherLetter), (0xD0E, 0xD10, otherLetter),
  (0xD12, 0xD3A, otherLetter), (0xD3B, 0xD3C, nonspacingMark), (0xD3D, 0xD3D, otherLetter),
  (0xD3E, 0xD40, spacingMark), (0xD41, 0xD44, nonspacingMark), (0xD46, 0xD48, spacingMark),
  (0xD4A, 0xD4C, spacingMark), (0xD4D, 0xD4D, nonspacingMark), (0xD4E, 0xD4E, otherLetter),
  (0xD4F, 0xD4F, otherSymbol), (0xD54, 0xD56, otherLetter), (0xD57, 0xD57, spacingMark),
  (0xD58, 0xD5E, otherNumber), (0xD5F, 0xD61, otherLetter), (0xD62, 0xD63, nonspacingMark),
  (0xD66, 0xD6F, decimalNumber), (0xD70, 0xD78, otherNumber), (0xD79, 0xD79, otherSymbol),
  (0xD7A, 0xD7F, otherLetter), (0xD81, 0xD81, nonspacingMark), (0xD82, 0xD83, spacingMark),
  (0xD85, 0xD96, otherLetter), (0xD9A, 0xDB1, otherLetter), (0xDB3, 0xDBB, otherLetter),
  (0xDBD, 0xDBD, otherLetter), (0xDC0, 0xDC6, otherLetter), (0xDCA, 0xDCA, nonspacingMark),
  (0xDCF, 0xDD1, spacingMark), (0xDD2, 0xDD4, nonspacingMark), (0xDD6, 0xDD6, nonspacingMark),
  (0xDD8, 0xDDF, spacingMark), (0xDE6, 0xDEF, decimalNumber), (0xDF2, 0xDF3, spacingMark),
  (0xDF4, 0xDF4, otherPunctuation), (0xE01, 0xE30, otherLetter), (0xE31, 0xE31, nonspacingMark),
  (0xE32, 0xE33, otherLetter), (0xE34, 0xE3A, nonspacingMark), (0xE3F, 0xE3F, currencySymbol),
  (0xE40, 0xE45, otherLetter), (0xE46, 0xE46, modifierLetter), (0xE47, 0xE4E, nonspacingMark),
  (0xE4F, 0xE4F, otherPunctuation), (0xE50, 0xE59, decimalNumber),
  (0xE5A, 0xE5B, otherPunctuation), (0xE81, 0xE82, otherLetter), (0xE84, 0xE84, otherLetter),
  (0xE86, 0xE8A, otherLetter), (0xE8C, 0xEA3, otherLetter), (0xEA5, 0xEA5, otherLetter),
  (0xEA7, 0xEB0, otherLetter), (0xEB1, 0xEB1, nonspacingMark), (0xEB2, 0xEB3, otherLetter),
  (0xEB4, 0xEBC, nonspacingMark), (0xEBD, 0xEBD, otherLetter), (0xEC0, 0xEC4, otherLetter),
  (0xEC6, 0xEC6, modifierLetter), (0xEC8, 0xECE, nonspacingMark), (0xED0, 0xED9, decimalNumber),
  (0xEDC, 0xEDF, otherLetter), (0xF00, 0xF00, otherLetter), (0xF01, 0xF03, otherSymbol),
  (0xF04, 0xF12, otherPunctuation), (0xF13, 0xF13, otherSymbol), (0xF14, 0xF14, otherPunctuation),
  (0xF15, 0xF17, otherSymbol), (0xF18, 0xF19, nonspacingMark), (0xF1A, 0xF1F, otherSymbol),
  (0xF20, 0xF29, decimalNumber), (0xF2A, 0xF33, otherNumber), (0xF34, 0xF34, otherSymbol),
  (0xF35, 0xF35, nonspacingMark), (0xF36, 0xF36, otherSymbol), (0xF37, 0xF37, nonspacingMark),
  (0xF38, 0xF38, otherSymbol), (0xF39, 0xF39, nonspacingMark), (0xF3A, 0xF3A, openPunctuation),
  (0xF3B, 0xF3B, closePunctuation), (0xF3C, 0xF3C, openPunctuation),
  (0xF3D, 0xF3D, closePunctuation), (0xF3E, 0xF3F, spacingMark), (0xF40, 0xF47, otherLetter),
  (0xF49, 0xF6C, otherLetter), (0xF71, 0xF7E, nonspacingMark), (0xF7F, 0xF7F, spacingMark),
  (0xF80, 0xF84, nonspacingMark), (0xF85, 0xF85, otherPunctuation),
  (0xF86, 0xF87, nonspacingMark), (0xF88, 0xF8C, otherLetter), (0xF8D, 0xF97, nonspacingMark),
  (0xF99, 0xFBC, nonspacingMark), (0xFBE, 0xFC5, otherSymbol), (0xFC6, 0xFC6, nonspacingMark),
  (0xFC7, 0xFCC, otherSymbol), (0xFCE, 0xFCF, otherSymbol), (0xFD0, 0xFD4, otherPunctuation),
  (0xFD5, 0xFD8, otherSymbol), (0xFD9, 0xFDA, otherPunctuation)]

def page01 : Table := [
  (0x1000, 0x102A, otherLetter), (0x102B, 0x102C, spacingMark), (0x102D, 0x1030, nonspacingMark),
  (0x1031, 0x1031, spacingMark), (0x1032, 0x1037, nonspacingMark), (0x1038, 0x1038, spacingMark),
  (0x1039, 0x103A, nonspacingMark), (0x103B, 0x103C, spacingMark),
  (0x103D, 0x103E, nonspacingMark), (0x103F, 0x103F, otherLetter),
  (0x1040, 0x1049, decimalNumber), (0x104A, 0x104F, otherPunctuation),
  (0x1050, 0x1055, otherLetter), (0x1056, 0x1057, spacingMark), (0x1058, 0x1059, nonspacingMark),
  (0x105A, 0x105D, otherLetter), (0x105E, 0x1060, nonspacingMark), (0x1061, 0x1061, otherLetter),
  (0x1062, 0x1064, spacingMark), (0x1065, 0x1066, otherLetter), (0x1067, 0x106D, spacingMark),
  (0x106E, 0x1070, otherLetter), (0x1071, 0x1074, nonspacingMark), (0x1075, 0x1081, otherLetter),
  (0x1082, 0x1082, nonspacingMark), (0x1083, 0x1084, spacingMark),
  (0x1085, 0x1086, nonspacingMark), (0x1087, 0x108C, spacingMark),
  (0x108D, 0x108D, nonspacingMark), (0x108E, 0x108E, otherLetter), (0x108F, 0x108F, spacingMark),
  (0x1090, 0x1099, decimalNumber), (0x109A, 0x109C, spacingMark),
  (0x109D, 0x109D, nonspacingMark), (0x109E, 0x109F, otherSymbol),
  (0x10A0, 0x10C5, uppercaseLetter), (0x10C7, 0x10C7, uppercaseLetter),
  (0x10CD, 0x10CD, uppercaseLetter), (0x10D0, 0x10FA, lowercaseLetter),
  (0x10FB, 0x10FB, otherPunctuation), (0x10FC, 0x10FC, modifierLetter),
  (0x10FD, 0x10FF, lowercaseLetter), (0x1100, 0x1248, otherLetter), (0x124A, 0x124D, otherLetter),
  (0x1250, 0x1256, otherLetter), (0x1258, 0x1258, otherLetter), (0x125A, 0x125D, otherLetter),
  (0x1260, 0x1288, otherLetter), (0x128A, 0x128D, otherLetter), (0x1290, 0x12B0, otherLetter),
  (0x12B2, 0x12B5, otherLetter), (0x12B8, 0x12BE, otherLetter), (0x12C0, 0x12C0, otherLetter),
  (0x12C2, 0x12C5, otherLetter), (0x12C8, 0x12D6, otherLetter), (0x12D8, 0x1310, otherLetter),
  (0x1312, 0x1315, otherLetter), (0x1318, 0x135A, otherLetter), (0x135D, 0x135F, nonspacingMark),
  (0x1360, 0x1368, otherPunctuation), (0x1369, 0x137C, otherNumber),
  (0x1380, 0x138F, otherLetter), (0x1390, 0x1399, otherSymbol), (0x13A0, 0x13F5, uppercaseLetter),
  (0x13F8, 0x13FD, lowercaseLetter), (0x1400, 0x1400, dashPunctuation),
  (0x1401, 0x166C, otherLetter), (0x166D, 0x166D, otherSymbol),
  (0x166E, 0x166E, otherPunctuation), (0x166F, 0x167F, otherLetter),
  (0x1680, 0x1680, spaceSeparator), (0x1681, 0x169A, otherLetter),
  (0x169B, 0x169B, openPunctuation), (0x169C, 0x169C, closePunctuation),
  (0x16A0, 0x16EA, otherLetter), (0x16EB, 0x16ED, otherPunctuation),
  (0x16EE, 0x16F0, letterNumber), (0x16F1, 0x16F8, otherLetter), (0x1700, 0x1711, otherLetter),
  (0x1712, 0x1714, nonspacingMark), (0x1715, 0x1715, spacingMark), (0x171F, 0x1731, otherLetter),
  (0x1732, 0x1733, nonspacingMark), (0x1734, 0x1734, spacingMark),
  (0x1735, 0x1736, otherPunctuation), (0x1740, 0x1751, otherLetter),
  (0x1752, 0x1753, nonspacingMark), (0x1760, 0x176C, otherLetter), (0x176E, 0x1770, otherLetter),
  (0x1772, 0x1773, nonspacingMark), (0x1780, 0x17B3, otherLetter),
  (0x17B4, 0x17B5, nonspacingMark), (0x17B6, 0x17B6, spacingMark),
  (0x17B7, 0x17BD, nonspacingMark), (0x17BE, 0x17C5, spacingMark),
  (0x17C6, 0x17C6, nonspacingMark), (0x17C7, 0x17C8, spacingMark),
  (0x17C9, 0x17D3, nonspacingMark), (0x17D4, 0x17D6, otherPunctuation),
  (0x17D7, 0x17D7, modifierLetter), (0x17D8, 0x17DA, otherPunctuation),
  (0x17DB, 0x17DB, currencySymbol), (0x17DC, 0x17DC, otherLetter),
  (0x17DD, 0x17DD, nonspacingMark), (0x17E0, 0x17E9, decimalNumber),
  (0x17F0, 0x17F9, otherNumber), (0x1800, 0x1805, otherPunctuation),
  (0x1806, 0x1806, dashPunctuation), (0x1807, 0x180A, otherPunctuation),
  (0x180B, 0x180D, nonspacingMark), (0x180E, 0x180E, format), (0x180F, 0x180F, nonspacingMark),
  (0x1810, 0x1819, decimalNumber), (0x1820, 0x1842, otherLetter),
  (0x1843, 0x1843, modifierLetter), (0x1844, 0x1878, otherLetter), (0x1880, 0x1884, otherLetter),
  (0x1885, 0x1886, nonspacingMark), (0x1887, 0x18A8, otherLetter),
  (0x18A9, 0x18A9, nonspacingMark), (0x18AA, 0x18AA, otherLetter), (0x18B0, 0x18F5, otherLetter),
  (0x1900, 0x191E, otherLetter), (0x1920, 0x1922, nonspacingMark), (0x1923, 0x1926, spacingMark),
  (0x1927, 0x1928, nonspacingMark), (0x1929, 0x192B, spacingMark), (0x1930, 0x1931, spacingMark),
  (0x1932, 0x1932, nonspacingMark), (0x1933, 0x1938, spacingMark),
  (0x1939, 0x193B, nonspacingMark), (0x1940, 0x1940, otherSymbol),
  (0x1944, 0x1945, otherPunctuation), (0x1946, 0x194F, decimalNumber),
  (0x1950, 0x196D, otherLetter), (0x1970, 0x1974, otherLetter), (0x1980, 0x19AB, otherLetter),
  (0x19B0, 0x19C9, otherLetter), (0x19D0, 0x19D9, decimalNumber), (0x19DA, 0x19DA, otherNumber),
  (0x19DE, 0x19FF, otherSymbol), (0x1A00, 0x1A16, otherLetter), (0x1A17, 0x1A18, nonspacingMark),
  (0x1A19, 0x1A1A, spacingMark), (0x1A1B, 0x1A1B, nonspacingMark),
  (0x1A1E, 0x1A1F, otherPunctuation), (0x1A20, 0x1A54, otherLetter),
  (0x1A55, 0x1A55, spacingMark), (0x1A56, 0x1A56, nonspacingMark), (0x1A57, 0x1A57, spacingMark),
  (0x1A58, 0x1A5E, nonspacingMark), (0x1A60, 0x1A60, nonspacingMark),
  (0x1A61, 0x1A61, spacingMark), (0x1A62, 0x1A62, nonspacingMark), (0x1A63, 0x1A64, spacingMark),
  (0x1A65, 0x1A6C, nonspacingMark), (0x1A6D, 0x1A72, spacingMark),
  (0x1A73, 0x1A7C, nonspacingMark), (0x1A7F, 0x1A7F, nonspacingMark),
  (0x1A80, 0x1A89, decimalNumber), (0x1A90, 0x1A99, decimalNumber),
  (0x1AA0, 0x1AA6, otherPunctuation), (0x1AA7, 0x1AA7, modifierLetter),
  (0x1AA8, 0x1AAD, otherPunctuation), (0x1AB0, 0x1ABD, nonspacingMark),
  (0x1ABE, 0x1ABE, enclosingMark), (0x1ABF, 0x1ADD, nonspacingMark),
  (0x1AE0, 0x1AEB, nonspacingMark), (0x1B00, 0x1B03, nonspacingMark),
  (0x1B04, 0x1B04, spacingMark), (0x1B05, 0x1B33, otherLetter), (0x1B34, 0x1B34, nonspacingMark),
  (0x1B35, 0x1B35, spacingMark), (0x1B36, 0x1B3A, nonspacingMark), (0x1B3B, 0x1B3B, spacingMark),
  (0x1B3C, 0x1B3C, nonspacingMark), (0x1B3D, 0x1B41, spacingMark),
  (0x1B42, 0x1B42, nonspacingMark), (0x1B43, 0x1B44, spacingMark), (0x1B45, 0x1B4C, otherLetter),
  (0x1B4E, 0x1B4F, otherPunctuation), (0x1B50, 0x1B59, decimalNumber),
  (0x1B5A, 0x1B60, otherPunctuation), (0x1B61, 0x1B6A, otherSymbol),
  (0x1B6B, 0x1B73, nonspacingMark), (0x1B74, 0x1B7C, otherSymbol),
  (0x1B7D, 0x1B7F, otherPunctuation), (0x1B80, 0x1B81, nonspacingMark),
  (0x1B82, 0x1B82, spacingMark), (0x1B83, 0x1BA0, otherLetter), (0x1BA1, 0x1BA1, spacingMark),
  (0x1BA2, 0x1BA5, nonspacingMark), (0x1BA6, 0x1BA7, spacingMark),
  (0x1BA8, 0x1BA9, nonspacingMark), (0x1BAA, 0x1BAA, spacingMark),
  (0x1BAB, 0x1BAD, nonspacingMark), (0x1BAE, 0x1BAF, otherLetter),
  (0x1BB0, 0x1BB9, decimalNumber), (0x1BBA, 0x1BE5, otherLetter),
  (0x1BE6, 0x1BE6, nonspacingMark), (0x1BE7, 0x1BE7, spacingMark),
  (0x1BE8, 0x1BE9, nonspacingMark), (0x1BEA, 0x1BEC, spacingMark),
  (0x1BED, 0x1BED, nonspacingMark), (0x1BEE, 0x1BEE, spacingMark),
  (0x1BEF, 0x1BF1, nonspacingMark), (0x1BF2, 0x1BF3, spacingMark),
  (0x1BFC, 0x1BFF, otherPunctuation), (0x1C00, 0x1C23, otherLetter),
  (0x1C24, 0x1C2B, spacingMark), (0x1C2C, 0x1C33, nonspacingMark), (0x1C34, 0x1C35, spacingMark),
  (0x1C36, 0x1C37, nonspacingMark), (0x1C3B, 0x1C3F, otherPunctuation),
  (0x1C40, 0x1C49, decimalNumber), (0x1C4D, 0x1C4F, otherLetter), (0x1C50, 0x1C59, decimalNumber),
  (0x1C5A, 0x1C77, otherLetter), (0x1C78, 0x1C7D, modifierLetter),
  (0x1C7E, 0x1C7F, otherPunctuation), (0x1C80, 0x1C88, lowercaseLetter),
  (0x1C89, 0x1C89, uppercaseLetter), (0x1C8A, 0x1C8A, lowercaseLetter),
  (0x1C90, 0x1CBA, uppercaseLetter), (0x1CBD, 0x1CBF, uppercaseLetter),
  (0x1CC0, 0x1CC7, otherPunctuation), (0x1CD0, 0x1CD2, nonspacingMark),
  (0x1CD3, 0x1CD3, otherPunctuation), (0x1CD4, 0x1CE0, nonspacingMark),
  (0x1CE1, 0x1CE1, spacingMark), (0x1CE2, 0x1CE8, nonspacingMark), (0x1CE9, 0x1CEC, otherLetter),
  (0x1CED, 0x1CED, nonspacingMark), (0x1CEE, 0x1CF3, otherLetter),
  (0x1CF4, 0x1CF4, nonspacingMark), (0x1CF5, 0x1CF6, otherLetter), (0x1CF7, 0x1CF7, spacingMark),
  (0x1CF8, 0x1CF9, nonspacingMark), (0x1CFA, 0x1CFA, otherLetter),
  (0x1D00, 0x1D2B, lowercaseLetter), (0x1D2C, 0x1D6A, modifierLetter),
  (0x1D6B, 0x1D77, lowercaseLetter), (0x1D78, 0x1D78, modifierLetter),
  (0x1D79, 0x1D9A, lowercaseLetter), (0x1D9B, 0x1DBF, modifierLetter),
  (0x1DC0, 0x1DFF, nonspacingMark), (0x1E00, 0x1E00, uppercaseLetter),
  (0x1E01, 0x1E01, lowercaseLetter), (0x1E02, 0x1E02, uppercaseLetter),
  (0x1E03, 0x1E03, lowercaseLetter), (0x1E04, 0x1E04, uppercaseLetter),
  (0x1E05, 0x1E05, lowercaseLetter), (0x1E06, 0x1E06, uppercaseLetter),
  (0x1E07, 0x1E07, lowercaseLetter), (0x1E08, 0x1E08, uppercaseLetter),
  (0x1E09, 0x1E09, lowercaseLetter), (0x1E0A, 0x1E0A, uppercaseLetter),
  (0x1E0B, 0x1E0B, lowercaseLetter), (0x1E0C, 0x1E0C, uppercaseLetter),
  (0x1E0D, 0x1E0D, lowercaseLetter), (0x1E0E, 0x1E0E, uppercaseLetter),
  (0x1E0F, 0x1E0F, lowercaseLetter), (0x1E10, 0x1E10, uppercaseLetter),
  (0x1E11, 0x1E11, lowercaseLetter), (0x1E12, 0x1E12, uppercaseLetter),
  (0x1E13, 0x1E13, lowercaseLetter), (0x1E14, 0x1E14, uppercaseLetter),
  (0x1E15, 0x1E15, lowercaseLetter), (0x1E16, 0x1E16, uppercaseLetter),
  (0x1E17, 0x1E17, lowercaseLetter), (0x1E18, 0x1E18, uppercaseLetter),
  (0x1E19, 0x1E19, lowercaseLetter), (0x1E1A, 0x1E1A, uppercaseLetter),
  (0x1E1B, 0x1E1B, lowercaseLetter), (0x1E1C, 0x1E1C, uppercaseLetter),
  (0x1E1D, 0x1E1D, lowercaseLetter), (0x1E1E, 0x1E1E, uppercaseLetter),
  (0x1E1F, 0x1E1F, lowercaseLetter), (0x1E20, 0x1E20, uppercaseLetter),
  (0x1E21, 0x1E21, lowercaseLetter), (0x1E22, 0x1E22, uppercaseLetter),
  (0x1E23, 0x1E23, lowercaseLetter), (0x1E24, 0x1E24, uppercaseLetter),
  (0x1E25, 0x1E25, lowercaseLetter), (0x1E26, 0x1E26, uppercaseLetter),
  (0x1E27, 0x1E27, lowercaseLetter), (0x1E28, 0x1E28, uppercaseLetter),
  (0x1E29, 0x1E29, lowercaseLetter), (0x1E2A, 0x1E2A, uppercaseLetter),
  (0x1E2B, 0x1E2B, lowercaseLetter), (0x1E2C, 0x1E2C, uppercaseLetter),
  (0x1E2D, 0x1E2D, lowercaseLetter), (0x1E2E, 0x1E2E, uppercaseLetter),
  (0x1E2F, 0x1E2F, lowercaseLetter), (0x1E30, 0x1E30, uppercaseLetter),
  (0x1E31, 0x1E31, lowercaseLetter), (0x1E32, 0x1E32, uppercaseLetter),
  (0x1E33, 0x1E33, lowercaseLetter), (0x1E34, 0x1E34, uppercaseLetter),
  (0x1E35, 0x1E35, lowercaseLetter), (0x1E36, 0x1E36, uppercaseLetter),
  (0x1E37, 0x1E37, lowercaseLetter), (0x1E38, 0x1E38, uppercaseLetter),
  (0x1E39, 0x1E39, lowercaseLetter), (0x1E3A, 0x1E3A, uppercaseLetter),
  (0x1E3B, 0x1E3B, lowercaseLetter), (0x1E3C, 0x1E3C, uppercaseLetter),
  (0x1E3D, 0x1E3D, lowercaseLetter), (0x1E3E, 0x1E3E, uppercaseLetter),
  (0x1E3F, 0x1E3F, lowercaseLetter), (0x1E40, 0x1E40, uppercaseLetter),
  (0x1E41, 0x1E41, lowercaseLetter), (0x1E42, 0x1E42, uppercaseLetter),
  (0x1E43, 0x1E43, lowercaseLetter), (0x1E44, 0x1E44, uppercaseLetter),
  (0x1E45, 0x1E45, lowercaseLetter), (0x1E46, 0x1E46, uppercaseLetter),
  (0x1E47, 0x1E47, lowercaseLetter), (0x1E48, 0x1E48, uppercaseLetter),
  (0x1E49, 0x1E49, lowercaseLetter), (0x1E4A, 0x1E4A, uppercaseLetter),
  (0x1E4B, 0x1E4B, lowercaseLetter), (0x1E4C, 0x1E4C, uppercaseLetter),
  (0x1E4D, 0x1E4D, lowercaseLetter), (0x1E4E, 0x1E4E, uppercaseLetter),
  (0x1E4F, 0x1E4F, lowercaseLetter), (0x1E50, 0x1E50, uppercaseLetter),
  (0x1E51, 0x1E51, lowercaseLetter), (0x1E52, 0x1E52, uppercaseLetter),
  (0x1E53, 0x1E53, lowercaseLetter), (0x1E54, 0x1E54, uppercaseLetter),
  (0x1E55, 0x1E55, lowercaseLetter), (0x1E56, 0x1E56, uppercaseLetter),
  (0x1E57, 0x1E57, lowercaseLetter), (0x1E58, 0x1E58, uppercaseLetter),
  (0x1E59, 0x1E59, lowercaseLetter), (0x1E5A, 0x1E5A, uppercaseLetter),
  (0x1E5B, 0x1E5B, lowercaseLetter), (0x1E5C, 0x1E5C, uppercaseLetter),
  (0x1E5D, 0x1E5D, lowercaseLetter), (0x1E5E, 0x1E5E, uppercaseLetter),
  (0x1E5F, 0x1E5F, lowercaseLetter), (0x1E60, 0x1E60, uppercaseLetter),
  (0x1E61, 0x1E61, lowercaseLetter), (0x1E62, 0x1E62, uppercaseLetter),
  (0x1E63, 0x1E63, lowercaseLetter), (0x1E64, 0x1E64, uppercaseLetter),
  (0x1E65, 0x1E65, lowercaseLetter), (0x1E66, 0x1E66, uppercaseLetter),
  (0x1E67, 0x1E67, lowercaseLetter), (0x1E68, 0x1E68, uppercaseLetter),
  (0x1E69, 0x1E69, lowercaseLetter), (0x1E6A, 0x1E6A, uppercaseLetter),
  (0x1E6B, 0x1E6B, lowercaseLetter), (0x1E6C, 0x1E6C, uppercaseLetter),
  (0x1E6D, 0x1E6D, lowercaseLetter), (0x1E6E, 0x1E6E, uppercaseLetter),
  (0x1E6F, 0x1E6F, lowercaseLetter), (0x1E70, 0x1E70, uppercaseLetter),
  (0x1E71, 0x1E71, lowercaseLetter), (0x1E72, 0x1E72, uppercaseLetter),
  (0x1E73, 0x1E73, lowercaseLetter), (0x1E74, 0x1E74, uppercaseLetter),
  (0x1E75, 0x1E75, lowercaseLetter), (0x1E76, 0x1E76, uppercaseLetter),
  (0x1E77, 0x1E77, lowercaseLetter), (0x1E78, 0x1E78, uppercaseLetter),
  (0x1E79, 0x1E79, lowercaseLetter), (0x1E7A, 0x1E7A, uppercaseLetter),
  (0x1E7B, 0x1E7B, lowercaseLetter), (0x1E7C, 0x1E7C, uppercaseLetter),
  (0x1E7D, 0x1E7D, lowercaseLetter), (0x1E7E, 0x1E7E, uppercaseLetter),
  (0x1E7F, 0x1E7F, lowercaseLetter), (0x1E80, 0x1E80, uppercaseLetter),
  (0x1E81, 0x1E81, lowercaseLetter), (0x1E82, 0x1E82, uppercaseLetter),
  (0x1E83, 0x1E83, lowercaseLetter), (0x1E84, 0x1E84, uppercaseLetter),
  (0x1E85, 0x1E85, lowercaseLetter), (0x1E86, 0x1E86, uppercaseLetter),
  (0x1E87, 0x1E87, lowercaseLetter), (0x1E88, 0x1E88, uppercaseLetter),
  (0x1E89, 0x1E89, lowercaseLetter), (0x1E8A, 0x1E8A, uppercaseLetter),
  (0x1E8B, 0x1E8B, lowercaseLetter), (0x1E8C, 0x1E8C, uppercaseLetter),
  (0x1E8D, 0x1E8D, lowercaseLetter), (0x1E8E, 0x1E8E, uppercaseLetter),
  (0x1E8F, 0x1E8F, lowercaseLetter), (0x1E90, 0x1E90, uppercaseLetter),
  (0x1E91, 0x1E91, lowercaseLetter), (0x1E92, 0x1E92, uppercaseLetter),
  (0x1E93, 0x1E93, lowercaseLetter), (0x1E94, 0x1E94, uppercaseLetter),
  (0x1E95, 0x1E9D, lowercaseLetter), (0x1E9E, 0x1E9E, uppercaseLetter),
  (0x1E9F, 0x1E9F, lowercaseLetter), (0x1EA0, 0x1EA0, uppercaseLetter),
  (0x1EA1, 0x1EA1, lowercaseLetter), (0x1EA2, 0x1EA2, uppercaseLetter),
  (0x1EA3, 0x1EA3, lowercaseLetter), (0x1EA4, 0x1EA4, uppercaseLetter),
  (0x1EA5, 0x1EA5, lowercaseLetter), (0x1EA6, 0x1EA6, uppercaseLetter),
  (0x1EA7, 0x1EA7, lowercaseLetter), (0x1EA8, 0x1EA8, uppercaseLetter),
  (0x1EA9, 0x1EA9, lowercaseLetter), (0x1EAA, 0x1EAA, uppercaseLetter),
  (0x1EAB, 0x1EAB, lowercaseLetter), (0x1EAC, 0x1EAC, uppercaseLetter),
  (0x1EAD, 0x1EAD, lowercaseLetter), (0x1EAE, 0x1EAE, uppercaseLetter),
  (0x1EAF, 0x1EAF, lowercaseLetter), (0x1EB0, 0x1EB0, uppercaseLetter),
  (0x1EB1, 0x1EB1, lowercaseLetter), (0x1EB2, 0x1EB2, uppercaseLetter),
  (0x1EB3, 0x1EB3, lowercaseLetter), (0x1EB4, 0x1EB4, uppercaseLetter),
  (0x1EB5, 0x1EB5, lowercaseLetter), (0x1EB6, 0x1EB6, uppercaseLetter),
  (0x1EB7, 0x1EB7, lowercaseLetter), (0x1EB8, 0x1EB8, uppercaseLetter),
  (0x1EB9, 0x1EB9, lowercaseLetter), (0x1EBA, 0x1EBA, uppercaseLetter),
  (0x1EBB, 0x1EBB, lowercaseLetter), (0x1EBC, 0x1EBC, uppercaseLetter),
  (0x1EBD, 0x1EBD, lowercaseLetter), (0x1EBE, 0x1EBE, uppercaseLetter),
  (0x1EBF, 0x1EBF, lowercaseLetter), (0x1EC0, 0x1EC0, uppercaseLetter),
  (0x1EC1, 0x1EC1, lowercaseLetter), (0x1EC2, 0x1EC2, uppercaseLetter),
  (0x1EC3, 0x1EC3, lowercaseLetter), (0x1EC4, 0x1EC4, uppercaseLetter),
  (0x1EC5, 0x1EC5, lowercaseLetter), (0x1EC6, 0x1EC6, uppercaseLetter),
  (0x1EC7, 0x1EC7, lowercaseLetter), (0x1EC8, 0x1EC8, uppercaseLetter),
  (0x1EC9, 0x1EC9, lowercaseLetter), (0x1ECA, 0x1ECA, uppercaseLetter),
  (0x1ECB, 0x1ECB, lowercaseLetter), (0x1ECC, 0x1ECC, uppercaseLetter),
  (0x1ECD, 0x1ECD, lowercaseLetter), (0x1ECE, 0x1ECE, uppercaseLetter),
  (0x1ECF, 0x1ECF, lowercaseLetter), (0x1ED0, 0x1ED0, uppercaseLetter),
  (0x1ED1, 0x1ED1, lowercaseLetter), (0x1ED2, 0x1ED2, uppercaseLetter),
  (0x1ED3, 0x1ED3, lowercaseLetter), (0x1ED4, 0x1ED4, uppercaseLetter),
  (0x1ED5, 0x1ED5, lowercaseLetter), (0x1ED6, 0x1ED6, uppercaseLetter),
  (0x1ED7, 0x1ED7, lowercaseLetter), (0x1ED8, 0x1ED8, uppercaseLetter),
  (0x1ED9, 0x1ED9, lowercaseLetter), (0x1EDA, 0x1EDA, uppercaseLetter),
  (0x1EDB, 0x1EDB, lowercaseLetter), (0x1EDC, 0x1EDC, uppercaseLetter),
  (0x1EDD, 0x1EDD, lowercaseLetter), (0x1EDE, 0x1EDE, uppercaseLetter),
  (0x1EDF, 0x1EDF, lowercaseLetter), (0x1EE0, 0x1EE0, uppercaseLetter),
  (0x1EE1, 0x1EE1, lowercaseLetter), (0x1EE2, 0x1EE2, uppercaseLetter),
  (0x1EE3, 0x1EE3, lowercaseLetter), (0x1EE4, 0x1EE4, uppercaseLetter),
  (0x1EE5, 0x1EE5, lowercaseLetter), (0x1EE6, 0x1EE6, uppercaseLetter),
  (0x1EE7, 0x1EE7, lowercaseLetter), (0x1EE8, 0x1EE8, uppercaseLetter),
  (0x1EE9, 0x1EE9, lowercaseLetter), (0x1EEA, 0x1EEA, uppercaseLetter),
  (0x1EEB, 0x1EEB, lowercaseLetter), (0x1EEC, 0x1EEC, uppercaseLetter),
  (0x1EED, 0x1EED, lowercaseLetter), (0x1EEE, 0x1EEE, uppercaseLetter),
  (0x1EEF, 0x1EEF, lowercaseLetter), (0x1EF0, 0x1EF0, uppercaseLetter),
  (0x1EF1, 0x1EF1, lowercaseLetter), (0x1EF2, 0x1EF2, uppercaseLetter),
  (0x1EF3, 0x1EF3, lowercaseLetter), (0x1EF4, 0x1EF4, uppercaseLetter),
  (0x1EF5, 0x1EF5, lowercaseLetter), (0x1EF6, 0x1EF6, uppercaseLetter),
  (0x1EF7, 0x1EF7, lowercaseLetter), (0x1EF8, 0x1EF8, uppercaseLetter),
  (0x1EF9, 0x1EF9, lowercaseLetter), (0x1EFA, 0x1EFA, uppercaseLetter),
  (0x1EFB, 0x1EFB, lowercaseLetter), (0x1EFC, 0x1EFC, uppercaseLetter),
  (0x1EFD, 0x1EFD, lowercaseLetter), (0x1EFE, 0x1EFE, uppercaseLetter),
  (0x1EFF, 0x1F07, lowercaseLetter), (0x1F08, 0x1F0F, uppercaseLetter),
  (0x1F10, 0x1F15, lowercaseLetter), (0x1F18, 0x1F1D, uppercaseLetter),
  (0x1F20, 0x1F27, lowercaseLetter), (0x1F28, 0x1F2F, uppercaseLetter),
  (0x1F30, 0x1F37, lowercaseLetter), (0x1F38, 0x1F3F, uppercaseLetter),
  (0x1F40, 0x1F45, lowercaseLetter), (0x1F48, 0x1F4D, uppercaseLetter),
  (0x1F50, 0x1F57, lowercaseLetter), (0x1F59, 0x1F59, uppercaseLetter),
  (0x1F5B, 0x1F5B, uppercaseLetter), (0x1F5D, 0x1F5D, uppercaseLetter),
  (0x1F5F, 0x1F5F, uppercaseLetter), (0x1F60, 0x1F67, lowercaseLetter),
  (0x1F68, 0x1F6F, uppercaseLetter), (0x1F70, 0x1F7D, lowercaseLetter),
  (0x1F80, 0x1F87, lowercaseLetter), (0x1F88, 0x1F8F, titlecaseLetter),
  (0x1F90, 0x1F97, lowercaseLetter), (0x1F98, 0x1F9F, titlecaseLetter),
  (0x1FA0, 0x1FA7, lowercaseLetter), (0x1FA8, 0x1FAF, titlecaseLetter),
  (0x1FB0, 0x1FB4, lowercaseLetter), (0x1FB6, 0x1FB7, lowercaseLetter),
  (0x1FB8, 0x1FBB, uppercaseLetter), (0x1FBC, 0x1FBC, titlecaseLetter),
  (0x1FBD, 0x1FBD, modifierSymbol), (0x1FBE, 0x1FBE, lowercaseLetter),
  (0x1FBF, 0x1FC1, modifierSymbol), (0x1FC2, 0x1FC4, lowercaseLetter),
  (0x1FC6, 0x1FC7, lowercaseLetter), (0x1FC8, 0x1FCB, uppercaseLetter),
  (0x1FCC, 0x1FCC, titlecaseLetter), (0x1FCD, 0x1FCF, modifierSymbol),
  (0x1FD0, 0x1FD3, lowercaseLetter), (0x1FD6, 0x1FD7, lowercaseLetter),
  (0x1FD8, 0x1FDB, uppercaseLetter), (0x1FDD, 0x1FDF, modifierSymbol),
  (0x1FE0, 0x1FE7, lowercaseLetter), (0x1FE8, 0x1FEC, uppercaseLetter),
  (0x1FED, 0x1FEF, modifierSymbol), (0x1FF2, 0x1FF4, lowercaseLetter),
  (0x1FF6, 0x1FF7, lowercaseLetter), (0x1FF8, 0x1FFB, uppercaseLetter),
  (0x1FFC, 0x1FFC, titlecaseLetter), (0x1FFD, 0x1FFE, modifierSymbol)]

def page02 : Table := [
  (0x2000, 0x200A, spaceSeparator), (0x200B, 0x200F, format), (0x2010, 0x2015, dashPunctuation),
  (0x2016, 0x2017, otherPunctuation), (0x2018, 0x2018, initialPunctuation),
  (0x2019, 0x2019, finalPunctuation), (0x201A, 0x201A, openPunctuation),
  (0x201B, 0x201C, initialPunctuation), (0x201D, 0x201D, finalPunctuation),
  (0x201E, 0x201E, openPunctuation), (0x201F, 0x201F, initialPunctuation),
  (0x2020, 0x2027, otherPunctuation), (0x2028, 0x2028, lineSeparator),
  (0x2029, 0x2029, paragraphSeparator), (0x202A, 0x202E, format),
  (0x202F, 0x202F, spaceSeparator), (0x2030, 0x2038, otherPunctuation),
  (0x2039, 0x2039, initialPunctuation), (0x203A, 0x203A, finalPunctuation),
  (0x203B, 0x203E, otherPunctuation), (0x203F, 0x2040, connectorPunctuation),
  (0x2041, 0x2043, otherPunctuation), (0x2044, 0x2044, mathSymbol),
  (0x2045, 0x2045, openPunctuation), (0x2046, 0x2046, closePunctuation),
  (0x2047, 0x2051, otherPunctuation), (0x2052, 0x2052, mathSymbol),
  (0x2053, 0x2053, otherPunctuation), (0x2054, 0x2054, connectorPunctuation),
  (0x2055, 0x205E, otherPunctuation), (0x205F, 0x205F, spaceSeparator), (0x2060, 0x2064, format),
  (0x2066, 0x206F, format), (0x2070, 0x2070, otherNumber), (0x2071, 0x2071, modifierLetter),
  (0x2074, 0x2079, otherNumber), (0x207A, 0x207C, mathSymbol), (0x207D, 0x207D, openPunctuation),
  (0x207E, 0x207E, closePunctuation), (0x207F, 0x207F, modifierLetter),
  (0x2080, 0x2089, otherNumber), (0x208A, 0x208C, mathSymbol), (0x208D, 0x208D, openPunctuation),
  (0x208E, 0x208E, closePunctuation), (0x2090, 0x209C, modifierLetter),
  (0x20A0, 0x20C1, currencySymbol), (0x20D0, 0x20DC, nonspacingMark),
  (0x20DD, 0x20E0, enclosingMark), (0x20E1, 0x20E1, nonspacingMark),
  (0x20E2, 0x20E4, enclosingMark), (0x20E5, 0x20F0, nonspacingMark),
  (0x2100, 0x2101, otherSymbol), (0x2102, 0x2102, uppercaseLetter), (0x2103, 0x2106, otherSymbol),
  (0x2107, 0x2107, uppercaseLetter), (0x2108, 0x2109, otherSymbol),
  (0x210A, 0x210A, lowercaseLetter), (0x210B, 0x210D, uppercaseLetter),
  (0x210E, 0x210F, lowercaseLetter), (0x2110, 0x2112, uppercaseLetter),
  (0x2113, 0x2113, lowercaseLetter), (0x2114, 0x2114, otherSymbol),
  (0x2115, 0x2115, uppercaseLetter), (0x2116, 0x2117, otherSymbol), (0x2118, 0x2118, mathSymbol),
  (0x2119, 0x211D, uppercaseLetter), (0x211E, 0x2123, otherSymbol),
  (0x2124, 0x2124, uppercaseLetter), (0x2125, 0x2125, otherSymbol),
  (0x2126, 0x2126, uppercaseLetter), (0x2127, 0x2127, otherSymbol),
  (0x2128, 0x2128, uppercaseLetter), (0x2129, 0x2129, otherSymbol),
  (0x212A, 0x212D, uppercaseLetter), (0x212E, 0x212E, otherSymbol),
  (0x212F, 0x212F, lowercaseLetter), (0x2130, 0x2133, uppercaseLetter),
  (0x2134, 0x2134, lowercaseLetter), (0x2135, 0x2138, otherLetter),
  (0x2139, 0x2139, lowercaseLetter), (0x213A, 0x213B, otherSymbol),
  (0x213C, 0x213D, lowercaseLetter), (0x213E, 0x213F, uppercaseLetter),
  (0x2140, 0x2144, mathSymbol), (0x2145, 0x2145, uppercaseLetter),
  (0x2146, 0x2149, lowercaseLetter), (0x214A, 0x214A, otherSymbol), (0x214B, 0x214B, mathSymbol),
  (0x214C, 0x214D, otherSymbol), (0x214E, 0x214E, lowercaseLetter), (0x214F, 0x214F, otherSymbol),
  (0x2150, 0x215F, otherNumber), (0x2160, 0x2182, letterNumber),
  (0x2183, 0x2183, uppercaseLetter), (0x2184, 0x2184, lowercaseLetter),
  (0x2185, 0x2188, letterNumber), (0x2189, 0x2189, otherNumber), (0x218A, 0x218B, otherSymbol),
  (0x2190, 0x2194, mathSymbol), (0x2195, 0x2199, otherSymbol), (0x219A, 0x219B, mathSymbol),
  (0x219C, 0x219F, otherSymbol), (0x21A0, 0x21A0, mathSymbol), (0x21A1, 0x21A2, otherSymbol),
  (0x21A3, 0x21A3, mathSymbol), (0x21A4, 0x21A5, otherSymbol), (0x21A6, 0x21A6, mathSymbol),
  (0x21A7, 0x21AD, otherSymbol), (0x21AE, 0x21AE, mathSymbol), (0x21AF, 0x21CD, otherSymbol),
  (0x21CE, 0x21CF, mathSymbol), (0x21D0, 0x21D1, otherSymbol), (0x21D2, 0x21D2, mathSymbol),
  (0x21D3, 0x21D3, otherSymbol), (0x21D4, 0x21D4, mathSymbol), (0x21D5, 0x21F3, otherSymbol),
  (0x21F4, 0x22FF, mathSymbol), (0x2300, 0x2307, otherSymbol), (0x2308, 0x2308, openPunctuation),
  (0x2309, 0x2309, closePunctuation), (0x230A, 0x230A, openPunctuation),
  (0x230B, 0x230B, closePunctuation), (0x230C, 0x231F, otherSymbol), (0x2320, 0x2321, mathSymbol),
  (0x2322, 0x2328, otherSymbol), (0x2329, 0x2329, openPunctuation),
  (0x232A, 0x232A, closePunctuation), (0x232B, 0x237B, otherSymbol), (0x237C, 0x237C, mathSymbol),
  (0x237D, 0x239A, otherSymbol), (0x239B, 0x23B3, mathSymbol), (0x23B4, 0x23DB, otherSymbol),
  (0x23DC, 0x23E1, mathSymbol), (0x23E2, 0x2429, otherSymbol), (0x2440, 0x244A, otherSymbol),
  (0x2460, 0x249B, otherNumber), (0x249C, 0x24E9, otherSymbol), (0x24EA, 0x24FF, otherNumber),
  (0x2500, 0x25B6, otherSymbol), (0x25B7, 0x25B7, mathSymbol), (0x25B8, 0x25C0, otherSymbol),
  (0x25C1, 0x25C1, mathSymbol), (0x25C2, 0x25F7, otherSymbol), (0x25F8, 0x25FF, mathSymbol),
  (0x2600, 0x266E, otherSymbol), (0x266F, 0x266F, mathSymbol), (0x2670, 0x2767, otherSymbol),
  (0x2768, 0x2768, openPunctuation), (0x2769, 0x2769, closePunctuation),
  (0x276A, 0x276A, openPunctuation), (0x276B, 0x276B, closePunctuation),
  (0x276C, 0x276C, openPunctuation), (0x276D, 0x276D, closePunctuation),
  (0x276E, 0x276E, openPunctuation), (0x276F, 0x276F, closePunctuation),
  (0x2770, 0x2770, openPunctuation), (0x2771, 0x2771, closePunctuation),
  (0x2772, 0x2772, openPunctuation), (0x2773, 0x2773, closePunctuation),
  (0x2774, 0x2774, openPunctuation), (0x2775, 0x2775, closePunctuation),
  (0x2776, 0x2793, otherNumber), (0x2794, 0x27BF, otherSymbol), (0x27C0, 0x27C4, mathSymbol),
  (0x27C5, 0x27C5, openPunctuation), (0x27C6, 0x27C6, closePunctuation),
  (0x27C7, 0x27E5, mathSymbol), (0x27E6, 0x27E6, openPunctuation),
  (0x27E7, 0x27E7, closePunctuation), (0x27E8, 0x27E8, openPunctuation),
  (0x27E9, 0x27E9, closePunctuation), (0x27EA, 0x27EA, openPunctuation),
  (0x27EB, 0x27EB, closePunctuation), (0x27EC, 0x27EC, openPunctuation),
  (0x27ED, 0x27ED, closePunctuation), (0x27EE, 0x27EE, openPunctuation),
  (0x27EF, 0x27EF, closePunctuation), (0x27F0, 0x27FF, mathSymbol), (0x2800, 0x28FF, otherSymbol),
  (0x2900, 0x2982, mathSymbol), (0x2983, 0x2983, openPunctuation),
  (0x2984, 0x2984, closePunctuation), (0x2985, 0x2985, openPunctuation),
  (0x2986, 0x2986, closePunctuation), (0x2987, 0x2987, openPunctuation),
  (0x2988, 0x2988, closePunctuation), (0x2989, 0x2989, openPunctuation),
  (0x298A, 0x298A, closePunctuation), (0x298B, 0x298B, openPunctuation),
  (0x298C, 0x298C, closePunctuation), (0x298D, 0x298D, openPunctuation),
  (0x298E, 0x298E, closePunctuation), (0x298F, 0x298F, openPunctuation),
  (0x2990, 0x2990, closePunctuation), (0x2991, 0x2991, openPunctuation),
  (0x2992, 0x2992, closePunctuation), (0x2993, 0x2993, openPunctuation),
  (0x2994, 0x2994, closePunctuation), (0x2995, 0x2995, openPunctuation),
  (0x2996, 0x2996, closePunctuation), (0x2997, 0x2997, openPunctuation),
  (0x2998, 0x2998, closePunctuation), (0x2999, 0x29D7, mathSymbol),
  (0x29D8, 0x29D8, openPunctuation), (0x29D9, 0x29D9, closePunctuation),
  (0x29DA, 0x29DA, openPunctuation), (0x29DB, 0x29DB, closePunctuation),
  (0x29DC, 0x29FB, mathSymbol), (0x29FC, 0x29FC, openPunctuation),
  (0x29FD, 0x29FD, closePunctuation), (0x29FE, 0x2AFF, mathSymbol), (0x2B00, 0x2B2F, otherSymbol),
  (0x2B30, 0x2B44, mathSymbol), (0x2B45, 0x2B46, otherSymbol), (0x2B47, 0x2B4C, mathSymbol),
  (0x2B4D, 0x2B73, otherSymbol), (0x2B76, 0x2BFF, otherSymbol), (0x2C00, 0x2C2F, uppercaseLetter),
  (0x2C30, 0x2C5F, lowercaseLetter), (0x2C60, 0x2C60, uppercaseLetter),
  (0x2C61, 0x2C61, lowercaseLetter), (0x2C62, 0x2C64, uppercaseLetter),
  (0x2C65, 0x2C66, lowercaseLetter), (0x2C67, 0x2C67, uppercaseLetter),
  (0x2C68, 0x2C68, lowercaseLetter), (0x2C69, 0x2C69, uppercaseLetter),
  (0x2C6A, 0x2C6A, lowercaseLetter), (0x2C6B, 0x2C6B, uppercaseLetter),
  (0x2C6C, 0x2C6C, lowercaseLetter), (0x2C6D, 0x2C70, uppercaseLetter),
  (0x2C71, 0x2C71, lowercaseLetter), (0x2C72, 0x2C72, uppercaseLetter),
  (0x2C73, 0x2C74, lowercaseLetter), (0x2C75, 0x2C75, uppercaseLetter),
  (0x2C76, 0x2C7B, lowercaseLetter), (0x2C7C, 0x2C7D, modifierLetter),
  (0x2C7E, 0x2C80, uppercaseLetter), (0x2C81, 0x2C81, lowercaseLetter),
  (0x2C82, 0x2C82, uppercaseLetter), (0x2C83, 0x2C83, lowercaseLetter),
  (0x2C84, 0x2C84, uppercaseLetter), (0x2C85, 0x2C85, lowercaseLetter),
  (0x2C86, 0x2C86, uppercaseLetter), (0x2C87, 0x2C87, lowercaseLetter),
  (0x2C88, 0x2C88, uppercaseLetter), (0x2C89, 0x2C89, lowercaseLetter),
  (0x2C8A, 0x2C8A, uppercaseLetter), (0x2C8B, 0x2C8B, lowercaseLetter),
  (0x2C8C, 0x2C8C, uppercaseLetter), (0x2C8D, 0x2C8D, lowercaseLetter),
  (0x2C8E, 0x2C8E, uppercaseLetter), (0x2C8F, 0x2C8F, lowercaseLetter),
  (0x2C90, 0x2C90, uppercaseLetter), (0x2C91, 0x2C91, lowercaseLetter),
  (0x2C92, 0x2C92, uppercaseLetter), (0x2C93, 0x2C93, lowercaseLetter),
  (0x2C94, 0x2C94, uppercaseLetter), (0x2C95, 0x2C95, lowercaseLetter),
  (0x2C96, 0x2C96, uppercaseLetter), (0x2C97, 0x2C97, lowercaseLetter),
  (0x2C98, 0x2C98, uppercaseLetter), (0x2C99, 0x2C99, lowercaseLetter),
  (0x2C9A, 0x2C9A, uppercaseLetter), (0x2C9B, 0x2C9B, lowercaseLetter),
  (0x2C9C, 0x2C9C, uppercaseLetter), (0x2C9D, 0x2C9D, lowercaseLetter),
  (0x2C9E, 0x2C9E, uppercaseLetter), (0x2C9F, 0x2C9F, lowercaseLetter),
  (0x2CA0, 0x2CA0, uppercaseLetter), (0x2CA1, 0x2CA1, lowercaseLetter),
  (0x2CA2, 0x2CA2, uppercaseLetter), (0x2CA3, 0x2CA3, lowercaseLetter),
  (0x2CA4, 0x2CA4, uppercaseLetter), (0x2CA5, 0x2CA5, lowercaseLetter),
  (0x2CA6, 0x2CA6, uppercaseLetter), (0x2CA7, 0x2CA7, lowercaseLetter),
  (0x2CA8, 0x2CA8, uppercaseLetter), (0x2CA9, 0x2CA9, lowercaseLetter),
  (0x2CAA, 0x2CAA, uppercaseLetter), (0x2CAB, 0x2CAB, lowercaseLetter),
  (0x2CAC, 0x2CAC, uppercaseLetter), (0x2CAD, 0x2CAD, lowercaseLetter),
  (0x2CAE, 0x2CAE, uppercaseLetter), (0x2CAF, 0x2CAF, lowercaseLetter),
  (0x2CB0, 0x2CB0, uppercaseLetter), (0x2CB1, 0x2CB1, lowercaseLetter),
  (0x2CB2, 0x2CB2, uppercaseLetter), (0x2CB3, 0x2CB3, lowercaseLetter),
  (0x2CB4, 0x2CB4, uppercaseLetter), (0x2CB5, 0x2CB5, lowercaseLetter),
  (0x2CB6, 0x2CB6, uppercaseLetter), (0x2CB7, 0x2CB7, lowercaseLetter),
  (0x2CB8, 0x2CB8, uppercaseLetter), (0x2CB9, 0x2CB9, lowercaseLetter),
  (0x2CBA, 0x2CBA, uppercaseLetter), (0x2CBB, 0x2CBB, lowercaseLetter),
  (0x2CBC, 0x2CBC, uppercaseLetter), (0x2CBD, 0x2CBD, lowercaseLetter),
  (0x2CBE, 0x2CBE, uppercaseLetter), (0x2CBF, 0x2CBF, lowercaseLetter),
  (0x2CC0, 0x2CC0, uppercaseLetter), (0x2CC1, 0x2CC1, lowercaseLetter),
  (0x2CC2, 0x2CC2, uppercaseLetter), (0x2CC3, 0x2CC3, lowercaseLetter),
  (0x2CC4, 0x2CC4, uppercaseLetter), (0x2CC5, 0x2CC5, lowercaseLetter),
  (0x2CC6, 0x2CC6, uppercaseLetter), (0x2CC7, 0x2CC7, lowercaseLetter),
  (0x2CC8, 0x2CC8, uppercaseLetter), (0x2CC9, 0x2CC9, lowercaseLetter),
  (0x2CCA, 0x2CCA, uppercaseLetter), (0x2CCB, 0x2CCB, lowercaseLetter),
  (0x2CCC, 0x2CCC, uppercaseLetter), (0x2CCD, 0x2CCD, lowercaseLetter),
  (0x2CCE, 0x2CCE, uppercaseLetter), (0x2CCF, 0x2CCF, lowercaseLetter),
  (0x2CD0, 0x2CD0, uppercaseLetter), (0x2CD1, 0x2CD1, lowercaseLetter),
  (0x2CD2, 0x2CD2, uppercaseLetter), (0x2CD3, 0x2CD3, lowercaseLetter),
  (0x2CD4, 0x2CD4, uppercaseLetter), (0x2CD5, 0x2CD5, lowercaseLetter),
  (0x2CD6, 0x2CD6, uppercaseLetter), (0x2CD7, 0x2CD7, lowercaseLetter),
  (0x2CD8, 0x2CD8, uppercaseLetter), (0x2CD9, 0x2CD9, lowercaseLetter),
  (0x2CDA, 0x2CDA, uppercaseLetter), (0x2CDB, 0x2CDB, lowercaseLetter),
  (0x2CDC, 0x2CDC, uppercaseLetter), (0x2CDD, 0x2CDD, lowercaseLetter),
  (0x2CDE, 0x2CDE, uppercaseLetter), (0x2CDF, 0x2CDF, lowercaseLetter),
  (0x2CE0, 0x2CE0, uppercaseLetter), (0x2CE1, 0x2CE1, lowercaseLetter),
  (0x2CE2, 0x2CE2, uppercaseLetter), (0x2CE3, 0x2CE4, lowercaseLetter),
  (0x2CE5, 0x2CEA, otherSymbol), (0x2CEB, 0x2CEB, uppercaseLetter),
  (0x2CEC, 0x2CEC, lowercaseLetter), (0x2CED, 0x2CED, uppercaseLetter),
  (0x2CEE, 0x2CEE, lowercaseLetter), (0x2CEF, 0x2CF1, nonspacingMark),
  (0x2CF2, 0x2CF2, uppercaseLetter), (0x2CF3, 0x2CF3, lowercaseLetter),
  (0x2CF9, 0x2CFC, otherPunctuation), (0x2CFD, 0x2CFD, otherNumber),
  (0x2CFE, 0x2CFF, otherPunctuation), (0x2D00, 0x2D25, lowercaseLetter),
  (0x2D27, 0x2D27, lowercaseLetter), (0x2D2D, 0x2D2D, lowercaseLetter),
  (0x2D30, 0x2D67, otherLetter), (0x2D6F, 0x2D6F, modifierLetter),
  (0x2D70, 0x2D70, otherPunctuation), (0x2D7F, 0x2D7F, nonspacingMark),
  (0x2D80, 0x2D96, otherLetter), (0x2DA0, 0x2DA6, otherLetter), (0x2DA8, 0x2DAE, otherLetter),
  (0x2DB0, 0x2DB6, otherLetter), (0x2DB8, 0x2DBE, otherLetter), (0x2DC0, 0x2DC6, otherLetter),
  (0x2DC8, 0x2DCE, otherLetter), (0x2DD0, 0x2DD6, otherLetter), (0x2DD8, 0x2DDE, otherLetter),
  (0x2DE0, 0x2DFF, nonspacingMark), (0x2E00, 0x2E01, otherPunctuation),
  (0x2E02, 0x2E02, initialPunctuation), (0x2E03, 0x2E03, finalPunctuation),
  (0x2E04, 0x2E04, initialPunctuation), (0x2E05, 0x2E05, finalPunctuation),
  (0x2E06, 0x2E08, otherPunctuation), (0x2E09, 0x2E09, initialPunctuation),
  (0x2E0A, 0x2E0A, finalPunctuation), (0x2E0B, 0x2E0B, otherPunctuation),
  (0x2E0C, 0x2E0C, initialPunctuation), (0x2E0D, 0x2E0D, finalPunctuation),
  (0x2E0E, 0x2E16, otherPunctuation), (0x2E17, 0x2E17, dashPunctuation),
  (0x2E18, 0x2E19, otherPunctuation), (0x2E1A, 0x2E1A, dashPunctuation),
  (0x2E1B, 0x2E1B, otherPunctuation), (0x2E1C, 0x2E1C, initialPunctuation),
  (0x2E1D, 0x2E1D, finalPunctuation), (0x2E1E, 0x2E1F, otherPunctuation),
  (0x2E20, 0x2E20, initialPunctuation), (0x2E21, 0x2E21, finalPunctuation),
  (0x2E22, 0x2E22, openPunctuation), (0x2E23, 0x2E23, closePunctuation),
  (0x2E24, 0x2E24, openPunctuation), (0x2E25, 0x2E25, closePunctuation),
  (0x2E26, 0x2E26, openPunctuation), (0x2E27, 0x2E27, closePunctuation),
  (0x2E28, 0x2E28, openPunctuation), (0x2E29, 0x2E29, closePunctuation),
  (0x2E2A, 0x2E2E, otherPunctuation), (0x2E2F, 0x2E2F, modifierLetter),
  (0x2E30, 0x2E39, otherPunctuation), (0x2E3A, 0x2E3B, dashPunctuation),
  (0x2E3C, 0x2E3F, otherPunctuation), (0x2E40, 0x2E40, dashPunctuation),
  (0x2E41, 0x2E41, otherPunctuation), (0x2E42, 0x2E42, openPunctuation),
  (0x2E43, 0x2E4F, otherPunctuation), (0x2E50, 0x2E51, otherSymbol),
  (0x2E52, 0x2E54, otherPunctuation), (0x2E55, 0x2E55, openPunctuation),
  (0x2E56, 0x2E56, closePunctuation), (0x2E57, 0x2E57, openPunctuation),
  (0x2E58, 0x2E58, closePunctuation), (0x2E59, 0x2E59, openPunctuation),
  (0x2E5A, 0x2E5A, closePunctuation), (0x2E5B, 0x2E5B, openPunctuation),
  (0x2E5C, 0x2E5C, closePunctuation), (0x2E5D, 0x2E5D, dashPunctuation),
  (0x2E80, 0x2E99, otherSymbol), (0x2E9B, 0x2EF3, otherSymbol), (0x2F00, 0x2FD5, otherSymbol),
  (0x2FF0, 0x2FFF, otherSymbol)]

def page03 : Table := [
  (0x3000, 0x3000, spaceSeparator), (0x3001, 0x3003, otherPunctuation),
  (0x3004, 0x3004, otherSymbol), (0x3005, 0x3005, modifierLetter), (0x3006, 0x3006, otherLetter),
  (0x3007, 0x3007, letterNumber), (0x3008, 0x3008, openPunctuation),
  (0x3009, 0x3009, closePunctuation), (0x300A, 0x300A, openPunctuation),
  (0x300B, 0x300B, closePunctuation), (0x300C, 0x300C, openPunctuation),
  (0x300D, 0x300D, closePunctuation), (0x300E, 0x300E, openPunctuation),
  (0x300F, 0x300F, closePunctuation), (0x3010, 0x3010, openPunctuation),
  (0x3011, 0x3011, closePunctuation), (0x3012, 0x3013, otherSymbol),
  (0x3014, 0x3014, openPunctuation), (0x3015, 0x3015, closePunctuation),
  (0x3016, 0x3016, openPunctuation), (0x3017, 0x3017, closePunctuation),
  (0x3018, 0x3018, openPunctuation), (0x3019, 0x3019, closePunctuation),
  (0x301A, 0x301A, openPunctuation), (0x301B, 0x301B, closePunctuation),
  (0x301C, 0x301C, dashPunctuation), (0x301D, 0x301D, openPunctuation),
  (0x301E, 0x301F, closePunctuation), (0x3020, 0x3020, otherSymbol),
  (0x3021, 0x3029, letterNumber), (0x302A, 0x302D, nonspacingMark), (0x302E, 0x302F, spacingMark),
  (0x3030, 0x3030, dashPunctuation), (0x3031, 0x3035, modifierLetter),
  (0x3036, 0x3037, otherSymbol), (0x3038, 0x303A, letterNumber), (0x303B, 0x303B, modifierLetter),
  (0x303C, 0x303C, otherLetter), (0x303D, 0x303D, otherPunctuation),
  (0x303E, 0x303F, otherSymbol), (0x3041, 0x3096, otherLetter), (0x3099, 0x309A, nonspacingMark),
  (0x309B, 0x309C, modifierSymbol), (0x309D, 0x309E, modifierLetter),
  (0x309F, 0x309F, otherLetter), (0x30A0, 0x30A0, dashPunctuation), (0x30A1, 0x30FA, otherLetter),
  (0x30FB, 0x30FB, otherPunctuation), (0x30FC, 0x30FE, modifierLetter),
  (0x30FF, 0x30FF, otherLetter), (0x3105, 0x312F, otherLetter), (0x3131, 0x318E, otherLetter),
  (0x3190, 0x3191, otherSymbol), (0x3192, 0x3195, otherNumber), (0x3196, 0x319F, otherSymbol),
  (0x31A0, 0x31BF, otherLetter), (0x31C0, 0x31E5, otherSymbol), (0x31EF, 0x31EF, otherSymbol),
  (0x31F0, 0x31FF, otherLetter), (0x3200, 0x321E, otherSymbol), (0x3220, 0x3229, otherNumber),
  (0x322A, 0x3247, otherSymbol), (0x3248, 0x324F, otherNumber), (0x3250, 0x3250, otherSymbol),
  (0x3251, 0x325F, otherNumber), (0x3260, 0x327F, otherSymbol), (0x3280, 0x3289, otherNumber),
  (0x328A, 0x32B0, otherSymbol), (0x32B1, 0x32BF, otherNumber), (0x32C0, 0x33FF, otherSymbol),
  (0x3400, 0x3FFF, otherLetter)]

def page04 : Table := [
  (0x4000, 0x4DBF, otherLetter), (0x4DC0, 0x4DFF, otherSymbol), (0x4E00, 0x4FFF, otherLetter)]

def page05 : Table := [
  (0x5000, 0x5FFF, otherLetter)]

def page06 : Table := [
  (0x6000, 0x6FFF, otherLetter)]

def page07 : Table := [
  (0x7000, 0x7FFF, otherLetter)]

def page08 : Table := [
  (0x8000, 0x8FFF, otherLetter)]

def page09 : Table := [
  (0x9000, 0x9FFF, otherLetter)]

def page0A : Table := [
  (0xA000, 0xA014, otherLetter), (0xA015, 0xA015, modifierLetter), (0xA016, 0xA48C, otherLetter),
  (0xA490, 0xA4C6, otherSymbol), (0xA4D0, 0xA4F7, otherLetter), (0xA4F8, 0xA4FD, modifierLetter),
  (0xA4FE, 0xA4FF, otherPunctuation), (0xA500, 0xA60B, otherLetter),
  (0xA60C, 0xA60C, modifierLetter), (0xA60D, 0xA60F, otherPunctuation),
  (0xA610, 0xA61F, otherLetter), (0xA620, 0xA629, decimalNumber), (0xA62A, 0xA62B, otherLetter),
  (0xA640, 0xA640, uppercaseLetter), (0xA641, 0xA641, lowercaseLetter),
  (0xA642, 0xA642, uppercaseLetter), (0xA643, 0xA643, lowercaseLetter),
  (0xA644, 0xA644, uppercaseLetter), (0xA645, 0xA645, lowercaseLetter),
  (0xA646, 0xA646, uppercaseLetter), (0xA647, 0xA647, lowercaseLetter),
  (0xA648, 0xA648, uppercaseLetter), (0xA649, 0xA649, lowercaseLetter),
  (0xA64A, 0xA64A, uppercaseLetter), (0xA64B, 0xA64B, lowercaseLetter),
  (0xA64C, 0xA64C, uppercaseLetter), (0xA64D, 0xA64D, lowercaseLetter),
  (0xA64E, 0xA64E, uppercaseLetter), (0xA64F, 0xA64F, lowercaseLetter),
  (0xA650, 0xA650, uppercaseLetter), (0xA651, 0xA651, lowercaseLetter),
  (0xA652, 0xA652, uppercaseLetter), (0xA653, 0xA653, lowercaseLetter),
  (0xA654, 0xA654, uppercaseLetter), (0xA655, 0xA655, lowercaseLetter),
  (0xA656, 0xA656, uppercaseLetter), (0xA657, 0xA657, lowercaseLetter),
  (0xA658, 0xA658, uppercaseLetter), (0xA659, 0xA659, lowercaseLetter),
  (0xA65A, 0xA65A, uppercaseLetter), (0xA65B, 0xA65B, lowercaseLetter),
  (0xA65C, 0xA65C, uppercaseLetter), (0xA65D, 0xA65D, lowercaseLetter),
  (0xA65E, 0xA65E, uppercaseLetter), (0xA65F, 0xA65F, lowercaseLetter),
  (0xA660, 0xA660, uppercaseLetter), (0xA661, 0xA661, lowercaseLetter),
  (0xA662, 0xA662, uppercaseLetter), (0xA663, 0xA663, lowercaseLetter),
  (0xA664, 0xA664, uppercaseLetter), (0xA665, 0xA665, lowercaseLetter),
  (0xA666, 0xA666, uppercaseLetter), (0xA667, 0xA667, lowercaseLetter),
  (0xA668, 0xA668, uppercaseLetter), (0xA669, 0xA669, lowercaseLetter),
  (0xA66A, 0xA66A, uppercaseLetter), (0xA66B, 0xA66B, lowercaseLetter),
  (0xA66C, 0xA66C, uppercaseLetter), (0xA66D, 0xA66D, lowercaseLetter),
  (0xA66E, 0xA66E, otherLetter), (0xA66F, 0xA66F, nonspacingMark),
  (0xA670, 0xA672, enclosingMark), (0xA673, 0xA673, otherPunctuation),
  (0xA674, 0xA67D, nonspacingMark), (0xA67E, 0xA67E, otherPunctuation),
  (0xA67F, 0xA67F, modifierLetter), (0xA680, 0xA680, uppercaseLetter),
  (0xA681, 0xA681, lowercaseLetter), (0xA682, 0xA682, uppercaseLetter),
  (0xA683, 0xA683, lowercaseLetter), (0xA684, 0xA684, uppercaseLetter),
  (0xA685, 0xA685, lowercaseLetter), (0xA686, 0xA686, uppercaseLetter),
  (0xA687, 0xA687, lowercaseLetter), (0xA688, 0xA688, uppercaseLetter),
  (0xA689, 0xA689, lowercaseLetter), (0xA68A, 0xA68A, uppercaseLetter),
  (0xA68B, 0xA68B, lowercaseLetter), (0xA68C, 0xA68C, uppercaseLetter),
  (0xA68D, 0xA68D, lowercaseLetter), (0xA68E, 0xA68E, uppercaseLetter),
  (0xA68F, 0xA68F, lowercaseLetter), (0xA690, 0xA690, uppercaseLetter),
  (0xA691, 0xA691, lowercaseLetter), (0xA692, 0xA692, uppercaseLetter),
  (0xA693, 0xA693, lowercaseLetter), (0xA694, 0xA694, uppercaseLetter),
  (0xA695, 0xA695, lowercaseLetter), (0xA696, 0xA696, uppercaseLetter),
  (0xA697, 0xA697, lowercaseLetter), (0xA698, 0xA698, uppercaseLetter),
  (0xA699, 0xA699, lowercaseLetter), (0xA69A, 0xA69A, uppercaseLetter),
  (0xA69B, 0xA69B, lowercaseLetter), (0xA69C, 0xA69D, modifierLetter),
  (0xA69E, 0xA69F, nonspacingMark), (0xA6A0, 0xA6E5, otherLetter), (0xA6E6, 0xA6EF, letterNumber),
  (0xA6F0, 0xA6F1, nonspacingMark), (0xA6F2, 0xA6F7, otherPunctuation),
  (0xA700, 0xA716, modifierSymbol), (0xA717, 0xA71F, modifierLetter),
  (0xA720, 0xA721, modifierSymbol), (0xA722, 0xA722, uppercaseLetter),
  (0xA723, 0xA723, lowercaseLetter), (0xA724, 0xA724, uppercaseLetter),
  (0xA725, 0xA725, lowercaseLetter), (0xA726, 0xA726, uppercaseLetter),
  (0xA727, 0xA727, lowercaseLetter), (0xA728, 0xA728, uppercaseLetter),
  (0xA729, 0xA729, lowercaseLetter), (0xA72A, 0xA72A, uppercaseLetter),
  (0xA72B, 0xA72B, lowercaseLetter), (0xA72C, 0xA72C, uppercaseLetter),
  (0xA72D, 0xA72D, lowercaseLetter), (0xA72E, 0xA72E, uppercaseLetter),
  (0xA72F, 0xA731, lowercaseLetter), (0xA732, 0xA732, uppercaseLetter),
  (0xA733, 0xA733, lowercaseLetter), (0xA734, 0xA734, uppercaseLetter),
  (0xA735, 0xA735, lowercaseLetter), (0xA736, 0xA736, uppercaseLetter),
  (0xA737, 0xA737, lowercaseLetter), (0xA738, 0xA738, uppercaseLetter),
  (0xA739, 0xA739, lowercaseLetter), (0xA73A, 0xA73A, uppercaseLetter),
  (0xA73B, 0xA73B, lowercaseLetter), (0xA73C, 0xA73C, uppercaseLetter),
  (0xA73D, 0xA73D, lowercaseLetter), (0xA73E, 0xA73E, uppercaseLetter),
  (0xA73F, 0xA73F, lowercaseLetter), (0xA740, 0xA740, uppercaseLetter),
  (0xA741, 0xA741, lowercaseLetter), (0xA742, 0xA742, uppercaseLetter),
  (0xA743, 0xA743, lowercaseLetter), (0xA744, 0xA744, uppercaseLetter),
  (0xA745, 0xA745, lowercaseLetter), (0xA746, 0xA746, uppercaseLetter),
  (0xA747, 0xA747, lowercaseLetter), (0xA748, 0xA748, uppercaseLetter),
  (0xA749, 0xA749, lowercaseLetter), (0xA74A, 0xA74A, uppercaseLetter),
  (0xA74B, 0xA74B, lowercaseLetter), (0xA74C, 0xA74C, uppercaseLetter),
  (0xA74D, 0xA74D, lowercaseLetter), (0xA74E, 0xA74E, uppercaseLetter),
  (0xA74F, 0xA74F, lowercaseLetter), (0xA750, 0xA750, uppercaseLetter),
  (0xA751, 0xA751, lowercaseLetter), (0xA752, 0xA752, uppercaseLetter),
  (0xA753, 0xA753, lowercaseLetter), (0xA754, 0xA754, uppercaseLetter),
  (0xA755, 0xA755, lowercaseLetter), (0xA756, 0xA756, uppercaseLetter),
  (0xA757, 0xA757, lowercaseLetter), (0xA758, 0xA758, uppercaseLetter),
  (0xA759, 0xA759, lowercaseLetter), (0xA75A, 0xA75A, uppercaseLetter),
  (0xA75B, 0xA75B, lowercaseLetter), (0xA75C, 0xA75C, uppercaseLetter),
  (0xA75D, 0xA75D, lowercaseLetter), (0xA75E, 0xA75E, uppercaseLetter),
  (0xA75F, 0xA75F, lowercaseLetter), (0xA760, 0xA760, uppercaseLetter),
  (0xA761, 0xA761, lowercaseLetter), (0xA762, 0xA762, uppercaseLetter),
  (0xA763, 0xA763, lowercaseLetter), (0xA764, 0xA764, uppercaseLetter),
  (0xA765, 0xA765, lowercaseLetter), (0xA766, 0xA766, uppercaseLetter),
  (0xA767, 0xA767, lowercaseLetter), (0xA768, 0xA768, uppercaseLetter),
  (0xA769, 0xA769, lowercaseLetter), (0xA76A, 0xA76A, uppercaseLetter),
  (0xA76B, 0xA76B, lowercaseLetter), (0xA76C, 0xA76C, uppercaseLetter),
  (0xA76D, 0xA76D, lowercaseLetter), (0xA76E, 0xA76E, uppercaseLetter),
  (0xA76F, 0xA76F, lowercaseLetter), (0xA770, 0xA770, modifierLetter),
  (0xA771, 0xA778, lowercaseLetter), (0xA779, 0xA779, uppercaseLetter),
  (0xA77A, 0xA77A, lowercaseLetter), (0xA77B, 0xA77B, uppercaseLetter),
  (0xA77C, 0xA77C, lowercaseLetter), (0xA77D, 0xA77E, uppercaseLetter),
  (0xA77F, 0xA77F, lowercaseLetter), (0xA780, 0xA780, uppercaseLetter),
  (0xA781, 0xA781, lowercaseLetter), (0xA782, 0xA782, uppercaseLetter),
  (0xA783, 0xA783, lowercaseLetter), (0xA784, 0xA784, uppercaseLetter),
  (0xA785, 0xA785, lowercaseLetter), (0xA786, 0xA786, uppercaseLetter),
  (0xA787, 0xA787, lowercaseLetter), (0xA788, 0xA788, modifierLetter),
  (0xA789, 0xA78A, modifierSymbol), (0xA78B, 0xA78B, uppercaseLetter),
  (0xA78C, 0xA78C, lowercaseLetter), (0xA78D, 0xA78D, uppercaseLetter),
  (0xA78E, 0xA78E, lowercaseLetter), (0xA78F, 0xA78F, otherLetter),
  (0xA790, 0xA790, uppercaseLetter), (0xA791, 0xA791, lowercaseLetter),
  (0xA792, 0xA792, uppercaseLetter), (0xA793, 0xA795, lowercaseLetter),
  (0xA796, 0xA796, uppercaseLetter), (0xA797, 0xA797, lowercaseLetter),
  (0xA798, 0xA798, uppercaseLetter), (0xA799, 0xA799, lowercaseLetter),
  (0xA79A, 0xA79A, uppercaseLetter), (0xA79B, 0xA79B, lowercaseLetter),
  (0xA79C, 0xA79C, uppercaseLetter), (0xA79D, 0xA79D, lowercaseLetter),
  (0xA79E, 0xA79E, uppercaseLetter), (0xA79F, 0xA79F, lowercaseLetter),
  (0xA7A0, 0xA7A0, uppercaseLetter), (0xA7A1, 0xA7A1, lowercaseLetter),
  (0xA7A2, 0xA7A2, uppercaseLetter), (0xA7A3, 0xA7A3, lowercaseLetter),
  (0xA7A4, 0xA7A4, uppercaseLetter), (0xA7A5, 0xA7A5, lowercaseLetter),
  (0xA7A6, 0xA7A6, uppercaseLetter), (0xA7A7, 0xA7A7, lowercaseLetter),
  (0xA7A8, 0xA7A8, uppercaseLetter), (0xA7A9, 0xA7A9, lowercaseLetter),
  (0xA7AA, 0xA7AE, uppercaseLetter), (0xA7AF, 0xA7AF, lowercaseLetter),
  (0xA7B0, 0xA7B4, uppercaseLetter), (0xA7B5, 0xA7B5, lowercaseLetter),
  (0xA7B6, 0xA7B6, uppercaseLetter), (0xA7B7, 0xA7B7, lowercaseLetter),
  (0xA7B8, 0xA7B8, uppercaseLetter), (0xA7B9, 0xA7B9, lowercaseLetter),
  (0xA7BA, 0xA7BA, uppercaseLetter), (0xA7BB, 0xA7BB, lowercaseLetter),
  (0xA7BC, 0xA7BC, uppercaseLetter), (0xA7BD, 0xA7BD, lowercaseLetter),
  (0xA7BE, 0xA7BE, uppercaseLetter), (0xA7BF, 0xA7BF, lowercaseLetter),
  (0xA7C0, 0xA7C0, uppercaseLetter), (0xA7C1, 0xA7C1, lowercaseLetter),
  (0xA7C2, 0xA7C2, uppercaseLetter), (0xA7C3, 0xA7C3, lowercaseLetter),
  (0xA7C4, 0xA7C7, uppercaseLetter), (0xA7C8, 0xA7C8, lowercaseLetter),
  (0xA7C9, 0xA7C9, uppercaseLetter), (0xA7CA, 0xA7CA, lowercaseLetter),
  (0xA7CB, 0xA7CC, uppercaseLetter), (0xA7CD, 0xA7CD, lowercaseLetter),
  (0xA7CE, 0xA7CE, uppercaseLetter), (0xA7CF, 0xA7CF, lowercaseLetter),
  (0xA7D0, 0xA7D0, uppercaseLetter), (0xA7D1, 0xA7D1, lowercaseLetter),
  (0xA7D2, 0xA7D2, uppercaseLetter), (0xA7D3, 0xA7D3, lowercaseLetter),
  (0xA7D4, 0xA7D4, uppercaseLetter), (0xA7D5, 0xA7D5, lowercaseLetter),
  (0xA7D6, 0xA7D6, uppercaseLetter), (0xA7D7, 0xA7D7, lowercaseLetter),
  (0xA7D8, 0xA7D8, uppercaseLetter), (0xA7D9, 0xA7D9, lowercaseLetter),
  (0xA7DA, 0xA7DA, uppercaseLetter), (0xA7DB, 0xA7DB, lowercaseLetter),
  (0xA7DC, 0xA7DC, uppercaseLetter), (0xA7F1, 0xA7F4, modifierLetter),
  (0xA7F5, 0xA7F5, uppercaseLetter), (0xA7F6, 0xA7F6, lowercaseLetter),
  (0xA7F7, 0xA7F7, otherLetter), (0xA7F8, 0xA7F9, modifierLetter),
  (0xA7FA, 0xA7FA, lowercaseLetter), (0xA7FB, 0xA801, otherLetter),
  (0xA802, 0xA802, nonspacingMark), (0xA803, 0xA805, otherLetter),
  (0xA806, 0xA806, nonspacingMark), (0xA807, 0xA80A, otherLetter),
  (0xA80B, 0xA80B, nonspacingMark), (0xA80C, 0xA822, otherLetter), (0xA823, 0xA824, spacingMark),
  (0xA825, 0xA826, nonspacingMark), (0xA827, 0xA827, spacingMark), (0xA828, 0xA82B, otherSymbol),
  (0xA82C, 0xA82C, nonspacingMark), (0xA830, 0xA835, otherNumber), (0xA836, 0xA837, otherSymbol),
  (0xA838, 0xA838, currencySymbol), (0xA839, 0xA839, otherSymbol), (0xA840, 0xA873, otherLetter),
  (0xA874, 0xA877, otherPunctuation), (0xA880, 0xA881, spacingMark),
  (0xA882, 0xA8B3, otherLetter), (0xA8B4, 0xA8C3, spacingMark), (0xA8C4, 0xA8C5, nonspacingMark),
  (0xA8CE, 0xA8CF, otherPunctuation), (0xA8D0, 0xA8D9, decimalNumber),
  (0xA8E0, 0xA8F1, nonspacingMark), (0xA8F2, 0xA8F7, otherLetter),
  (0xA8F8, 0xA8FA, otherPunctuation), (0xA8FB, 0xA8FB, otherLetter),
  (0xA8FC, 0xA8FC, otherPunctuation), (0xA8FD, 0xA8FE, otherLetter),
  (0xA8FF, 0xA8FF, nonspacingMark), (0xA900, 0xA909, decimalNumber),
  (0xA90A, 0xA925, otherLetter), (0xA926, 0xA92D, nonspacingMark),
  (0xA92E, 0xA92F, otherPunctuation), (0xA930, 0xA946, otherLetter),
  (0xA947, 0xA951, nonspacingMark), (0xA952, 0xA953, spacingMark),
  (0xA95F, 0xA95F, otherPunctuation), (0xA960, 0xA97C, otherLetter),
  (0xA980, 0xA982, nonspacingMark), (0xA983, 0xA983, spacingMark), (0xA984, 0xA9B2, otherLetter),
  (0xA9B3, 0xA9B3, nonspacingMark), (0xA9B4, 0xA9B5, spacingMark),
  (0xA9B6, 0xA9B9, nonspacingMark), (0xA9BA, 0xA9BB, spacingMark),
  (0xA9BC, 0xA9BD, nonspacingMark), (0xA9BE, 0xA9C0, spacingMark),
  (0xA9C1, 0xA9CD, otherPunctuation), (0xA9CF, 0xA9CF, modifierLetter),
  (0xA9D0, 0xA9D9, decimalNumber), (0xA9DE, 0xA9DF, otherPunctuation),
  (0xA9E0, 0xA9E4, otherLetter), (0xA9E5, 0xA9E5, nonspacingMark),
  (0xA9E6, 0xA9E6, modifierLetter), (0xA9E7, 0xA9EF, otherLetter),
  (0xA9F0, 0xA9F9, decimalNumber), (0xA9FA, 0xA9FE, otherLetter), (0xAA00, 0xAA28, otherLetter),
  (0xAA29, 0xAA2E, nonspacingMark), (0xAA2F, 0xAA30, spacingMark),
  (0xAA31, 0xAA32, nonspacingMark), (0xAA33, 0xAA34, spacingMark),
  (0xAA35, 0xAA36, nonspacingMark), (0xAA40, 0xAA42, otherLetter),
  (0xAA43, 0xAA43, nonspacingMark), (0xAA44, 0xAA4B, otherLetter),
  (0xAA4C, 0xAA4C, nonspacingMark), (0xAA4D, 0xAA4D, spacingMark),
  (0xAA50, 0xAA59, decimalNumber), (0xAA5C, 0xAA5F, otherPunctuation),
  (0xAA60, 0xAA6F, otherLetter), (0xAA70, 0xAA70, modifierLetter), (0xAA71, 0xAA76, otherLetter),
  (0xAA77, 0xAA79, otherSymbol), (0xAA7A, 0xAA7A, otherLetter), (0xAA7B, 0xAA7B, spacingMark),
  (0xAA7C, 0xAA7C, nonspacingMark), (0xAA7D, 0xAA7D, spacingMark), (0xAA7E, 0xAAAF, otherLetter),
  (0xAAB0, 0xAAB0, nonspacingMark), (0xAAB1, 0xAAB1, otherLetter),
  (0xAAB2, 0xAAB4, nonspacingMark), (0xAAB5, 0xAAB6, otherLetter),
  (0xAAB7, 0xAAB8, nonspacingMark), (0xAAB9, 0xAABD, otherLetter),
  (0xAABE, 0xAABF, nonspacingMark), (0xAAC0, 0xAAC0, otherLetter),
  (0xAAC1, 0xAAC1, nonspacingMark), (0xAAC2, 0xAAC2, otherLetter), (0xAADB, 0xAADC, otherLetter),
  (0xAADD, 0xAADD, modifierLetter), (0xAADE, 0xAADF, otherPunctuation),
  (0xAAE0, 0xAAEA, otherLetter), (0xAAEB, 0xAAEB, spacingMark), (0xAAEC, 0xAAED, nonspacingMark),
  (0xAAEE, 0xAAEF, spacingMark), (0xAAF0, 0xAAF1, otherPunctuation),
  (0xAAF2, 0xAAF2, otherLetter), (0xAAF3, 0xAAF4, modifierLetter), (0xAAF5, 0xAAF5, spacingMark),
  (0xAAF6, 0xAAF6, nonspacingMark), (0xAB01, 0xAB06, otherLetter), (0xAB09, 0xAB0E, otherLetter),
  (0xAB11, 0xAB16, otherLetter), (0xAB20, 0xAB26, otherLetter), (0xAB28, 0xAB2E, otherLetter),
  (0xAB30, 0xAB5A, lowercaseLetter), (0xAB5B, 0xAB5B, modifierSymbol),
  (0xAB5C, 0xAB5F, modifierLetter), (0xAB60, 0xAB68, lowercaseLetter),
  (0xAB69, 0xAB69, modifierLetter), (0xAB6A, 0xAB6B, modifierSymbol),
  (0xAB70, 0xABBF, lowercaseLetter), (0xABC0, 0xABE2, otherLetter), (0xABE3, 0xABE4, spacingMark),
  (0xABE5, 0xABE5, nonspacingMark), (0xABE6, 0xABE7, spacingMark),
  (0xABE8, 0xABE8, nonspacingMark), (0xABE9, 0xABEA, spacingMark),
  (0xABEB, 0xABEB, otherPunctuation), (0xABEC, 0xABEC, spacingMark),
  (0xABED, 0xABED, nonspacingMark), (0xABF0, 0xABF9, decimalNumber),
  (0xAC00, 0xAFFF, otherLetter)]

def page0B : Table := [
  (0xB000, 0xBFFF, otherLetter)]

def page0C : Table := [
  (0xC000, 0xCFFF, otherLetter)]

def page0D : Table := [
  (0xD000, 0xD7A3, otherLetter), (0xD7B0, 0xD7C6, otherLetter), (0xD7CB, 0xD7FB, otherLetter),
  (0xD800, 0xDFFF, surrogate)]

def page0E : Table := [
  (0xE000, 0xEFFF, privateUse)]

def page0F : Table := [
  (0xF000, 0xF8FF, privateUse), (0xF900, 0xFA6D, otherLetter), (0xFA70, 0xFAD9, otherLetter),
  (0xFB00, 0xFB06, lowercaseLetter), (0xFB13, 0xFB17, lowercaseLetter),
  (0xFB1D, 0xFB1D, otherLetter), (0xFB1E, 0xFB1E, nonspacingMark), (0xFB1F, 0xFB28, otherLetter),
  (0xFB29, 0xFB29, mathSymbol), (0xFB2A, 0xFB36, otherLetter), (0xFB38, 0xFB3C, otherLetter),
  (0xFB3E, 0xFB3E, otherLetter), (0xFB40, 0xFB41, otherLetter), (0xFB43, 0xFB44, otherLetter),
  (0xFB46, 0xFBB1, otherLetter), (0xFBB2, 0xFBC2, modifierSymbol), (0xFBC3, 0xFBD2, otherSymbol),
  (0xFBD3, 0xFD3D, otherLetter), (0xFD3E, 0xFD3E, closePunctuation),
  (0xFD3F, 0xFD3F, openPunctuation), (0xFD40, 0xFD4F, otherSymbol), (0xFD50, 0xFD8F, otherLetter),
  (0xFD90, 0xFD91, otherSymbol), (0xFD92, 0xFDC7, otherLetter), (0xFDC8, 0xFDCF, otherSymbol),
  (0xFDF0, 0xFDFB, otherLetter), (0xFDFC, 0xFDFC, currencySymbol), (0xFDFD, 0xFDFF, otherSymbol),
  (0xFE00, 0xFE0F, nonspacingMark), (0xFE10, 0xFE16, otherPunctuation),
  (0xFE17, 0xFE17, openPunctuation), (0xFE18, 0xFE18, closePunctuation),
  (0xFE19, 0xFE19, otherPunctuation), (0xFE20, 0xFE2F, nonspacingMark),
  (0xFE30, 0xFE30, otherPunctuation), (0xFE31, 0xFE32, dashPunctuation),
  (0xFE33, 0xFE34, connectorPunctuation), (0xFE35, 0xFE35, openPunctuation),
  (0xFE36, 0xFE36, closePunctuation), (0xFE37, 0xFE37, openPunctuation),
  (0xFE38, 0xFE38, closePunctuation), (0xFE39, 0xFE39, openPunctuation),
  (0xFE3A, 0xFE3A, closePunctuation), (0xFE3B, 0xFE3B, openPunctuation),
  (0xFE3C, 0xFE3C, closePunctuation), (0xFE3D, 0xFE3D, openPunctuation),
  (0xFE3E, 0xFE3E, closePunctuation), (0xFE3F, 0xFE3F, openPunctuation),
  (0xFE40, 0xFE40, closePunctuation), (0xFE41, 0xFE41, openPunctuation),
  (0xFE42, 0xFE42, closePunctuation), (0xFE43, 0xFE43, openPunctuation),
  (0xFE44, 0xFE44, closePunctuation), (0xFE45, 0xFE46, otherPunctuation),
  (0xFE47, 0xFE47, openPunctuation), (0xFE48, 0xFE48, closePunctuation),
  (0xFE49, 0xFE4C, otherPunctuation), (0xFE4D, 0xFE4F, connectorPunctuation),
  (0xFE50, 0xFE52, otherPunctuation), (0xFE54, 0xFE57, otherPunctuation),
  (0xFE58, 0xFE58, dashPunctuation), (0xFE59, 0xFE59, openPunctuation),
  (0xFE5A, 0xFE5A, closePunctuation), (0xFE5B, 0xFE5B, openPunctuation),
  (0xFE5C, 0xFE5C, closePunctuation), (0xFE5D, 0xFE5D, openPunctuation),
  (0xFE5E, 0xFE5E, closePunctuation), (0xFE5F, 0xFE61, otherPunctuation),
  (0xFE62, 0xFE62, mathSymbol), (0xFE63, 0xFE63, dashPunctuation), (0xFE64, 0xFE66, mathSymbol),
  (0xFE68, 0xFE68, otherPunctuation), (0xFE69, 0xFE69, currencySymbol),
  (0xFE6A, 0xFE6B, otherPunctuation), (0xFE70, 0xFE74, otherLetter),
  (0xFE76, 0xFEFC, otherLetter), (0xFEFF, 0xFEFF, format), (0xFF01, 0xFF03, otherPunctuation),
  (0xFF04, 0xFF04, currencySymbol), (0xFF05, 0xFF07, otherPunctuation),
  (0xFF08, 0xFF08, openPunctuation), (0xFF09, 0xFF09, closePunctuation),
  (0xFF0A, 0xFF0A, otherPunctuation), (0xFF0B, 0xFF0B, mathSymbol),
  (0xFF0C, 0xFF0C, otherPunctuation), (0xFF0D, 0xFF0D, dashPunctuation),
  (0xFF0E, 0xFF0F, otherPunctuation), (0xFF10, 0xFF19, decimalNumber),
  (0xFF1A, 0xFF1B, otherPunctuation), (0xFF1C, 0xFF1E, mathSymbol),
  (0xFF1F, 0xFF20, otherPunctuation), (0xFF21, 0xFF3A, uppercaseLetter),
  (0xFF3B, 0xFF3B, openPunctuation), (0xFF3C, 0xFF3C, otherPunctuation),
  (0xFF3D, 0xFF3D, closePunctuation), (0xFF3E, 0xFF3E, modifierSymbol),
  (0xFF3F, 0xFF3F, connectorPunctuation), (0xFF40, 0xFF40, modifierSymbol),
  (0xFF41, 0xFF5A, lowercaseLetter), (0xFF5B, 0xFF5B, openPunctuation),
  (0xFF5C, 0xFF5C, mathSymbol), (0xFF5D, 0xFF5D, closePunctuation), (0xFF5E, 0xFF5E, mathSymbol),
  (0xFF5F, 0xFF5F, openPunctuation), (0xFF60, 0xFF60, closePunctuation),
  (0xFF61, 0xFF61, otherPunctuation), (0xFF62, 0xFF62, openPunctuation),
  (0xFF63, 0xFF63, closePunctuation), (0xFF64, 0xFF65, otherPunctuation),
  (0xFF66, 0xFF6F, otherLetter), (0xFF70, 0xFF70, modifierLetter), (0xFF71, 0xFF9D, otherLetter),
  (0xFF9E, 0xFF9F, modifierLetter), (0xFFA0, 0xFFBE, otherLetter), (0xFFC2, 0xFFC7, otherLetter),
  (0xFFCA, 0xFFCF, otherLetter), (0xFFD2, 0xFFD7, otherLetter), (0xFFDA, 0xFFDC, otherLetter),
  (0xFFE0, 0xFFE1, currencySymbol), (0xFFE2, 0xFFE2, mathSymbol),
  (0xFFE3, 0xFFE3, modifierSymbol), (0xFFE4, 0xFFE4, otherSymbol),
  (0xFFE5, 0xFFE6, currencySymbol), (0xFFE8, 0xFFE8, otherSymbol), (0xFFE9, 0xFFEC, mathSymbol),
  (0xFFED, 0xFFEE, otherSymbol), (0xFFF9, 0xFFFB, format), (0xFFFC, 0xFFFD, otherSymbol)]

def page10 : Table := [
  (0x10000, 0x1000B, otherLetter), (0x1000D, 0x10026, otherLetter),
  (0x10028, 0x1003A, otherLetter), (0x1003C, 0x1003D, otherLetter),
  (0x1003F, 0x1004D, otherLetter), (0x10050, 0x1005D, otherLetter),
  (0x10080, 0x100FA, otherLetter), (0x10100, 0x10102, otherPunctuation),
  (0x10107, 0x10133, otherNumber), (0x10137, 0x1013F, otherSymbol),
  (0x10140, 0x10174, letterNumber), (0x10175, 0x10178, otherNumber),
  (0x10179, 0x10189, otherSymbol), (0x1018A, 0x1018B, otherNumber),
  (0x1018C, 0x1018E, otherSymbol), (0x10190, 0x1019C, otherSymbol),
  (0x101A0, 0x101A0, otherSymbol), (0x101D0, 0x101FC, otherSymbol),
  (0x101FD, 0x101FD, nonspacingMark), (0x10280, 0x1029C, otherLetter),
  (0x102A0, 0x102D0, otherLetter), (0x102E0, 0x102E0, nonspacingMark),
  (0x102E1, 0x102FB, otherNumber), (0x10300, 0x1031F, otherLetter),
  (0x10320, 0x10323, otherNumber), (0x1032D, 0x10340, otherLetter),
  (0x10341, 0x10341, letterNumber), (0x10342, 0x10349, otherLetter),
  (0x1034A, 0x1034A, letterNumber), (0x10350, 0x10375, otherLetter),
  (0x10376, 0x1037A, nonspacingMark), (0x10380, 0x1039D, otherLetter),
  (0x1039F, 0x1039F, otherPunctuation), (0x103A0, 0x103C3, otherLetter),
  (0x103C8, 0x103CF, otherLetter), (0x103D0, 0x103D0, otherPunctuation),
  (0x103D1, 0x103D5, letterNumber), (0x10400, 0x10427, uppercaseLetter),
  (0x10428, 0x1044F, lowercaseLetter), (0x10450, 0x1049D, otherLetter),
  (0x104A0, 0x104A9, decimalNumber), (0x104B0, 0x104D3, uppercaseLetter),
  (0x104D8, 0x104FB, lowercaseLetter), (0x10500, 0x10527, otherLetter),
  (0x10530, 0x10563, otherLetter), (0x1056F, 0x1056F, otherPunctuation),
  (0x10570, 0x1057A, uppercaseLetter), (0x1057C, 0x1058A, uppercaseLetter),
  (0x1058C, 0x10592, uppercaseLetter), (0x10594, 0x10595, uppercaseLetter),
  (0x10597, 0x105A1, lowercaseLetter), (0x105A3, 0x105B1, lowercaseLetter),
  (0x105B3, 0x105B9, lowercaseLetter), (0x105BB, 0x105BC, lowercaseLetter),
  (0x105C0, 0x105F3, otherLetter), (0x10600, 0x10736, otherLetter),
  (0x10740, 0x10755, otherLetter), (0x10760, 0x10767, otherLetter),
  (0x10780, 0x10785, modifierLetter), (0x10787, 0x107B0, modifierLetter),
  (0x107B2, 0x107BA, modifierLetter), (0x10800, 0x10805, otherLetter),
  (0x10808, 0x10808, otherLetter), (0x1080A, 0x10835, otherLetter),
  (0x10837, 0x10838, otherLetter), (0x1083C, 0x1083C, otherLetter),
  (0x1083F, 0x10855, otherLetter), (0x10857, 0x10857, otherPunctuation),
  (0x10858, 0x1085F, otherNumber), (0x10860, 0x10876, otherLetter),
  (0x10877, 0x10878, otherSymbol), (0x10879, 0x1087F, otherNumber),
  (0x10880, 0x1089E, otherLetter), (0x108A7, 0x108AF, otherNumber),
  (0x108E0, 0x108F2, otherLetter), (0x108F4, 0x108F5, otherLetter),
  (0x108FB, 0x108FF, otherNumber), (0x10900, 0x10915, otherLetter),
  (0x10916, 0x1091B, otherNumber), (0x1091F, 0x1091F, otherPunctuation),
  (0x10920, 0x10939, otherLetter), (0x1093F, 0x1093F, otherPunctuation),
  (0x10940, 0x10959, otherLetter), (0x10980, 0x109B7, otherLetter),
  (0x109BC, 0x109BD, otherNumber), (0x109BE, 0x109BF, otherLetter),
  (0x109C0, 0x109CF, otherNumber), (0x109D2, 0x109FF, otherNumber),
  (0x10A00, 0x10A00, otherLetter), (0x10A01, 0x10A03, nonspacingMark),
  (0x10A05, 0x10A06, nonspacingMark), (0x10A0C, 0x10A0F, nonspacingMark),
  (0x10A10, 0x10A13, otherLetter), (0x10A15, 0x10A17, otherLetter),
  (0x10A19, 0x10A35, otherLetter), (0x10A38, 0x10A3A, nonspacingMark),
  (0x10A3F, 0x10A3F, nonspacingMark), (0x10A40, 0x10A48, otherNumber),
  (0x10A50, 0x10A58, otherPunctuation), (0x10A60, 0x10A7C, otherLetter),
  (0x10A7D, 0x10A7E, otherNumber), (0x10A7F, 0x10A7F, otherPunctuation),
  (0x10A80, 0x10A9C, otherLetter), (0x10A9D, 0x10A9F, otherNumber),
  (0x10AC0, 0x10AC7, otherLetter), (0x10AC8, 0x10AC8, otherSymbol),
  (0x10AC9, 0x10AE4, otherLetter), (0x10AE5, 0x10AE6, nonspacingMark),
  (0x10AEB, 0x10AEF, otherNumber), (0x10AF0, 0x10AF6, otherPunctuation),
  (0x10B00, 0x10B35, otherLetter), (0x10B39, 0x10B3F, otherPunctuation),
  (0x10B40, 0x10B55, otherLetter), (0x10B58, 0x10B5F, otherNumber),
  (0x10B60, 0x10B72, otherLetter), (0x10B78, 0x10B7F, otherNumber),
  (0x10B80, 0x10B91, otherLetter), (0x10B99, 0x10B9C, otherPunctuation),
  (0x10BA9, 0x10BAF, otherNumber), (0x10C00, 0x10C48, otherLetter),
  (0x10C80, 0x10CB2, uppercaseLetter), (0x10CC0, 0x10CF2, lowercaseLetter),
  (0x10CFA, 0x10CFF, otherNumber), (0x10D00, 0x10D23, otherLetter),
  (0x10D24, 0x10D27, nonspacingMark), (0x10D30, 0x10D39, decimalNumber),
  (0x10D40, 0x10D49, decimalNumber), (0x10D4A, 0x10D4D, otherLetter),
  (0x10D4E, 0x10D4E, modifierLetter), (0x10D4F, 0x10D4F, otherLetter),
  (0x10D50, 0x10D65, uppercaseLetter), (0x10D69, 0x10D6D, nonspacingMark),
  (0x10D6E, 0x10D6E, dashPunctuation), (0x10D6F, 0x10D6F, modifierLetter),
  (0x10D70, 0x10D85, lowercaseLetter), (0x10D8E, 0x10D8F, mathSymbol),
  (0x10E60, 0x10E7E, otherNumber), (0x10E80, 0x10EA9, otherLetter),
  (0x10EAB, 0x10EAC, nonspacingMark), (0x10EAD, 0x10EAD, dashPunctuation),
  (0x10EB0, 0x10EB1, otherLetter), (0x10EC2, 0x10EC4, otherLetter),
  (0x10EC5, 0x10EC5, modifierLetter), (0x10EC6, 0x10EC7, otherLetter),
  (0x10ED0, 0x10ED0, otherPunctuation), (0x10ED1, 0x10ED8, otherSymbol),
  (0x10EFA, 0x10EFF, nonspacingMark), (0x10F00, 0x10F1C, otherLetter),
  (0x10F1D, 0x10F26, otherNumber), (0x10F27, 0x10F27, otherLetter),
  (0x10F30, 0x10F45, otherLetter), (0x10F46, 0x10F50, nonspacingMark),
  (0x10F51, 0x10F54, otherNumber), (0x10F55, 0x10F59, otherPunctuation),
  (0x10F70, 0x10F81, otherLetter), (0x10F82, 0x10F85, nonspacingMark),
  (0x10F86, 0x10F89, otherPunctuation), (0x10FB0, 0x10FC4, otherLetter),
  (0x10FC5, 0x10FCB, otherNumber), (0x10FE0, 0x10FF6, otherLetter)]

def page11 : Table := [
  (0x11000, 0x11000, spacingMark), (0x11001, 0x11001, nonspacingMark),
  (0x11002, 0x11002, spacingMark), (0x11003, 0x11037, otherLetter),
  (0x11038, 0x11046, nonspacingMark), (0x11047, 0x1104D, otherPunctuation),
  (0x11052, 0x11065, otherNumber), (0x11066, 0x1106F, decimalNumber),
  (0x11070, 0x11070, nonspacingMark), (0x11071, 0x11072, otherLetter),
  (0x11073, 0x11074, nonspacingMark), (0x11075, 0x11075, otherLetter),
  (0x1107F, 0x11081, nonspacingMark), (0x11082, 0x11082, spacingMark),
  (0x11083, 0x110AF, otherLetter), (0x110B0, 0x110B2, spacingMark),
  (0x110B3, 0x110B6, nonspacingMark), (0x110B7, 0x110B8, spacingMark),
  (0x110B9, 0x110BA, nonspacingMark), (0x110BB, 0x110BC, otherPunctuation),
  (0x110BD, 0x110BD, format), (0x110BE, 0x110C1, otherPunctuation),
  (0x110C2, 0x110C2, nonspacingMark), (0x110CD, 0x110CD, format), (0x110D0, 0x110E8, otherLetter),
  (0x110F0, 0x110F9, decimalNumber), (0x11100, 0x11102, nonspacingMark),
  (0x11103, 0x11126, otherLetter), (0x11127, 0x1112B, nonspacingMark),
  (0x1112C, 0x1112C, spacingMark), (0x1112D, 0x11134, nonspacingMark),
  (0x11136, 0x1113F, decimalNumber), (0x11140, 0x11143, otherPunctuation),
  (0x11144, 0x11144, otherLetter), (0x11145, 0x11146, spacingMark),
  (0x11147, 0x11147, otherLetter), (0x11150, 0x11172, otherLetter),
  (0x11173, 0x11173, nonspacingMark), (0x11174, 0x11175, otherPunctuation),
  (0x11176, 0x11176, otherLetter), (0x11180, 0x11181, nonspacingMark),
  (0x11182, 0x11182, spacingMark), (0x11183, 0x111B2, otherLetter),
  (0x111B3, 0x111B5, spacingMark), (0x111B6, 0x111BE, nonspacingMark),
  (0x111BF, 0x111C0, spacingMark), (0x111C1, 0x111C4, otherLetter),
  (0x111C5, 0x111C8, otherPunctuation), (0x111C9, 0x111CC, nonspacingMark),
  (0x111CD, 0x111CD, otherPunctuation), (0x111CE, 0x111CE, spacingMark),
  (0x111CF, 0x111CF, nonspacingMark), (0x111D0, 0x111D9, decimalNumber),
  (0x111DA, 0x111DA, otherLetter), (0x111DB, 0x111DB, otherPunctuation),
  (0x111DC, 0x111DC, otherLetter), (0x111DD, 0x111DF, otherPunctuation),
  (0x111E1, 0x111F4, otherNumber), (0x11200, 0x11211, otherLetter),
  (0x11213, 0x1122B, otherLetter), (0x1122C, 0x1122E, spacingMark),
  (0x1122F, 0x11231, nonspacingMark), (0x11232, 0x11233, spacingMark),
  (0x11234, 0x11234, nonspacingMark), (0x11235, 0x11235, spacingMark),
  (0x11236, 0x11237, nonspacingMark), (0x11238, 0x1123D, otherPunctuation),
  (0x1123E, 0x1123E, nonspacingMark), (0x1123F, 0x11240, otherLetter),
  (0x11241, 0x11241, nonspacingMark), (0x11280, 0x11286, otherLetter),
  (0x11288, 0x11288, otherLetter), (0x1128A, 0x1128D, otherLetter),
  (0x1128F, 0x1129D, otherLetter), (0x1129F, 0x112A8, otherLetter),
  (0x112A9, 0x112A9, otherPunctuation), (0x112B0, 0x112DE, otherLetter),
  (0x112DF, 0x112DF, nonspacingMark), (0x112E0, 0x112E2, spacingMark),
  (0x112E3, 0x112EA, nonspacingMark), (0x112F0, 0x112F9, decimalNumber),
  (0x11300, 0x11301, nonspacingMark), (0x11302, 0x11303, spacingMark),
  (0x11305, 0x1130C, otherLetter), (0x1130F, 0x11310, otherLetter),
  (0x11313, 0x11328, otherLetter), (0x1132A, 0x11330, otherLetter),
  (0x11332, 0x11333, otherLetter), (0x11335, 0x11339, otherLetter),
  (0x1133B, 0x1133C, nonspacingMark), (0x1133D, 0x1133D, otherLetter),
  (0x1133E, 0x1133F, spacingMark), (0x11340, 0x11340, nonspacingMark),
  (0x11341, 0x11344, spacingMark), (0x11347, 0x11348, spacingMark),
  (0x1134B, 0x1134D, spacingMark), (0x11350, 0x11350, otherLetter),
  (0x11357, 0x11357, spacingMark), (0x1135D, 0x11361, otherLetter),
  (0x11362, 0x11363, spacingMark), (0x11366, 0x1136C, nonspacingMark),
  (0x11370, 0x11374, nonspacingMark), (0x11380, 0x11389, otherLetter),
  (0x1138B, 0x1138B, otherLetter), (0x1138E, 0x1138E, otherLetter),
  (0x11390, 0x113B5, otherLetter), (0x113B7, 0x113B7, otherLetter),
  (0x113B8, 0x113BA, spacingMark), (0x113BB, 0x113C0, nonspacingMark),
  (0x113C2, 0x113C2, spacingMark), (0x113C5, 0x113C5, spacingMark),
  (0x113C7, 0x113CA, spacingMark), (0x113CC, 0x113CD, spacingMark),
  (0x113CE, 0x113CE, nonspacingMark), (0x113CF, 0x113CF, spacingMark),
  (0x113D0, 0x113D0, nonspacingMark), (0x113D1, 0x113D1, otherLetter),
  (0x113D2, 0x113D2, nonspacingMark), (0x113D3, 0x113D3, otherLetter),
  (0x113D4, 0x113D5, otherPunctuation), (0x113D7, 0x113D8, otherPunctuation),
  (0x113E1, 0x113E2, nonspacingMark), (0x11400, 0x11434, otherLetter),
  (0x11435, 0x11437, spacingMark), (0x11438, 0x1143F, nonspacingMark),
  (0x11440, 0x11441, spacingMark), (0x11442, 0x11444, nonspacingMark),
  (0x11445, 0x11445, spacingMark), (0x11446, 0x11446, nonspacingMark),
  (0x11447, 0x1144A, otherLetter), (0x1144B, 0x1144F, otherPunctuation),
  (0x11450, 0x11459, decimalNumber), (0x1145A, 0x1145B, otherPunctuation),
  (0x1145D, 0x1145D, otherPunctuation), (0x1145E, 0x1145E, nonspacingMark),
  (0x1145F, 0x11461, otherLetter), (0x11480, 0x114AF, otherLetter),
  (0x114B0, 0x114B2, spacingMark), (0x114B3, 0x114B8, nonspacingMark),
  (0x114B9, 0x114B9, spacingMark), (0x114BA, 0x114BA, nonspacingMark),
  (0x114BB, 0x114BE, spacingMark), (0x114BF, 0x114C0, nonspacingMark),
  (0x114C1, 0x114C1, spacingMark), (0x114C2, 0x114C3, nonspacingMark),
  (0x114C4, 0x114C5, otherLetter), (0x114C6, 0x114C6, otherPunctuation),
  (0x114C7, 0x114C7, otherLetter), (0x114D0, 0x114D9, decimalNumber),
  (0x11580, 0x115AE, otherLetter), (0x115AF, 0x115B1, spacingMark),
  (0x115B2, 0x115B5, nonspacingMark), (0x115B8, 0x115BB, spacingMark),
  (0x115BC, 0x115BD, nonspacingMark), (0x115BE, 0x115BE, spacingMark),
  (0x115BF, 0x115C0, nonspacingMark), (0x115C1, 0x115D7, otherPunctuation),
  (0x115D8, 0x115DB, otherLetter), (0x115DC, 0x115DD, nonspacingMark),
  (0x11600, 0x1162F, otherLetter), (0x11630, 0x11632, spacingMark),
  (0x11633, 0x1163A, nonspacingMark), (0x1163B, 0x1163C, spacingMark),
  (0x1163D, 0x1163D, nonspacingMark), (0x1163E, 0x1163E, spacingMark),
  (0x1163F, 0x11640, nonspacingMark), (0x11641, 0x11643, otherPunctuation),
  (0x11644, 0x11644, otherLetter), (0x11650, 0x11659, decimalNumber),
  (0x11660, 0x1166C, otherPunctuation), (0x11680, 0x116AA, otherLetter),
  (0x116AB, 0x116AB, nonspacingMark), (0x116AC, 0x116AC, spacingMark),
  (0x116AD, 0x116AD, nonspacingMark), (0x116AE, 0x116AF, spacingMark),
  (0x116B0, 0x116B5, nonspacingMark), (0x116B6, 0x116B6, spacingMark),
  (0x116B7, 0x116B7, nonspacingMark), (0x116B8, 0x116B8, otherLetter),
  (0x116B9, 0x116B9, otherPunctuation), (0x116C0, 0x116C9, decimalNumber),
  (0x116D0, 0x116E3, decimalNumber), (0x11700, 0x1171A, otherLetter),
  (0x1171D, 0x1171D, nonspacingMark), (0x1171E, 0x1171E, spacingMark),
  (0x1171F, 0x1171F, nonspacingMark), (0x11720, 0x11721, spacingMark),
  (0x11722, 0x11725, nonspacingMark), (0x11726, 0x11726, spacingMark),
  (0x11727, 0x1172B, nonspacingMark), (0x11730, 0x11739, decimalNumber),
  (0x1173A, 0x1173B, otherNumber), (0x1173C, 0x1173E, otherPunctuation),
  (0x1173F, 0x1173F, otherSymbol), (0x11740, 0x11746, otherLetter),
  (0x11800, 0x1182B, otherLetter), (0x1182C, 0x1182E, spacingMark),
  (0x1182F, 0x11837, nonspacingMark), (0x11838, 0x11838, spacingMark),
  (0x11839, 0x1183A, nonspacingMark), (0x1183B, 0x1183B, otherPunctuation),
  (0x118A0, 0x118BF, uppercaseLetter), (0x118C0, 0x118DF, lowercaseLetter),
  (0x118E0, 0x118E9, decimalNumber), (0x118EA, 0x118F2, otherNumber),
  (0x118FF, 0x11906, otherLetter), (0x11909, 0x11909, otherLetter),
  (0x1190C, 0x11913, otherLetter), (0x11915, 0x11916, otherLetter),
  (0x11918, 0x1192F, otherLetter), (0x11930, 0x11935, spacingMark),
  (0x11937, 0x11938, spacingMark), (0x1193B, 0x1193C, nonspacingMark),
  (0x1193D, 0x1193D, spacingMark), (0x1193E, 0x1193E, nonspacingMark),
  (0x1193F, 0x1193F, otherLetter), (0x11940, 0x11940, spacingMark),
  (0x11941, 0x11941, otherLetter), (0x11942, 0x11942, spacingMark),
  (0x11943, 0x11943, nonspacingMark), (0x11944, 0x11946, otherPunctuation),
  (0x11950, 0x11959, decimalNumber), (0x119A0, 0x119A7, otherLetter),
  (0x119AA, 0x119D0, otherLetter), (0x119D1, 0x119D3, spacingMark),
  (0x119D4, 0x119D7, nonspacingMark), (0x119DA, 0x119DB, nonspacingMark),
  (0x119DC, 0x119DF, spacingMark), (0x119E0, 0x119E0, nonspacingMark),
  (0x119E1, 0x119E1, otherLetter), (0x119E2, 0x119E2, otherPunctuation),
  (0x119E3, 0x119E3, otherLetter), (0x119E4, 0x119E4, spacingMark),
  (0x11A00, 0x11A00, otherLetter), (0x11A01, 0x11A0A, nonspacingMark),
  (0x11A0B, 0x11A32, otherLetter), (0x11A33, 0x11A38, nonspacingMark),
  (0x11A39, 0x11A39, spacingMark), (0x11A3A, 0x11A3A, otherLetter),
  (0x11A3B, 0x11A3E, nonspacingMark), (0x11A3F, 0x11A46, otherPunctuation),
  (0x11A47, 0x11A47, nonspacingMark), (0x11A50, 0x11A50, otherLetter),
  (0x11A51, 0x11A56, nonspacingMark), (0x11A57, 0x11A58, spacingMark),
  (0x11A59, 0x11A5B, nonspacingMark), (0x11A5C, 0x11A89, otherLetter),
  (0x11A8A, 0x11A96, nonspacingMark), (0x11A97, 0x11A97, spacingMark),
  (0x11A98, 0x11A99, nonspacingMark), (0x11A9A, 0x11A9C, otherPunctuation),
  (0x11A9D, 0x11A9D, otherLetter), (0x11A9E, 0x11AA2, otherPunctuation),
  (0x11AB0, 0x11AF8, otherLetter), (0x11B00, 0x11B09, otherPunctuation),
  (0x11B60, 0x11B60, nonspacingMark), (0x11B61, 0x11B61, spacingMark),
  (0x11B62, 0x11B64, nonspacingMark), (0x11B65, 0x11B65, spacingMark),
  (0x11B66, 0x11B66, nonspacingMark), (0x11B67, 0x11B67, spacingMark),
  (0x11BC0, 0x11BE0, otherLetter), (0x11BE1, 0x11BE1, otherPunctuation),
  (0x11BF0, 0x11BF9, decimalNumber), (0x11C00, 0x11C08, otherLetter),
  (0x11C0A, 0x11C2E, otherLetter), (0x11C2F, 0x11C2F, spacingMark),
  (0x11C30, 0x11C36, nonspacingMark), (0x11C38, 0x11C3D, nonspacingMark),
  (0x11C3E, 0x11C3E, spacingMark), (0x11C3F, 0x11C3F, nonspacingMark),
  (0x11C40, 0x11C40, otherLetter), (0x11C41, 0x11C45, otherPunctuation),
  (0x11C50, 0x11C59, decimalNumber), (0x11C5A, 0x11C6C, otherNumber),
  (0x11C70, 0x11C71, otherPunctuation), (0x11C72, 0x11C8F, otherLetter),
  (0x11C92, 0x11CA7, nonspacingMark), (0x11CA9, 0x11CA9, spacingMark),
  (0x11CAA, 0x11CB0, nonspacingMark), (0x11CB1, 0x11CB1, spacingMark),
  (0x11CB2, 0x11CB3, nonspacingMark), (0x11CB4, 0x11CB4, spacingMark),
  (0x11CB5, 0x11CB6, nonspacingMark), (0x11D00, 0x11D06, otherLetter),
  (0x11D08, 0x11D09, otherLetter), (0x11D0B, 0x11D30, otherLetter),
  (0x11D31, 0x11D36, nonspacingMark), (0x11D3A, 0x11D3A, nonspacingMark),
  (0x11D3C, 0x11D3D, nonspacingMark), (0x11D3F, 0x11D45, nonspacingMark),
  (0x11D46, 0x11D46, otherLetter), (0x11D47, 0x11D47, nonspacingMark),
  (0x11D50, 0x11D59, decimalNumber), (0x11D60, 0x11D65, otherLetter),
  (0x11D67, 0x11D68, otherLetter), (0x11D6A, 0x11D89, otherLetter),
  (0x11D8A, 0x11D8E, spacingMark), (0x11D90, 0x11D91, nonspacingMark),
  (0x11D93, 0x11D94, spacingMark), (0x11D95, 0x11D95, nonspacingMark),
  (0x11D96, 0x11D96, spacingMark), (0x11D97, 0x11D97, nonspacingMark),
  (0x11D98, 0x11D98, otherLetter), (0x11DA0, 0x11DA9, decimalNumber),
  (0x11DB0, 0x11DD8, otherLetter), (0x11DD9, 0x11DD9, modifierLetter),
  (0x11DDA, 0x11DDB, otherLetter), (0x11DE0, 0x11DE9, decimalNumber),
  (0x11EE0, 0x11EF2, otherLetter), (0x11EF3, 0x11EF4, nonspacingMark),
  (0x11EF5, 0x11EF6, spacingMark), (0x11EF7, 0x11EF8, otherPunctuation),
  (0x11F00, 0x11F01, nonspacingMark), (0x11F02, 0x11F02, otherLetter),
  (0x11F03, 0x11F03, spacingMark), (0x11F04, 0x11F10, otherLetter),
  (0x11F12, 0x11F33, otherLetter), (0x11F34, 0x11F35, spacingMark),
  (0x11F36, 0x11F3A, nonspacingMark), (0x11F3E, 0x11F3F, spacingMark),
  (0x11F40, 0x11F40, nonspacingMark), (0x11F41, 0x11F41, spacingMark),
  (0x11F42, 0x11F42, nonspacingMark), (0x11F43, 0x11F4F, otherPunctuation),
  (0x11F50, 0x11F59, decimalNumber), (0x11F5A, 0x11F5A, nonspacingMark),
  (0x11FB0, 0x11FB0, otherLetter), (0x11FC0, 0x11FD4, otherNumber),
  (0x11FD5, 0x11FDC, otherSymbol), (0x11FDD, 0x11FE0, currencySymbol),
  (0x11FE1, 0x11FF1, otherSymbol), (0x11FFF, 0x11FFF, otherPunctuation)]

def page12 : Table := [
  (0x12000, 0x12399, otherLetter), (0x12400, 0x1246E, letterNumber),
  (0x12470, 0x12474, otherPunctuation), (0x12480, 0x12543, otherLetter),
  (0x12F90, 0x12FF0, otherLetter), (0x12FF1, 0x12FF2, otherPunctuation)]

def page13 : Table := [
  (0x13000, 0x1342F, otherLetter), (0x13430, 0x1343F, format), (0x13440, 0x13440, nonspacingMark),
  (0x13441, 0x13446, otherLetter), (0x13447, 0x13455, nonspacingMark),
  (0x13460, 0x13FFF, otherLetter)]

def page14 : Table := [
  (0x14000, 0x143FA, otherLetter), (0x14400, 0x14646, otherLetter)]

def page16 : Table := [
  (0x16100, 0x1611D, otherLetter), (0x1611E, 0x16129, nonspacingMark),
  (0x1612A, 0x1612C, spacingMark), (0x1612D, 0x1612F, nonspacingMark),
  (0x16130, 0x16139, decimalNumber), (0x16800, 0x16A38, otherLetter),
  (0x16A40, 0x16A5E, otherLetter), (0x16A60, 0x16A69, decimalNumber),
  (0x16A6E, 0x16A6F, otherPunctuation), (0x16A70, 0x16ABE, otherLetter),
  (0x16AC0, 0x16AC9, decimalNumber), (0x16AD0, 0x16AED, otherLetter),
  (0x16AF0, 0x16AF4, nonspacingMark), (0x16AF5, 0x16AF5, otherPunctuation),
  (0x16B00, 0x16B2F, otherLetter), (0x16B30, 0x16B36, nonspacingMark),
  (0x16B37, 0x16B3B, otherPunctuation), (0x16B3C, 0x16B3F, otherSymbol),
  (0x16B40, 0x16B43, modifierLetter), (0x16B44, 0x16B44, otherPunctuation),
  (0x16B45, 0x16B45, otherSymbol), (0x16B50, 0x16B59, decimalNumber),
  (0x16B5B, 0x16B61, otherNumber), (0x16B63, 0x16B77, otherLetter),
  (0x16B7D, 0x16B8F, otherLetter), (0x16D40, 0x16D42, modifierLetter),
  (0x16D43, 0x16D6A, otherLetter), (0x16D6B, 0x16D6C, modifierLetter),
  (0x16D6D, 0x16D6F, otherPunctuation), (0x16D70, 0x16D79, decimalNumber),
  (0x16E40, 0x16E5F, uppercaseLetter), (0x16E60, 0x16E7F, lowercaseLetter),
  (0x16E80, 0x16E96, otherNumber), (0x16E97, 0x16E9A, otherPunctuation),
  (0x16EA0, 0x16EB8, uppercaseLetter), (0x16EBB, 0x16ED3, lowercaseLetter),
  (0x16F00, 0x16F4A, otherLetter), (0x16F4F, 0x16F4F, nonspacingMark),
  (0x16F50, 0x16F50, otherLetter), (0x16F51, 0x16F87, spacingMark),
  (0x16F8F, 0x16F92, nonspacingMark), (0x16F93, 0x16F9F, modifierLetter),
  (0x16FE0, 0x16FE1, modifierLetter), (0x16FE2, 0x16FE2, otherPunctuation),
  (0x16FE3, 0x16FE3, modifierLetter), (0x16FE4, 0x16FE4, nonspacingMark),
  (0x16FF0, 0x16FF1, spacingMark), (0x16FF2, 0x16FF3, modifierLetter),
  (0x16FF4, 0x16FF6, letterNumber)]

def page17 : Table := [
  (0x17000, 0x17FFF, otherLetter)]

def page18 : Table := [
  (0x18000, 0x18CD5, otherLetter), (0x18CFF, 0x18D1E, otherLetter),
  (0x18D80, 0x18DF2, otherLetter)]

def page1A : Table := [
  (0x1AFF0, 0x1AFF3, modifierLetter), (0x1AFF5, 0x1AFFB, modifierLetter),
  (0x1AFFD, 0x1AFFE, modifierLetter)]

def page1B : Table := [
  (0x1B000, 0x1B122, otherLetter), (0x1B132, 0x1B132, otherLetter),
  (0x1B150, 0x1B152, otherLetter), (0x1B155, 0x1B155, otherLetter),
  (0x1B164, 0x1B167, otherLetter), (0x1B170, 0x1B2FB, otherLetter),
  (0x1BC00, 0x1BC6A, otherLetter), (0x1BC70, 0x1BC7C, otherLetter),
  (0x1BC80, 0x1BC88, otherLetter), (0x1BC90, 0x1BC99, otherLetter),
  (0x1BC9C, 0x1BC9C, otherSymbol), (0x1BC9D, 0x1BC9E, nonspacingMark),
  (0x1BC9F, 0x1BC9F, otherPunctuation), (0x1BCA0, 0x1BCA3, format)]

def page1C : Table := [
  (0x1CC00, 0x1CCEF, otherSymbol), (0x1CCF0, 0x1CCF9, decimalNumber),
  (0x1CCFA, 0x1CCFC, otherSymbol), (0x1CD00, 0x1CEB3, otherSymbol),
  (0x1CEBA, 0x1CED0, otherSymbol), (0x1CEE0, 0x1CEEF, otherSymbol),
  (0x1CEF0, 0x1CEF0, mathSymbol), (0x1CF00, 0x1CF2D, nonspacingMark),
  (0x1CF30, 0x1CF46, nonspacingMark), (0x1CF50, 0x1CFC3, otherSymbol)]

def page1D : Table := [
  (0x1D000, 0x1D0F5, otherSymbol), (0x1D100, 0x1D126, otherSymbol),
  (0x1D129, 0x1D164, otherSymbol), (0x1D165, 0x1D166, spacingMark),
  (0x1D167, 0x1D169, nonspacingMark), (0x1D16A, 0x1D16C, otherSymbol),
  (0x1D16D, 0x1D172, spacingMark), (0x1D173, 0x1D17A, format), (0x1D17B, 0x1D182, nonspacingMark),
  (0x1D183, 0x1D184, otherSymbol), (0x1D185, 0x1D18B, nonspacingMark),
  (0x1D18C, 0x1D1A9, otherSymbol), (0x1D1AA, 0x1D1AD, nonspacingMark),
  (0x1D1AE, 0x1D1EA, otherSymbol), (0x1D200, 0x1D241, otherSymbol),
  (0x1D242, 0x1D244, nonspacingMark), (0x1D245, 0x1D245, otherSymbol),
  (0x1D2C0, 0x1D2D3, otherNumber), (0x1D2E0, 0x1D2F3, otherNumber),
  (0x1D300, 0x1D356, otherSymbol), (0x1D360, 0x1D378, otherNumber),
  (0x1D400, 0x1D419, uppercaseLetter), (0x1D41A, 0x1D433, lowercaseLetter),
  (0x1D434, 0x1D44D, uppercaseLetter), (0x1D44E, 0x1D454, lowercaseLetter),
  (0x1D456, 0x1D467, lowercaseLetter), (0x1D468, 0x1D481, uppercaseLetter),
  (0x1D482, 0x1D49B, lowercaseLetter), (0x1D49C, 0x1D49C, uppercaseLetter),
  (0x1D49E, 0x1D49F, uppercaseLetter), (0x1D4A2, 0x1D4A2, uppercaseLetter),
  (0x1D4A5, 0x1D4A6, uppercaseLetter), (0x1D4A9, 0x1D4AC, uppercaseLetter),
  (0x1D4AE, 0x1D4B5, uppercaseLetter), (0x1D4B6, 0x1D4B9, lowercaseLetter),
  (0x1D4BB, 0x1D4BB, lowercaseLetter), (0x1D4BD, 0x1D4C3, lowercaseLetter),
  (0x1D4C5, 0x1D4CF, lowercaseLetter), (0x1D4D0, 0x1D4E9, uppercaseLetter),
  (0x1D4EA, 0x1D503, lowercaseLetter), (0x1D504, 0x1D505, uppercaseLetter),
  (0x1D507, 0x1D50A, uppercaseLetter), (0x1D50D, 0x1D514, uppercaseLetter),
  (0x1D516, 0x1D51C, uppercaseLetter), (0x1D51E, 0x1D537, lowercaseLetter),
  (0x1D538, 0x1D539, uppercaseLetter), (0x1D53B, 0x1D53E, uppercaseLetter),
  (0x1D540, 0x1D544, uppercaseLetter), (0x1D546, 0x1D546, uppercaseLetter),
  (0x1D54A, 0x1D550, uppercaseLetter), (0x1D552, 0x1D56B, lowercaseLetter),
  (0x1D56C, 0x1D585, uppercaseLetter), (0x1D586, 0x1D59F, lowercaseLetter),
  (0x1D5A0, 0x1D5B9, uppercaseLetter), (0x1D5BA, 0x1D5D3, lowercaseLetter),
  (0x1D5D4, 0x1D5ED, uppercaseLetter), (0x1D5EE, 0x1D607, lowercaseLetter),
  (0x1D608, 0x1D621, uppercaseLetter), (0x1D622, 0x1D63B, lowercaseLetter),
  (0x1D63C, 0x1D655, uppercaseLetter), (0x1D656, 0x1D66F, lowercaseLetter),
  (0x1D670, 0x1D689, uppercaseLetter), (0x1D68A, 0x1D6A5, lowercaseLetter),
  (0x1D6A8, 0x1D6C0, uppercaseLetter), (0x1D6C1, 0x1D6C1, mathSymbol),
  (0x1D6C2, 0x1D6DA, lowercaseLetter), (0x1D6DB, 0x1D6DB, mathSymbol),
  (0x1D6DC, 0x1D6E1, lowercaseLetter), (0x1D6E2, 0x1D6FA, uppercaseLetter),
  (0x1D6FB, 0x1D6FB, mathSymbol), (0x1D6FC, 0x1D714, lowercaseLetter),
  (0x1D715, 0x1D715, mathSymbol), (0x1D716, 0x1D71B, lowercaseLetter),
  (0x1D71C, 0x1D734, uppercaseLetter), (0x1D735, 0x1D735, mathSymbol),
  (0x1D736, 0x1D74E, lowercaseLetter), (0x1D74F, 0x1D74F, mathSymbol),
  (0x1D750, 0x1D755, lowercaseLetter), (0x1D756, 0x1D76E, uppercaseLetter),
  (0x1D76F, 0x1D76F, mathSymbol), (0x1D770, 0x1D788, lowercaseLetter),
  (0x1D789, 0x1D789, mathSymbol), (0x1D78A, 0x1D78F, lowercaseLetter),
  (0x1D790, 0x1D7A8, uppercaseLetter), (0x1D7A9, 0x1D7A9, mathSymbol),
  (0x1D7AA, 0x1D7C2, lowercaseLetter), (0x1D7C3, 0x1D7C3, mathSymbol),
  (0x1D7C4, 0x1D7C9, lowercaseLetter), (0x1D7CA, 0x1D7CA, uppercaseLetter),
  (0x1D7CB, 0x1D7CB, lowercaseLetter), (0x1D7CE, 0x1D7FF, decimalNumber),
  (0x1D800, 0x1D9FF, otherSymbol), (0x1DA00, 0x1DA36, nonspacingMark),
  (0x1DA37, 0x1DA3A, otherSymbol), (0x1DA3B, 0x1DA6C, nonspacingMark),
  (0x1DA6D, 0x1DA74, otherSymbol), (0x1DA75, 0x1DA75, nonspacingMark),
  (0x1DA76, 0x1DA83, otherSymbol), (0x1DA84, 0x1DA84, nonspacingMark),
  (0x1DA85, 0x1DA86, otherSymbol), (0x1DA87, 0x1DA8B, otherPunctuation),
  (0x1DA9B, 0x1DA9F, nonspacingMark), (0x1DAA1, 0x1DAAF, nonspacingMark),
  (0x1DF00, 0x1DF09, lowercaseLetter), (0x1DF0A, 0x1DF0A, otherLetter),
  (0x1DF0B, 0x1DF1E, lowercaseLetter), (0x1DF25, 0x1DF2A, lowercaseLetter)]

def page1E : Table := [
  (0x1E000, 0x1E006, nonspacingMark), (0x1E008, 0x1E018, nonspacingMark),
  (0x1E01B, 0x1E021, nonspacingMark), (0x1E023, 0x1E024, nonspacingMark),
  (0x1E026, 0x1E02A, nonspacingMark), (0x1E030, 0x1E06D, modifierLetter),
  (0x1E08F, 0x1E08F, nonspacingMark), (0x1E100, 0x1E12C, otherLetter),
  (0x1E130, 0x1E136, nonspacingMark), (0x1E137, 0x1E13D, modifierLetter),
  (0x1E140, 0x1E149, decimalNumber), (0x1E14E, 0x1E14E, otherLetter),
  (0x1E14F, 0x1E14F, otherSymbol), (0x1E290, 0x1E2AD, otherLetter),
  (0x1E2AE, 0x1E2AE, nonspacingMark), (0x1E2C0, 0x1E2EB, otherLetter),
  (0x1E2EC, 0x1E2EF, nonspacingMark), (0x1E2F0, 0x1E2F9, decimalNumber),
  (0x1E2FF, 0x1E2FF, currencySymbol), (0x1E4D0, 0x1E4EA, otherLetter),
  (0x1E4EB, 0x1E4EB, modifierLetter), (0x1E4EC, 0x1E4EF, nonspacingMark),
  (0x1E4F0, 0x1E4F9, decimalNumber), (0x1E5D0, 0x1E5ED, otherLetter),
  (0x1E5EE, 0x1E5EF, nonspacingMark), (0x1E5F0, 0x1E5F0, otherLetter),
  (0x1E5F1, 0x1E5FA, decimalNumber), (0x1E5FF, 0x1E5FF, otherPunctuation),
  (0x1E6C0, 0x1E6DE, otherLetter), (0x1E6E0, 0x1E6E2, otherLetter),
  (0x1E6E3, 0x1E6E3, nonspacingMark), (0x1E6E4, 0x1E6E5, otherLetter),
  (0x1E6E6, 0x1E6E6, nonspacingMark), (0x1E6E7, 0x1E6ED, otherLetter),
  (0x1E6EE, 0x1E6EF, nonspacingMark), (0x1E6F0, 0x1E6F4, otherLetter),
  (0x1E6F5, 0x1E6F5, nonspacingMark), (0x1E6FE, 0x1E6FE, otherLetter),
  (0x1E6FF, 0x1E6FF, modifierLetter), (0x1E7E0, 0x1E7E6, otherLetter),
  (0x1E7E8, 0x1E7EB, otherLetter), (0x1E7ED, 0x1E7EE, otherLetter),
  (0x1E7F0, 0x1E7FE, otherLetter), (0x1E800, 0x1E8C4, otherLetter),
  (0x1E8C7, 0x1E8CF, otherNumber), (0x1E8D0, 0x1E8D6, nonspacingMark),
  (0x1E900, 0x1E921, uppercaseLetter), (0x1E922, 0x1E943, lowercaseLetter),
  (0x1E944, 0x1E94A, nonspacingMark), (0x1E94B, 0x1E94B, modifierLetter),
  (0x1E950, 0x1E959, decimalNumber), (0x1E95E, 0x1E95F, otherPunctuation),
  (0x1EC71, 0x1ECAB, otherNumber), (0x1ECAC, 0x1ECAC, otherSymbol),
  (0x1ECAD, 0x1ECAF, otherNumber), (0x1ECB0, 0x1ECB0, currencySymbol),
  (0x1ECB1, 0x1ECB4, otherNumber), (0x1ED01, 0x1ED2D, otherNumber),
  (0x1ED2E, 0x1ED2E, otherSymbol), (0x1ED2F, 0x1ED3D, otherNumber),
  (0x1EE00, 0x1EE03, otherLetter), (0x1EE05, 0x1EE1F, otherLetter),
  (0x1EE21, 0x1EE22, otherLetter), (0x1EE24, 0x1EE24, otherLetter),
  (0x1EE27, 0x1EE27, otherLetter), (0x1EE29, 0x1EE32, otherLetter),
  (0x1EE34, 0x1EE37, otherLetter), (0x1EE39, 0x1EE39, otherLetter),
  (0x1EE3B, 0x1EE3B, otherLetter), (0x1EE42, 0x1EE42, otherLetter),
  (0x1EE47, 0x1EE47, otherLetter), (0x1EE49, 0x1EE49, otherLetter),
  (0x1EE4B, 0x1EE4B, otherLetter), (0x1EE4D, 0x1EE4F, otherLetter),
  (0x1EE51, 0x1EE52, otherLetter), (0x1EE54, 0x1EE54, otherLetter),
  (0x1EE57, 0x1EE57, otherLetter), (0x1EE59, 0x1EE59, otherLetter),
  (0x1EE5B, 0x1EE5B, otherLetter), (0x1EE5D, 0x1EE5D, otherLetter),
  (0x1EE5F, 0x1EE5F, otherLetter), (0x1EE61, 0x1EE62, otherLetter),
  (0x1EE64, 0x1EE64, otherLetter), (0x1EE67, 0x1EE6A, otherLetter),
  (0x1EE6C, 0x1EE72, otherLetter), (0x1EE74, 0x1EE77, otherLetter),
  (0x1EE79, 0x1EE7C, otherLetter), (0x1EE7E, 0x1EE7E, otherLetter),
  (0x1EE80, 0x1EE89, otherLetter), (0x1EE8B, 0x1EE9B, otherLetter),
  (0x1EEA1, 0x1EEA3, otherLetter), (0x1EEA5, 0x1EEA9, otherLetter),
  (0x1EEAB, 0x1EEBB, otherLetter), (0x1EEF0, 0x1EEF1, mathSymbol)]

def page1F : Table := [
  (0x1F000, 0x1F02B, otherSymbol), (0x1F030, 0x1F093, otherSymbol),
  (0x1F0A0, 0x1F0AE, otherSymbol), (0x1F0B1, 0x1F0BF, otherSymbol),
  (0x1F0C1, 0x1F0CF, otherSymbol), (0x1F0D1, 0x1F0F5, otherSymbol),
  (0x1F100, 0x1F10C, otherNumber), (0x1F10D, 0x1F1AD, otherSymbol),
  (0x1F1E6, 0x1F202, otherSymbol), (0x1F210, 0x1F23B, otherSymbol),
  (0x1F240, 0x1F248, otherSymbol), (0x1F250, 0x1F251, otherSymbol),
  (0x1F260, 0x1F265, otherSymbol), (0x1F300, 0x1F3FA, otherSymbol),
  (0x1F3FB, 0x1F3FF, modifierSymbol), (0x1F400, 0x1F6D8, otherSymbol),
  (0x1F6DC, 0x1F6EC, otherSymbol), (0x1F6F0, 0x1F6FC, otherSymbol),
  (0x1F700, 0x1F7D9, otherSymbol), (0x1F7E0, 0x1F7EB, otherSymbol),
  (0x1F7F0, 0x1F7F0, otherSymbol), (0x1F800, 0x1F80B, otherSymbol),
  (0x1F810, 0x1F847, otherSymbol), (0x1F850, 0x1F859, otherSymbol),
  (0x1F860, 0x1F887, otherSymbol), (0x1F890, 0x1F8AD, otherSymbol),
  (0x1F8B0, 0x1F8BB, otherSymbol), (0x1F8C0, 0x1F8C1, otherSymbol),
  (0x1F8D0, 0x1F8D8, mathSymbol), (0x1F900, 0x1FA57, otherSymbol),
  (0x1FA60, 0x1FA6D, otherSymbol), (0x1FA70, 0x1FA7C, otherSymbol),
  (0x1FA80, 0x1FA8A, otherSymbol), (0x1FA8E, 0x1FAC6, otherSymbol),
  (0x1FAC8, 0x1FAC8, otherSymbol), (0x1FACD, 0x1FADC, otherSymbol),
  (0x1FADF, 0x1FAEA, otherSymbol), (0x1FAEF, 0x1FAF8, otherSymbol),
  (0x1FB00, 0x1FB92, otherSymbol), (0x1FB94, 0x1FBEF, otherSymbol),
  (0x1FBF0, 0x1FBF9, decimalNumber), (0x1FBFA, 0x1FBFA, otherSymbol)]

/-- Code points `0x20000` to `0x10FFFF`. -/
def pagesFrom20 : Table := [
  (0x20000, 0x2A6DF, otherLetter), (0x2A700, 0x2B81D, otherLetter),
  (0x2B820, 0x2CEAD, otherLetter), (0x2CEB0, 0x2EBE0, otherLetter),
  (0x2EBF0, 0x2EE5D, otherLetter), (0x2F800, 0x2FA1D, otherLetter),
  (0x30000, 0x3134A, otherLetter), (0x31350, 0x33479, otherLetter), (0xE0001, 0xE0001, format),
  (0xE0020, 0xE007F, format), (0xE0100, 0xE01EF, nonspacingMark), (0xF0000, 0xFFFFD, privateUse),
  (0x100000, 0x10FFFD, privateUse)]

/-- The table that holds a page. -/
def page : Nat → Table
  | 0x00 => page00
  | 0x01 => page01
  | 0x02 => page02
  | 0x03 => page03
  | 0x04 => page04
  | 0x05 => page05
  | 0x06 => page06
  | 0x07 => page07
  | 0x08 => page08
  | 0x09 => page09
  | 0x0A => page0A
  | 0x0B => page0B
  | 0x0C => page0C
  | 0x0D => page0D
  | 0x0E => page0E
  | 0x0F => page0F
  | 0x10 => page10
  | 0x11 => page11
  | 0x12 => page12
  | 0x13 => page13
  | 0x14 => page14
  | 0x15 => []
  | 0x16 => page16
  | 0x17 => page17
  | 0x18 => page18
  | 0x19 => []
  | 0x1A => page1A
  | 0x1B => page1B
  | 0x1C => page1C
  | 0x1D => page1D
  | 0x1E => page1E
  | 0x1F => page1F
  | _ => pagesFrom20

/-- The code points that Unicode 18 assigns and Unicode 17 does not. -/
def additions : Table := [
  (0x558, 0x558, modifierLetter), (0x58B, 0x58C, modifierLetter), (0x5C8, 0x5C9, nonspacingMark),
  (0xB53, 0xB54, nonspacingMark), (0x1ADE, 0x1ADF, nonspacingMark),
  (0x1AEC, 0x1AF0, nonspacingMark), (0x208F, 0x208F, modifierLetter),
  (0x209D, 0x209F, modifierLetter), (0x20C2, 0x20C4, currencySymbol),
  (0x2E60, 0x2E61, otherPunctuation), (0x2E62, 0x2E62, openPunctuation),
  (0x2E63, 0x2E63, closePunctuation), (0xA7DD, 0xA7DD, uppercaseLetter),
  (0xA7E2, 0xA7E2, uppercaseLetter), (0xAB6C, 0xAB6D, uppercaseLetter),
  (0x107BB, 0x107BF, modifierLetter), (0x10EC9, 0x10ECA, modifierSymbol),
  (0x10ECB, 0x10ECF, nonspacingMark), (0x10ED9, 0x10EEE, otherLetter),
  (0x10EF0, 0x10EF9, nonspacingMark), (0x11B0A, 0x11B0A, otherLetter),
  (0x11DF0, 0x11DF0, nonspacingMark), (0x11DF1, 0x11DF1, otherLetter),
  (0x1246F, 0x1246F, letterNumber), (0x12475, 0x1247F, letterNumber),
  (0x12550, 0x12686, letterNumber), (0x18CD6, 0x18CDA, otherLetter),
  (0x18D1F, 0x18D20, otherLetter), (0x18E00, 0x19191, otherLetter),
  (0x191A0, 0x191D2, otherLetter), (0x1B123, 0x1B128, otherLetter),
  (0x1B168, 0x1B168, otherLetter), (0x1CED2, 0x1CED4, otherSymbol),
  (0x1CEDD, 0x1CEDF, mathSymbol), (0x1CEF1, 0x1CEFD, mathSymbol),
  (0x1D127, 0x1D128, nonspacingMark), (0x1D1EB, 0x1D1FF, otherSymbol),
  (0x1D250, 0x1D252, spacingMark), (0x1D253, 0x1D25A, otherSymbol),
  (0x1D25B, 0x1D25C, nonspacingMark), (0x1D25D, 0x1D25E, otherSymbol),
  (0x1D25F, 0x1D25F, spacingMark), (0x1D260, 0x1D27F, otherSymbol),
  (0x1D280, 0x1D281, spacingMark), (0x1D6A6, 0x1D6A6, lowercaseLetter),
  (0x1DB00, 0x1DB1C, mathSymbol), (0x1DF1F, 0x1DF24, lowercaseLetter),
  (0x1DF2B, 0x1DF3F, lowercaseLetter), (0x1DF40, 0x1DF40, uppercaseLetter),
  (0x1DF41, 0x1DF47, lowercaseLetter), (0x1DF48, 0x1DF48, uppercaseLetter),
  (0x1DF49, 0x1DF49, lowercaseLetter), (0x1DF4A, 0x1DF4A, uppercaseLetter),
  (0x1DF4B, 0x1DF4C, lowercaseLetter), (0x1DF4D, 0x1DF4D, uppercaseLetter),
  (0x1DF4E, 0x1DF50, lowercaseLetter), (0x1DF51, 0x1DF51, uppercaseLetter),
  (0x1DF52, 0x1DF67, lowercaseLetter), (0x1DF68, 0x1DF68, uppercaseLetter),
  (0x1DF69, 0x1DF69, lowercaseLetter), (0x1DF6A, 0x1DF6A, uppercaseLetter),
  (0x1DF6B, 0x1DF6B, lowercaseLetter), (0x1DF6C, 0x1DF6C, uppercaseLetter),
  (0x1DF6D, 0x1DF6D, lowercaseLetter), (0x1DF6E, 0x1DF6E, uppercaseLetter),
  (0x1DF6F, 0x1DF71, lowercaseLetter), (0x1DF72, 0x1DF72, uppercaseLetter),
  (0x1DF73, 0x1DF73, lowercaseLetter), (0x1DF74, 0x1DF74, uppercaseLetter),
  (0x1DF75, 0x1DF75, lowercaseLetter), (0x1DF76, 0x1DF76, uppercaseLetter),
  (0x1DF77, 0x1DF77, lowercaseLetter), (0x1DF78, 0x1DF78, uppercaseLetter),
  (0x1DF79, 0x1DF79, lowercaseLetter), (0x1DF7A, 0x1DF7A, uppercaseLetter),
  (0x1DF7B, 0x1DF7B, lowercaseLetter), (0x1DF7C, 0x1DF7C, uppercaseLetter),
  (0x1DF7D, 0x1DF7D, lowercaseLetter), (0x1DF7E, 0x1DF7E, uppercaseLetter),
  (0x1DF7F, 0x1DF7F, lowercaseLetter), (0x1DF80, 0x1DF81, otherLetter),
  (0x1DF90, 0x1DF96, lowercaseLetter), (0x1DFCD, 0x1DFFF, modifierLetter),
  (0x1F1AE, 0x1F1AE, otherSymbol), (0x1F6D9, 0x1F6D9, otherSymbol),
  (0x1F7DA, 0x1F7DB, otherSymbol), (0x1F7F1, 0x1F7FF, otherSymbol),
  (0x1FA8B, 0x1FA8D, otherSymbol), (0x1FACC, 0x1FACC, otherSymbol),
  (0x1FADD, 0x1FADD, otherSymbol), (0x1FAEB, 0x1FAEB, otherSymbol),
  (0x1FAF9, 0x1FAFA, otherSymbol), (0x2B81E, 0x2B81E, otherLetter),
  (0x3D000, 0x3FC3F, otherLetter)]

end Table

end GeneralCategory

end Backtrack
