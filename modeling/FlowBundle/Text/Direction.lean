/-!
# Direction of writing

The direction in which the characters of host names are written.  The table holds the runs of those
that are not written from left to right; between two members of one kind it may run over characters
that no host name holds.  A character that came after version 14 of the character database has no
known direction.
-/
namespace FlowBundle
namespace Text

inductive Direction where
  | leftToRight
  | rightToLeft
  | arabic
  | arabicNumber
  | europeanNumber
  | separator
  | mark
  | neutral
  | unknown
  deriving DecidableEq, Repr

def directionRuns : List (Nat × Nat × Direction) :=
  [(0x2D, 0x2D, .separator), (0x30, 0x39, .europeanNumber), (0xB7, 0xB7, .neutral), (0x2B9, 0x2BA, .neutral),
   (0x2C6, 0x2CF, .neutral), (0x2EC, 0x2EC, .neutral), (0x300, 0x36F, .mark), (0x375, 0x375, .neutral),
   (0x483, 0x487, .mark), (0x591, 0x5C7, .mark), (0x5D0, 0x5F4, .rightToLeft), (0x610, 0x61A, .mark), (0x620,
   0x64A, .arabic), (0x64B, 0x65F, .mark), (0x660, 0x669, .arabicNumber), (0x66E, 0x66F, .arabic), (0x670,
   0x670, .mark), (0x671, 0x6D5, .arabic), (0x6D6, 0x6E4, .mark), (0x6E5, 0x6E6, .arabic), (0x6E7, 0x6ED,
   .mark), (0x6EE, 0x6EF, .arabic), (0x6F0, 0x6F9, .europeanNumber), (0x6FA, 0x710, .arabic), (0x711, 0x711,
   .mark), (0x712, 0x72F, .arabic), (0x730, 0x74A, .mark), (0x74D, 0x7A5, .arabic), (0x7A6, 0x7B0, .mark),
   (0x7B1, 0x7B1, .arabic), (0x7C0, 0x7EA, .rightToLeft), (0x7EB, 0x7F3, .mark), (0x7F4, 0x7F5, .rightToLeft),
   (0x7FD, 0x7FD, .mark), (0x800, 0x815, .rightToLeft), (0x816, 0x819, .mark), (0x81A, 0x81A, .rightToLeft),
   (0x81B, 0x823, .mark), (0x824, 0x824, .rightToLeft), (0x825, 0x827, .mark), (0x828, 0x828, .rightToLeft),
   (0x829, 0x82D, .mark), (0x840, 0x858, .rightToLeft), (0x859, 0x85B, .mark), (0x860, 0x88E, .arabic),
   (0x88F, 0x897, .unknown), (0x898, 0x89F, .mark), (0x8A0, 0x8C9, .arabic), (0x8CA, 0x902, .mark), (0x93A,
   0x93A, .mark), (0x93C, 0x93C, .mark), (0x941, 0x948, .mark), (0x94D, 0x94D, .mark), (0x951, 0x957, .mark),
   (0x962, 0x963, .mark), (0x981, 0x981, .mark), (0x9BC, 0x9BC, .mark), (0x9C1, 0x9C4, .mark), (0x9CD, 0x9CD,
   .mark), (0x9E2, 0x9E3, .mark), (0x9FE, 0xA02, .mark), (0xA3C, 0xA3C, .mark), (0xA41, 0xA51, .mark), (0xA70,
   0xA71, .mark), (0xA75, 0xA82, .mark), (0xABC, 0xABC, .mark), (0xAC1, 0xAC8, .mark), (0xACD, 0xACD, .mark),
   (0xAE2, 0xAE3, .mark), (0xAFA, 0xB01, .mark), (0xB3C, 0xB3C, .mark), (0xB3F, 0xB3F, .mark), (0xB41, 0xB44,
   .mark), (0xB4D, 0xB56, .mark), (0xB62, 0xB63, .mark), (0xB82, 0xB82, .mark), (0xBC0, 0xBC0, .mark), (0xBCD,
   0xBCD, .mark), (0xC00, 0xC00, .mark), (0xC04, 0xC04, .mark), (0xC3C, 0xC3C, .mark), (0xC3E, 0xC40, .mark),
   (0xC46, 0xC56, .mark), (0xC5C, 0xC5C, .unknown), (0xC62, 0xC63, .mark), (0xC81, 0xC81, .mark), (0xCBC,
   0xCBC, .mark), (0xCCC, 0xCCD, .mark), (0xCDC, 0xCDC, .unknown), (0xCE2, 0xCE3, .mark), (0xCF3, 0xCF3,
   .unknown), (0xD00, 0xD01, .mark), (0xD3B, 0xD3C, .mark), (0xD41, 0xD44, .mark), (0xD4D, 0xD4D, .mark),
   (0xD62, 0xD63, .mark), (0xD81, 0xD81, .mark), (0xDCA, 0xDCA, .mark), (0xDD2, 0xDD6, .mark), (0xE31, 0xE31,
   .mark), (0xE34, 0xE3A, .mark), (0xE47, 0xE4E, .mark), (0xEB1, 0xEB1, .mark), (0xEB4, 0xEBC, .mark), (0xEC8,
   0xECD, .mark), (0xECE, 0xECE, .unknown), (0xF18, 0xF19, .mark), (0xF35, 0xF39, .mark), (0xF71, 0xF7E,
   .mark), (0xF80, 0xF87, .mark), (0xF8D, 0xFC6, .mark), (0x102D, 0x1030, .mark), (0x1032, 0x1037, .mark),
   (0x1039, 0x103A, .mark), (0x103D, 0x103E, .mark), (0x1058, 0x1059, .mark), (0x105E, 0x1060, .mark),
   (0x1071, 0x1074, .mark), (0x1082, 0x1082, .mark), (0x1085, 0x1086, .mark), (0x108D, 0x108D, .mark),
   (0x109D, 0x109D, .mark), (0x135D, 0x135F, .mark), (0x1712, 0x1714, .mark), (0x1732, 0x1733, .mark),
   (0x1752, 0x1753, .mark), (0x1772, 0x1773, .mark), (0x17B7, 0x17BD, .mark), (0x17C6, 0x17C6, .mark),
   (0x17C9, 0x17D3, .mark), (0x17DD, 0x17DD, .mark), (0x1885, 0x1886, .mark), (0x18A9, 0x18A9, .mark),
   (0x1920, 0x1922, .mark), (0x1927, 0x1928, .mark), (0x1932, 0x1932, .mark), (0x1939, 0x193B, .mark),
   (0x1A17, 0x1A18, .mark), (0x1A1B, 0x1A1B, .mark), (0x1A56, 0x1A56, .mark), (0x1A58, 0x1A60, .mark),
   (0x1A62, 0x1A62, .mark), (0x1A65, 0x1A6C, .mark), (0x1A73, 0x1A7F, .mark), (0x1AB0, 0x1ACE, .mark),
   (0x1ACF, 0x1AEB, .unknown), (0x1B00, 0x1B03, .mark), (0x1B34, 0x1B34, .mark), (0x1B36, 0x1B3A, .mark),
   (0x1B3C, 0x1B3C, .mark), (0x1B42, 0x1B42, .mark), (0x1B6B, 0x1B81, .mark), (0x1BA2, 0x1BA5, .mark),
   (0x1BA8, 0x1BA9, .mark), (0x1BAB, 0x1BAD, .mark), (0x1BE6, 0x1BE6, .mark), (0x1BE8, 0x1BE9, .mark),
   (0x1BED, 0x1BED, .mark), (0x1BEF, 0x1BF1, .mark), (0x1C2C, 0x1C33, .mark), (0x1C36, 0x1C37, .mark),
   (0x1C8A, 0x1C8A, .unknown), (0x1CD0, 0x1CE0, .mark), (0x1CE2, 0x1CE8, .mark), (0x1CED, 0x1CED, .mark),
   (0x1CF4, 0x1CF4, .mark), (0x1CF8, 0x1CF9, .mark), (0x1DC0, 0x1DFF, .mark), (0x200C, 0x200D, .neutral),
   (0x2CEF, 0x2CF1, .mark), (0x2D7F, 0x2D7F, .mark), (0x2DE0, 0x2DFF, .mark), (0x2E2F, 0x2E2F, .neutral),
   (0x302A, 0x302D, .mark), (0x3099, 0x309A, .mark), (0x30FB, 0x30FB, .neutral), (0xA66F, 0xA67D, .mark),
   (0xA67F, 0xA67F, .neutral), (0xA69E, 0xA69F, .mark), (0xA6F0, 0xA6F1, .mark), (0xA717, 0xA71F, .neutral),
   (0xA788, 0xA788, .neutral), (0xA7CD, 0xA7CF, .unknown), (0xA7DB, 0xA7DB, .unknown), (0xA802, 0xA802,
   .mark), (0xA806, 0xA806, .mark), (0xA80B, 0xA80B, .mark), (0xA825, 0xA826, .mark), (0xA82C, 0xA82C, .mark),
   (0xA8C4, 0xA8C5, .mark), (0xA8E0, 0xA8F1, .mark), (0xA8FF, 0xA8FF, .mark), (0xA926, 0xA92D, .mark),
   (0xA947, 0xA951, .mark), (0xA980, 0xA982, .mark), (0xA9B3, 0xA9B3, .mark), (0xA9B6, 0xA9B9, .mark),
   (0xA9BC, 0xA9BD, .mark), (0xA9E5, 0xA9E5, .mark), (0xAA29, 0xAA2E, .mark), (0xAA31, 0xAA32, .mark),
   (0xAA35, 0xAA36, .mark), (0xAA43, 0xAA43, .mark), (0xAA4C, 0xAA4C, .mark), (0xAA7C, 0xAA7C, .mark),
   (0xAAB0, 0xAAB0, .mark), (0xAAB2, 0xAAB4, .mark), (0xAAB7, 0xAAB8, .mark), (0xAABE, 0xAABF, .mark),
   (0xAAC1, 0xAAC1, .mark), (0xAAEC, 0xAAED, .mark), (0xAAF6, 0xAAF6, .mark), (0xABE5, 0xABE5, .mark),
   (0xABE8, 0xABE8, .mark), (0xABED, 0xABED, .mark), (0xFB1E, 0xFE2F, .mark), (0xFE73, 0xFE73, .arabic),
   (0x101FD, 0x101FD, .mark), (0x102E0, 0x102E0, .mark), (0x10376, 0x1037A, .mark), (0x105C0, 0x105F3,
   .unknown), (0x10800, 0x10939, .rightToLeft), (0x10940, 0x10959, .unknown), (0x10980, 0x10A00,
   .rightToLeft), (0x10A01, 0x10A0F, .mark), (0x10A10, 0x10A35, .rightToLeft), (0x10A38, 0x10A3F, .mark),
   (0x10A60, 0x10AE4, .rightToLeft), (0x10AE5, 0x10AE6, .mark), (0x10B00, 0x10CF2, .rightToLeft), (0x10D00,
   0x10D23, .arabic), (0x10D24, 0x10D27, .mark), (0x10D30, 0x10D39, .arabicNumber), (0x10D40, 0x10D85,
   .unknown), (0x10E80, 0x10EA9, .rightToLeft), (0x10EAB, 0x10EAC, .mark), (0x10EB0, 0x10EB1, .rightToLeft),
   (0x10EC2, 0x10EFF, .unknown), (0x10F00, 0x10F27, .rightToLeft), (0x10F30, 0x10F45, .arabic), (0x10F46,
   0x10F50, .mark), (0x10F70, 0x10F81, .rightToLeft), (0x10F82, 0x10F85, .mark), (0x10FB0, 0x10FF6,
   .rightToLeft), (0x11001, 0x11001, .mark), (0x11038, 0x11046, .mark), (0x11070, 0x11070, .mark), (0x11073,
   0x11074, .mark), (0x1107F, 0x11081, .mark), (0x110B3, 0x110B6, .mark), (0x110B9, 0x110C2, .mark), (0x11100,
   0x11102, .mark), (0x11127, 0x1112B, .mark), (0x1112D, 0x11134, .mark), (0x11173, 0x11173, .mark), (0x11180,
   0x11181, .mark), (0x111B6, 0x111BE, .mark), (0x111C9, 0x111CC, .mark), (0x111CF, 0x111CF, .mark), (0x1122F,
   0x11231, .mark), (0x11234, 0x11234, .mark), (0x11236, 0x1123E, .mark), (0x1123F, 0x11241, .unknown),
   (0x112DF, 0x112DF, .mark), (0x112E3, 0x112EA, .mark), (0x11300, 0x11301, .mark), (0x1133B, 0x1133C, .mark),
   (0x11340, 0x11340, .mark), (0x11366, 0x11374, .mark), (0x11380, 0x113E2, .unknown), (0x11438, 0x1143F,
   .mark), (0x11442, 0x11444, .mark), (0x11446, 0x11446, .mark), (0x1145E, 0x1145E, .mark), (0x114B3, 0x114B8,
   .mark), (0x114BA, 0x114BA, .mark), (0x114BF, 0x114C0, .mark), (0x114C2, 0x114C3, .mark), (0x115B2, 0x115B5,
   .mark), (0x115BC, 0x115BD, .mark), (0x115BF, 0x115C0, .mark), (0x115DC, 0x115DD, .mark), (0x11633, 0x1163A,
   .mark), (0x1163D, 0x1163D, .mark), (0x1163F, 0x11640, .mark), (0x116AB, 0x116AB, .mark), (0x116AD, 0x116AD,
   .mark), (0x116B0, 0x116B5, .mark), (0x116B7, 0x116B7, .mark), (0x116D0, 0x116E3, .unknown), (0x1171D,
   0x1171F, .mark), (0x11722, 0x11725, .mark), (0x11727, 0x1172B, .mark), (0x1182F, 0x11837, .mark), (0x11839,
   0x1183A, .mark), (0x1193B, 0x1193C, .mark), (0x1193E, 0x1193E, .mark), (0x11943, 0x11943, .mark), (0x119D4,
   0x119DB, .mark), (0x119E0, 0x119E0, .mark), (0x11A01, 0x11A06, .mark), (0x11A09, 0x11A0A, .mark), (0x11A33,
   0x11A38, .mark), (0x11A3B, 0x11A47, .mark), (0x11A51, 0x11A56, .mark), (0x11A59, 0x11A5B, .mark), (0x11A8A,
   0x11A96, .mark), (0x11A98, 0x11A99, .mark), (0x11B60, 0x11BF9, .unknown), (0x11C30, 0x11C3D, .mark),
   (0x11C92, 0x11CA7, .mark), (0x11CAA, 0x11CB0, .mark), (0x11CB2, 0x11CB3, .mark), (0x11CB5, 0x11CB6, .mark),
   (0x11D31, 0x11D45, .mark), (0x11D47, 0x11D47, .mark), (0x11D90, 0x11D91, .mark), (0x11D95, 0x11D95, .mark),
   (0x11D97, 0x11D97, .mark), (0x11DB0, 0x11DE9, .unknown), (0x11EF3, 0x11EF4, .mark), (0x11F00, 0x11F5A,
   .unknown), (0x1342F, 0x143FA, .unknown), (0x16100, 0x16139, .unknown), (0x16AF0, 0x16AF4, .mark), (0x16B30,
   0x16B36, .mark), (0x16D40, 0x16D79, .unknown), (0x16EBB, 0x16ED3, .unknown), (0x16F4F, 0x16F4F, .mark),
   (0x16F8F, 0x16F92, .mark), (0x16FE4, 0x16FE4, .mark), (0x16FF2, 0x16FF3, .unknown), (0x187F8, 0x187FF,
   .unknown), (0x18CFF, 0x18CFF, .unknown), (0x18D09, 0x18DF2, .unknown), (0x1B132, 0x1B132, .unknown),
   (0x1B155, 0x1B155, .unknown), (0x1BC9D, 0x1DAAF, .mark), (0x1DF25, 0x1DF2A, .unknown), (0x1E000, 0x1E02A,
   .mark), (0x1E08F, 0x1E08F, .unknown), (0x1E130, 0x1E136, .mark), (0x1E2AE, 0x1E2AE, .mark), (0x1E2EC,
   0x1E2EF, .mark), (0x1E4D0, 0x1E6FF, .unknown), (0x1E800, 0x1E8C4, .rightToLeft), (0x1E8D0, 0x1E8D6, .mark),
   (0x1E922, 0x1E943, .rightToLeft), (0x1E944, 0x1E94A, .mark), (0x1E94B, 0x1E959, .rightToLeft), (0x2B739,
   0x2B73F, .unknown), (0x2CEA2, 0x2CEAD, .unknown), (0x2EBF0, 0x2EE5D, .unknown), (0x31350, 0x33479,
   .unknown)]

/-- **The direction of a code point.** -/
def directionOf (n : Nat) : Direction :=
  ((directionRuns.find? fun r => decide (r.1 ≤ n) && decide (n ≤ r.2.1)).map (·.2.2)).getD .leftToRight

end Text
end FlowBundle
