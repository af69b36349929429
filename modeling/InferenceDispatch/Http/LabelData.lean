namespace InferenceDispatch.Http.Label

def markRanges : List (Nat × Nat) :=
  [(0x300, 0x36F), (0x483, 0x489), (0x591, 0x5BD), (0x5BF, 0x5BF), (0x5C1, 0x5C2), (0x5C4, 0x5C5),
   (0x5C7, 0x5C7), (0x610, 0x61A), (0x64B, 0x65F), (0x670, 0x670), (0x6D6, 0x6DC), (0x6DF, 0x6E4),
   (0x6E7, 0x6E8), (0x6EA, 0x6ED), (0x711, 0x711), (0x730, 0x74A), (0x7A6, 0x7B0), (0x7EB, 0x7F3),
   (0x7FD, 0x7FD), (0x816, 0x819), (0x81B, 0x823), (0x825, 0x827), (0x829, 0x82D), (0x859, 0x85B),
   (0x897, 0x89F), (0x8CA, 0x903), (0x93A, 0x93C), (0x93E, 0x94F), (0x951, 0x957), (0x962, 0x963),
   (0x981, 0x983), (0x9BC, 0x9BC), (0x9BE, 0x9CD), (0x9D7, 0x9D7), (0x9E2, 0x9E3), (0x9FE, 0xA03),
   (0xA3C, 0xA51), (0xA70, 0xA71), (0xA75, 0xA75), (0xA81, 0xA83), (0xABC, 0xABC), (0xABE, 0xACD),
   (0xAE2, 0xAE3), (0xAFA, 0xB03), (0xB3C, 0xB3C), (0xB3E, 0xB57), (0xB62, 0xB63), (0xB82, 0xB82),
   (0xBBE, 0xBCD), (0xBD7, 0xBD7), (0xC00, 0xC04), (0xC3C, 0xC3C), (0xC3E, 0xC56), (0xC62, 0xC63),
   (0xC81, 0xC83), (0xCBC, 0xCBC), (0xCBE, 0xCD6), (0xCE2, 0xCE3), (0xCF3, 0xD03), (0xD3B, 0xD3C),
   (0xD3E, 0xD4D), (0xD57, 0xD57), (0xD62, 0xD63), (0xD81, 0xD83), (0xDCA, 0xDDF), (0xDF2, 0xDF3),
   (0xE31, 0xE31), (0xE34, 0xE3A), (0xE47, 0xE4E), (0xEB1, 0xEB1), (0xEB4, 0xEBC), (0xEC8, 0xECE),
   (0xF18, 0xF19), (0xF35, 0xF35), (0xF37, 0xF37), (0xF39, 0xF39), (0xF3E, 0xF3F), (0xF71, 0xF84),
   (0xF86, 0xF87), (0xF8D, 0xFBC), (0xFC6, 0xFC6), (0x102B, 0x103E), (0x1056, 0x1059),
   (0x105E, 0x1060), (0x1062, 0x1064), (0x1067, 0x106D), (0x1071, 0x1074), (0x1082, 0x108D),
   (0x108F, 0x108F), (0x109A, 0x109D), (0x135D, 0x135F), (0x1712, 0x1715), (0x1732, 0x1734),
   (0x1752, 0x1753), (0x1772, 0x1773), (0x17B6, 0x17D3), (0x17DD, 0x17DD), (0x1885, 0x1886),
   (0x18A9, 0x18A9), (0x1920, 0x193B), (0x1A17, 0x1A1B), (0x1A55, 0x1A7F), (0x1AB0, 0x1B04),
   (0x1B34, 0x1B44), (0x1B6B, 0x1B73), (0x1B80, 0x1B82), (0x1BA1, 0x1BAD), (0x1BE6, 0x1BF3),
   (0x1C24, 0x1C37), (0x1CD0, 0x1CD2), (0x1CD4, 0x1CE8), (0x1CED, 0x1CED), (0x1CF4, 0x1CF4),
   (0x1CF7, 0x1CF9), (0x1DC0, 0x1DFF), (0x20D0, 0x20F0), (0x2CEF, 0x2CF1), (0x2D7F, 0x2D7F),
   (0x2DE0, 0x2DFF), (0x302A, 0x302F), (0x3099, 0x309A), (0xA66F, 0xA672), (0xA674, 0xA67D),
   (0xA69E, 0xA69F), (0xA6F0, 0xA6F1), (0xA802, 0xA802), (0xA806, 0xA806), (0xA80B, 0xA80B),
   (0xA823, 0xA827), (0xA82C, 0xA82C), (0xA880, 0xA881), (0xA8B4, 0xA8C5), (0xA8E0, 0xA8F1),
   (0xA8FF, 0xA8FF), (0xA926, 0xA92D), (0xA947, 0xA953), (0xA980, 0xA983), (0xA9B3, 0xA9C0),
   (0xA9E5, 0xA9E5), (0xAA29, 0xAA36), (0xAA43, 0xAA43), (0xAA4C, 0xAA4D), (0xAA7B, 0xAA7D),
   (0xAAB0, 0xAAB0), (0xAAB2, 0xAAB4), (0xAAB7, 0xAAB8), (0xAABE, 0xAABF), (0xAAC1, 0xAAC1),
   (0xAAEB, 0xAAEF), (0xAAF5, 0xAAF6), (0xABE3, 0xABEA), (0xABEC, 0xABED), (0xFB1E, 0xFB1E),
   (0xFE20, 0xFE2F), (0x101FD, 0x101FD), (0x102E0, 0x102E0), (0x10376, 0x1037A), (0x10A01, 0x10A0F),
   (0x10A38, 0x10A3F), (0x10AE5, 0x10AE6), (0x10D24, 0x10D27), (0x10D69, 0x10D6D),
   (0x10EAB, 0x10EAC), (0x10EFA, 0x10EFF), (0x10F46, 0x10F50), (0x10F82, 0x10F85),
   (0x11000, 0x11002), (0x11038, 0x11046), (0x11070, 0x11070), (0x11073, 0x11074),
   (0x1107F, 0x11082), (0x110B0, 0x110BA), (0x110C2, 0x110C2), (0x11100, 0x11102),
   (0x11127, 0x11134), (0x11145, 0x11146), (0x11173, 0x11173), (0x11180, 0x11182),
   (0x111B3, 0x111C0), (0x111C9, 0x111CC), (0x111CE, 0x111CF), (0x1122C, 0x11237),
   (0x1123E, 0x1123E), (0x11241, 0x11241), (0x112DF, 0x112EA), (0x11300, 0x11303),
   (0x1133B, 0x1133C), (0x1133E, 0x1134D), (0x11357, 0x11357), (0x11362, 0x11374),
   (0x113B8, 0x113D0), (0x113D2, 0x113D2), (0x113E1, 0x113E2), (0x11435, 0x11446),
   (0x1145E, 0x1145E), (0x114B0, 0x114C3), (0x115AF, 0x115C0), (0x115DC, 0x115DD),
   (0x11630, 0x11640), (0x116AB, 0x116B7), (0x1171D, 0x1172B), (0x1182C, 0x1183A),
   (0x11930, 0x1193E), (0x11940, 0x11940), (0x11942, 0x11943), (0x119D1, 0x119E0),
   (0x119E4, 0x119E4), (0x11A01, 0x11A0A), (0x11A33, 0x11A39), (0x11A3B, 0x11A3E),
   (0x11A47, 0x11A47), (0x11A51, 0x11A5B), (0x11A8A, 0x11A99), (0x11B60, 0x11B67),
   (0x11C2F, 0x11C3F), (0x11C92, 0x11CB6), (0x11D31, 0x11D45), (0x11D47, 0x11D47),
   (0x11D8A, 0x11D97), (0x11EF3, 0x11EF6), (0x11F00, 0x11F01), (0x11F03, 0x11F03),
   (0x11F34, 0x11F42), (0x11F5A, 0x11F5A), (0x13440, 0x13440), (0x13447, 0x13455),
   (0x1611E, 0x1612F), (0x16AF0, 0x16AF4), (0x16B30, 0x16B36), (0x16F4F, 0x16F4F),
   (0x16F51, 0x16F92), (0x16FE4, 0x16FF1), (0x1BC9D, 0x1BC9E), (0x1CF00, 0x1CF46),
   (0x1D165, 0x1D169), (0x1D16D, 0x1D182), (0x1D185, 0x1D18B), (0x1D1AA, 0x1D1AD),
   (0x1D242, 0x1D244), (0x1DA00, 0x1DA36), (0x1DA3B, 0x1DA6C), (0x1DA75, 0x1DA75),
   (0x1DA84, 0x1DA84), (0x1DA9B, 0x1DAAF), (0x1E000, 0x1E08F), (0x1E130, 0x1E136),
   (0x1E2AE, 0x1E2AE), (0x1E2EC, 0x1E2EF), (0x1E4EC, 0x1E4EF), (0x1E5EE, 0x1E5EF),
   (0x1E6E3, 0x1E6E3), (0x1E6E6, 0x1E6E6), (0x1E6EE, 0x1E6EF), (0x1E6F5, 0x1E6F5),
   (0x1E8D0, 0x1E8D6), (0x1E944, 0x1E94A)]

inductive Joining where
  | before
  | behind
  | both
  /-- It is passed over when a neighbour is looked for. -/
  | transparent
deriving DecidableEq

def joiningRanges : List (Nat × Nat × Joining) :=
  [(0x300, 0x36F, .transparent), (0x483, 0x489, .transparent), (0x591, 0x5BD, .transparent),
   (0x5BF, 0x5BF, .transparent), (0x5C1, 0x5C2, .transparent), (0x5C4, 0x5C5, .transparent),
   (0x5C7, 0x5C7, .transparent), (0x610, 0x61A, .transparent), (0x620, 0x620, .both),
   (0x622, 0x625, .before), (0x626, 0x626, .both), (0x627, 0x627, .before), (0x628, 0x628, .both),
   (0x629, 0x629, .before), (0x62A, 0x62E, .both), (0x62F, 0x632, .before), (0x633, 0x63F, .both),
   (0x641, 0x647, .both), (0x648, 0x648, .before), (0x649, 0x64A, .both),
   (0x64B, 0x65F, .transparent), (0x66E, 0x66F, .both), (0x670, 0x670, .transparent),
   (0x671, 0x673, .before), (0x679, 0x687, .both), (0x688, 0x699, .before), (0x69A, 0x6BF, .both),
   (0x6C0, 0x6C0, .before), (0x6C1, 0x6C2, .both), (0x6C3, 0x6CB, .before), (0x6CC, 0x6CC, .both),
   (0x6CD, 0x6CD, .before), (0x6CE, 0x6CE, .both), (0x6CF, 0x6CF, .before), (0x6D0, 0x6D1, .both),
   (0x6D2, 0x6D3, .before), (0x6D5, 0x6D5, .before), (0x6D6, 0x6DC, .transparent),
   (0x6DF, 0x6E4, .transparent), (0x6E7, 0x6E8, .transparent), (0x6EA, 0x6ED, .transparent),
   (0x6EE, 0x6EF, .before), (0x6FA, 0x6FC, .both), (0x6FF, 0x6FF, .both), (0x710, 0x710, .before),
   (0x711, 0x711, .transparent), (0x712, 0x714, .both), (0x715, 0x719, .before),
   (0x71A, 0x71D, .both), (0x71E, 0x71E, .before), (0x71F, 0x727, .both), (0x728, 0x728, .before),
   (0x729, 0x729, .both), (0x72A, 0x72A, .before), (0x72B, 0x72B, .both), (0x72C, 0x72C, .before),
   (0x72D, 0x72E, .both), (0x72F, 0x72F, .before), (0x730, 0x74A, .transparent),
   (0x74D, 0x74D, .before), (0x74E, 0x758, .both), (0x759, 0x75B, .before), (0x75C, 0x76A, .both),
   (0x76B, 0x76C, .before), (0x76D, 0x770, .both), (0x771, 0x771, .before), (0x772, 0x772, .both),
   (0x773, 0x774, .before), (0x775, 0x777, .both), (0x778, 0x779, .before), (0x77A, 0x77F, .both),
   (0x7A6, 0x7B0, .transparent), (0x7CA, 0x7EA, .both), (0x7EB, 0x7F3, .transparent),
   (0x7FD, 0x7FD, .transparent), (0x816, 0x819, .transparent), (0x81B, 0x823, .transparent),
   (0x825, 0x827, .transparent), (0x829, 0x82D, .transparent), (0x840, 0x840, .before),
   (0x841, 0x845, .both), (0x846, 0x847, .before), (0x848, 0x848, .both), (0x849, 0x849, .before),
   (0x84A, 0x853, .both), (0x854, 0x854, .before), (0x855, 0x855, .both), (0x856, 0x858, .before),
   (0x859, 0x85B, .transparent), (0x860, 0x860, .both), (0x862, 0x865, .both),
   (0x867, 0x867, .before), (0x868, 0x868, .both), (0x869, 0x882, .before), (0x886, 0x886, .both),
   (0x889, 0x88D, .both), (0x88E, 0x88E, .before), (0x88F, 0x88F, .both),
   (0x897, 0x89F, .transparent), (0x8A0, 0x8A9, .both), (0x8AA, 0x8AC, .before),
   (0x8AE, 0x8AE, .before), (0x8AF, 0x8B0, .both), (0x8B1, 0x8B2, .before), (0x8B3, 0x8B8, .both),
   (0x8B9, 0x8B9, .before), (0x8BA, 0x8C8, .both), (0x8CA, 0x902, .transparent),
   (0x93A, 0x93A, .transparent), (0x93C, 0x93C, .transparent), (0x941, 0x948, .transparent),
   (0x94D, 0x94D, .transparent), (0x951, 0x957, .transparent), (0x962, 0x963, .transparent),
   (0x981, 0x981, .transparent), (0x9BC, 0x9BC, .transparent), (0x9C1, 0x9C4, .transparent),
   (0x9CD, 0x9CD, .transparent), (0x9E2, 0x9E3, .transparent), (0x9FE, 0xA02, .transparent),
   (0xA3C, 0xA3C, .transparent), (0xA41, 0xA51, .transparent), (0xA70, 0xA71, .transparent),
   (0xA75, 0xA75, .transparent), (0xA81, 0xA82, .transparent), (0xABC, 0xABC, .transparent),
   (0xAC1, 0xAC8, .transparent), (0xACD, 0xACD, .transparent), (0xAE2, 0xAE3, .transparent),
   (0xAFA, 0xB01, .transparent), (0xB3C, 0xB3C, .transparent), (0xB3F, 0xB3F, .transparent),
   (0xB41, 0xB44, .transparent), (0xB4D, 0xB56, .transparent), (0xB62, 0xB63, .transparent),
   (0xB82, 0xB82, .transparent), (0xBC0, 0xBC0, .transparent), (0xBCD, 0xBCD, .transparent),
   (0xC00, 0xC00, .transparent), (0xC04, 0xC04, .transparent), (0xC3C, 0xC3C, .transparent),
   (0xC3E, 0xC40, .transparent), (0xC46, 0xC56, .transparent), (0xC62, 0xC63, .transparent),
   (0xC81, 0xC81, .transparent), (0xCBC, 0xCBC, .transparent), (0xCBF, 0xCBF, .transparent),
   (0xCC6, 0xCC6, .transparent), (0xCCC, 0xCCD, .transparent), (0xCE2, 0xCE3, .transparent),
   (0xD00, 0xD01, .transparent), (0xD3B, 0xD3C, .transparent), (0xD41, 0xD44, .transparent),
   (0xD4D, 0xD4D, .transparent), (0xD62, 0xD63, .transparent), (0xD81, 0xD81, .transparent),
   (0xDCA, 0xDCA, .transparent), (0xDD2, 0xDD6, .transparent), (0xE31, 0xE31, .transparent),
   (0xE34, 0xE3A, .transparent), (0xE47, 0xE4E, .transparent), (0xEB1, 0xEB1, .transparent),
   (0xEB4, 0xEBC, .transparent), (0xEC8, 0xECE, .transparent), (0xF18, 0xF19, .transparent),
   (0xF35, 0xF35, .transparent), (0xF37, 0xF37, .transparent), (0xF39, 0xF39, .transparent),
   (0xF71, 0xF7E, .transparent), (0xF80, 0xF84, .transparent), (0xF86, 0xF87, .transparent),
   (0xF8D, 0xFBC, .transparent), (0xFC6, 0xFC6, .transparent), (0x102D, 0x1030, .transparent),
   (0x1032, 0x1037, .transparent), (0x1039, 0x103A, .transparent), (0x103D, 0x103E, .transparent),
   (0x1058, 0x1059, .transparent), (0x105E, 0x1060, .transparent), (0x1071, 0x1074, .transparent),
   (0x1082, 0x1082, .transparent), (0x1085, 0x1086, .transparent), (0x108D, 0x108D, .transparent),
   (0x109D, 0x109D, .transparent), (0x135D, 0x135F, .transparent), (0x1712, 0x1714, .transparent),
   (0x1732, 0x1733, .transparent), (0x1752, 0x1753, .transparent), (0x1772, 0x1773, .transparent),
   (0x17B7, 0x17BD, .transparent), (0x17C6, 0x17C6, .transparent), (0x17C9, 0x17D3, .transparent),
   (0x17DD, 0x17DD, .transparent), (0x1807, 0x1807, .both), (0x1820, 0x1878, .both),
   (0x1885, 0x1886, .transparent), (0x1887, 0x18A8, .both), (0x18A9, 0x18A9, .transparent),
   (0x18AA, 0x18AA, .both), (0x1920, 0x1922, .transparent), (0x1927, 0x1928, .transparent),
   (0x1932, 0x1932, .transparent), (0x1939, 0x193B, .transparent), (0x1A17, 0x1A18, .transparent),
   (0x1A1B, 0x1A1B, .transparent), (0x1A56, 0x1A56, .transparent), (0x1A58, 0x1A60, .transparent),
   (0x1A62, 0x1A62, .transparent), (0x1A65, 0x1A6C, .transparent), (0x1A73, 0x1A7F, .transparent),
   (0x1AB0, 0x1B03, .transparent), (0x1B34, 0x1B34, .transparent), (0x1B36, 0x1B3A, .transparent),
   (0x1B3C, 0x1B3C, .transparent), (0x1B42, 0x1B42, .transparent), (0x1B6B, 0x1B73, .transparent),
   (0x1B80, 0x1B81, .transparent), (0x1BA2, 0x1BA5, .transparent), (0x1BA8, 0x1BA9, .transparent),
   (0x1BAB, 0x1BAD, .transparent), (0x1BE6, 0x1BE6, .transparent), (0x1BE8, 0x1BE9, .transparent),
   (0x1BED, 0x1BED, .transparent), (0x1BEF, 0x1BF1, .transparent), (0x1C2C, 0x1C33, .transparent),
   (0x1C36, 0x1C37, .transparent), (0x1CD0, 0x1CD2, .transparent), (0x1CD4, 0x1CE0, .transparent),
   (0x1CE2, 0x1CE8, .transparent), (0x1CED, 0x1CED, .transparent), (0x1CF4, 0x1CF4, .transparent),
   (0x1CF8, 0x1CF9, .transparent), (0x1DC0, 0x1DFF, .transparent), (0x20D0, 0x20F0, .transparent),
   (0x2CEF, 0x2CF1, .transparent), (0x2D7F, 0x2D7F, .transparent), (0x2DE0, 0x2DFF, .transparent),
   (0x302A, 0x302D, .transparent), (0x3099, 0x309A, .transparent), (0xA66F, 0xA672, .transparent),
   (0xA674, 0xA67D, .transparent), (0xA69E, 0xA69F, .transparent), (0xA6F0, 0xA6F1, .transparent),
   (0xA802, 0xA802, .transparent), (0xA806, 0xA806, .transparent), (0xA80B, 0xA80B, .transparent),
   (0xA825, 0xA826, .transparent), (0xA82C, 0xA82C, .transparent), (0xA840, 0xA871, .both),
   (0xA872, 0xA872, .behind), (0xA8C4, 0xA8C5, .transparent), (0xA8E0, 0xA8F1, .transparent),
   (0xA8FF, 0xA8FF, .transparent), (0xA926, 0xA92D, .transparent), (0xA947, 0xA951, .transparent),
   (0xA980, 0xA982, .transparent), (0xA9B3, 0xA9B3, .transparent), (0xA9B6, 0xA9B9, .transparent),
   (0xA9BC, 0xA9BD, .transparent), (0xA9E5, 0xA9E5, .transparent), (0xAA29, 0xAA2E, .transparent),
   (0xAA31, 0xAA32, .transparent), (0xAA35, 0xAA36, .transparent), (0xAA43, 0xAA43, .transparent),
   (0xAA4C, 0xAA4C, .transparent), (0xAA7C, 0xAA7C, .transparent), (0xAAB0, 0xAAB0, .transparent),
   (0xAAB2, 0xAAB4, .transparent), (0xAAB7, 0xAAB8, .transparent), (0xAABE, 0xAABF, .transparent),
   (0xAAC1, 0xAAC1, .transparent), (0xAAEC, 0xAAED, .transparent), (0xAAF6, 0xAAF6, .transparent),
   (0xABE5, 0xABE5, .transparent), (0xABE8, 0xABE8, .transparent), (0xABED, 0xABED, .transparent),
   (0xFB1E, 0xFB1E, .transparent), (0xFE20, 0xFE2F, .transparent), (0x101FD, 0x101FD, .transparent),
   (0x102E0, 0x102E0, .transparent), (0x10376, 0x1037A, .transparent),
   (0x10A01, 0x10A0F, .transparent), (0x10A38, 0x10A3F, .transparent), (0x10AC0, 0x10AC4, .both),
   (0x10AC5, 0x10AC5, .before), (0x10AC7, 0x10AC7, .before), (0x10AC9, 0x10ACA, .before),
   (0x10ACD, 0x10ACD, .behind), (0x10ACE, 0x10AD2, .before), (0x10AD3, 0x10AD6, .both),
   (0x10AD7, 0x10AD7, .behind), (0x10AD8, 0x10ADC, .both), (0x10ADD, 0x10ADD, .before),
   (0x10ADE, 0x10AE0, .both), (0x10AE1, 0x10AE1, .before), (0x10AE4, 0x10AE4, .before),
   (0x10AE5, 0x10AE6, .transparent), (0x10AEB, 0x10AEE, .both), (0x10AEF, 0x10AEF, .before),
   (0x10B80, 0x10B80, .both), (0x10B81, 0x10B81, .before), (0x10B82, 0x10B82, .both),
   (0x10B83, 0x10B85, .before), (0x10B86, 0x10B88, .both), (0x10B89, 0x10B89, .before),
   (0x10B8A, 0x10B8B, .both), (0x10B8C, 0x10B8C, .before), (0x10B8D, 0x10B8D, .both),
   (0x10B8E, 0x10B8F, .before), (0x10B90, 0x10B90, .both), (0x10B91, 0x10B91, .before),
   (0x10BA9, 0x10BAC, .before), (0x10BAD, 0x10BAE, .both), (0x10D00, 0x10D00, .behind),
   (0x10D01, 0x10D21, .both), (0x10D22, 0x10D22, .before), (0x10D23, 0x10D23, .both),
   (0x10D24, 0x10D27, .transparent), (0x10D69, 0x10D6D, .transparent),
   (0x10EAB, 0x10EAC, .transparent), (0x10EC2, 0x10EC2, .before), (0x10EC3, 0x10EC4, .both),
   (0x10EC6, 0x10EC7, .both), (0x10EFA, 0x10EFF, .transparent), (0x10F30, 0x10F32, .both),
   (0x10F33, 0x10F33, .before), (0x10F34, 0x10F44, .both), (0x10F46, 0x10F50, .transparent),
   (0x10F51, 0x10F53, .both), (0x10F54, 0x10F54, .before), (0x10F70, 0x10F73, .both),
   (0x10F74, 0x10F75, .before), (0x10F76, 0x10F81, .both), (0x10F82, 0x10F85, .transparent),
   (0x10FB0, 0x10FB0, .both), (0x10FB2, 0x10FB3, .both), (0x10FB4, 0x10FB6, .before),
   (0x10FB8, 0x10FB8, .both), (0x10FB9, 0x10FBA, .before), (0x10FBB, 0x10FBC, .both),
   (0x10FBD, 0x10FBD, .before), (0x10FBE, 0x10FBF, .both), (0x10FC1, 0x10FC1, .both),
   (0x10FC2, 0x10FC3, .before), (0x10FC4, 0x10FC4, .both), (0x10FC9, 0x10FC9, .before),
   (0x10FCA, 0x10FCA, .both), (0x10FCB, 0x10FCB, .behind), (0x11001, 0x11001, .transparent),
   (0x11038, 0x11046, .transparent), (0x11070, 0x11070, .transparent),
   (0x11073, 0x11074, .transparent), (0x1107F, 0x11081, .transparent),
   (0x110B3, 0x110B6, .transparent), (0x110B9, 0x110BA, .transparent),
   (0x110C2, 0x110C2, .transparent), (0x11100, 0x11102, .transparent),
   (0x11127, 0x1112B, .transparent), (0x1112D, 0x11134, .transparent),
   (0x11173, 0x11173, .transparent), (0x11180, 0x11181, .transparent),
   (0x111B6, 0x111BE, .transparent), (0x111C9, 0x111CC, .transparent),
   (0x111CF, 0x111CF, .transparent), (0x1122F, 0x11231, .transparent),
   (0x11234, 0x11234, .transparent), (0x11236, 0x11237, .transparent),
   (0x1123E, 0x1123E, .transparent), (0x11241, 0x11241, .transparent),
   (0x112DF, 0x112DF, .transparent), (0x112E3, 0x112EA, .transparent),
   (0x11300, 0x11301, .transparent), (0x1133B, 0x1133C, .transparent),
   (0x11340, 0x11340, .transparent), (0x11366, 0x11374, .transparent),
   (0x113BB, 0x113C0, .transparent), (0x113CE, 0x113CE, .transparent),
   (0x113D0, 0x113D0, .transparent), (0x113D2, 0x113D2, .transparent),
   (0x113E1, 0x113E2, .transparent), (0x11438, 0x1143F, .transparent),
   (0x11442, 0x11444, .transparent), (0x11446, 0x11446, .transparent),
   (0x1145E, 0x1145E, .transparent), (0x114B3, 0x114B8, .transparent),
   (0x114BA, 0x114BA, .transparent), (0x114BF, 0x114C0, .transparent),
   (0x114C2, 0x114C3, .transparent), (0x115B2, 0x115B5, .transparent),
   (0x115BC, 0x115BD, .transparent), (0x115BF, 0x115C0, .transparent),
   (0x115DC, 0x115DD, .transparent), (0x11633, 0x1163A, .transparent),
   (0x1163D, 0x1163D, .transparent), (0x1163F, 0x11640, .transparent),
   (0x116AB, 0x116AB, .transparent), (0x116AD, 0x116AD, .transparent),
   (0x116B0, 0x116B5, .transparent), (0x116B7, 0x116B7, .transparent),
   (0x1171D, 0x1171D, .transparent), (0x1171F, 0x1171F, .transparent),
   (0x11722, 0x11725, .transparent), (0x11727, 0x1172B, .transparent),
   (0x1182F, 0x11837, .transparent), (0x11839, 0x1183A, .transparent),
   (0x1193B, 0x1193C, .transparent), (0x1193E, 0x1193E, .transparent),
   (0x11943, 0x11943, .transparent), (0x119D4, 0x119DB, .transparent),
   (0x119E0, 0x119E0, .transparent), (0x11A01, 0x11A0A, .transparent),
   (0x11A33, 0x11A38, .transparent), (0x11A3B, 0x11A3E, .transparent),
   (0x11A47, 0x11A47, .transparent), (0x11A51, 0x11A56, .transparent),
   (0x11A59, 0x11A5B, .transparent), (0x11A8A, 0x11A96, .transparent),
   (0x11A98, 0x11A99, .transparent), (0x11B60, 0x11B60, .transparent),
   (0x11B62, 0x11B64, .transparent), (0x11B66, 0x11B66, .transparent),
   (0x11C30, 0x11C3D, .transparent), (0x11C3F, 0x11C3F, .transparent),
   (0x11C92, 0x11CA7, .transparent), (0x11CAA, 0x11CB0, .transparent),
   (0x11CB2, 0x11CB3, .transparent), (0x11CB5, 0x11CB6, .transparent),
   (0x11D31, 0x11D45, .transparent), (0x11D47, 0x11D47, .transparent),
   (0x11D90, 0x11D91, .transparent), (0x11D95, 0x11D95, .transparent),
   (0x11D97, 0x11D97, .transparent), (0x11EF3, 0x11EF4, .transparent),
   (0x11F00, 0x11F01, .transparent), (0x11F36, 0x11F3A, .transparent),
   (0x11F40, 0x11F40, .transparent), (0x11F42, 0x11F42, .transparent),
   (0x11F5A, 0x11F5A, .transparent), (0x13440, 0x13440, .transparent),
   (0x13447, 0x13455, .transparent), (0x1611E, 0x16129, .transparent),
   (0x1612D, 0x1612F, .transparent), (0x16AF0, 0x16AF4, .transparent),
   (0x16B30, 0x16B36, .transparent), (0x16F4F, 0x16F4F, .transparent),
   (0x16F8F, 0x16F92, .transparent), (0x16FE4, 0x16FE4, .transparent),
   (0x1BC9D, 0x1BC9E, .transparent), (0x1CF00, 0x1CF46, .transparent),
   (0x1D167, 0x1D169, .transparent), (0x1D17B, 0x1D182, .transparent),
   (0x1D185, 0x1D18B, .transparent), (0x1D1AA, 0x1D1AD, .transparent),
   (0x1D242, 0x1D244, .transparent), (0x1DA00, 0x1DA36, .transparent),
   (0x1DA3B, 0x1DA6C, .transparent), (0x1DA75, 0x1DA75, .transparent),
   (0x1DA84, 0x1DA84, .transparent), (0x1DA9B, 0x1DAAF, .transparent),
   (0x1E000, 0x1E08F, .transparent), (0x1E130, 0x1E136, .transparent),
   (0x1E2AE, 0x1E2AE, .transparent), (0x1E2EC, 0x1E2EF, .transparent),
   (0x1E4EC, 0x1E4EF, .transparent), (0x1E5EE, 0x1E5EF, .transparent),
   (0x1E6E3, 0x1E6E3, .transparent), (0x1E6E6, 0x1E6E6, .transparent),
   (0x1E6EE, 0x1E6EF, .transparent), (0x1E6F5, 0x1E6F5, .transparent),
   (0x1E8D0, 0x1E8D6, .transparent), (0x1E922, 0x1E943, .both), (0x1E944, 0x1E94B, .transparent)]

inductive Direction where
  | leftToRight
  | rightToLeft
  | europeanNumber
  | arabicNumber
  /-- It takes the direction of its surroundings. -/
  | neutral
  /-- It takes the direction of the character before it. -/
  | mark
deriving DecidableEq

def directionRanges : List (Nat × Nat × Direction) :=
  [(0x0, 0x8, .neutral), (0xE, 0x1B, .neutral), (0x21, 0x2F, .neutral),
   (0x30, 0x39, .europeanNumber), (0x3A, 0x60, .neutral), (0x7B, 0xD7, .neutral),
   (0xF7, 0xF7, .neutral), (0x2B9, 0x2BA, .neutral), (0x2C2, 0x2CF, .neutral),
   (0x2D2, 0x2ED, .neutral), (0x2EF, 0x2FF, .neutral), (0x300, 0x36F, .mark),
   (0x375, 0x375, .neutral), (0x3F6, 0x3F6, .neutral), (0x483, 0x489, .mark),
   (0x58A, 0x58F, .neutral), (0x591, 0x5BD, .mark), (0x5BE, 0x5BE, .rightToLeft),
   (0x5BF, 0x5BF, .mark), (0x5C0, 0x5C0, .rightToLeft), (0x5C1, 0x5C2, .mark),
   (0x5C3, 0x5C3, .rightToLeft), (0x5C4, 0x5C5, .mark), (0x5C6, 0x5C6, .rightToLeft),
   (0x5C7, 0x5C7, .mark), (0x5D0, 0x5F4, .rightToLeft), (0x606, 0x607, .neutral),
   (0x608, 0x608, .rightToLeft), (0x609, 0x60A, .neutral), (0x60B, 0x60B, .rightToLeft),
   (0x60C, 0x60C, .neutral), (0x60D, 0x60D, .rightToLeft), (0x60E, 0x60F, .neutral),
   (0x610, 0x61A, .mark), (0x61B, 0x64A, .rightToLeft), (0x64B, 0x65F, .mark),
   (0x660, 0x669, .arabicNumber), (0x66A, 0x66A, .neutral), (0x66B, 0x66C, .arabicNumber),
   (0x66D, 0x66F, .rightToLeft), (0x670, 0x670, .mark), (0x671, 0x6D5, .rightToLeft),
   (0x6D6, 0x6DC, .mark), (0x6DE, 0x6DE, .neutral), (0x6DF, 0x6E4, .mark),
   (0x6E5, 0x6E6, .rightToLeft), (0x6E7, 0x6E8, .mark), (0x6E9, 0x6E9, .neutral),
   (0x6EA, 0x6ED, .mark), (0x6EE, 0x6EF, .rightToLeft), (0x6F0, 0x6F9, .europeanNumber),
   (0x6FA, 0x710, .rightToLeft), (0x711, 0x711, .mark), (0x712, 0x72F, .rightToLeft),
   (0x730, 0x74A, .mark), (0x74D, 0x7A5, .rightToLeft), (0x7A6, 0x7B0, .mark),
   (0x7B1, 0x7EA, .rightToLeft), (0x7EB, 0x7F3, .mark), (0x7F4, 0x7F5, .rightToLeft),
   (0x7F6, 0x7F9, .neutral), (0x7FA, 0x7FA, .rightToLeft), (0x7FD, 0x7FD, .mark),
   (0x7FE, 0x815, .rightToLeft), (0x816, 0x819, .mark), (0x81A, 0x81A, .rightToLeft),
   (0x81B, 0x823, .mark), (0x824, 0x824, .rightToLeft), (0x825, 0x827, .mark),
   (0x828, 0x828, .rightToLeft), (0x829, 0x82D, .mark), (0x830, 0x858, .rightToLeft),
   (0x859, 0x85B, .mark), (0x85E, 0x88F, .rightToLeft), (0x897, 0x89F, .mark),
   (0x8A0, 0x8C9, .rightToLeft), (0x8CA, 0x902, .mark), (0x93A, 0x93A, .mark),
   (0x93C, 0x93C, .mark), (0x941, 0x948, .mark), (0x94D, 0x94D, .mark), (0x951, 0x957, .mark),
   (0x962, 0x963, .mark), (0x981, 0x981, .mark), (0x9BC, 0x9BC, .mark), (0x9C1, 0x9C4, .mark),
   (0x9CD, 0x9CD, .mark), (0x9E2, 0x9E3, .mark), (0x9F2, 0x9F3, .neutral), (0x9FB, 0x9FB, .neutral),
   (0x9FE, 0xA02, .mark), (0xA3C, 0xA3C, .mark), (0xA41, 0xA51, .mark), (0xA70, 0xA71, .mark),
   (0xA75, 0xA75, .mark), (0xA81, 0xA82, .mark), (0xABC, 0xABC, .mark), (0xAC1, 0xAC8, .mark),
   (0xACD, 0xACD, .mark), (0xAE2, 0xAE3, .mark), (0xAF1, 0xAF1, .neutral), (0xAFA, 0xB01, .mark),
   (0xB3C, 0xB3C, .mark), (0xB3F, 0xB3F, .mark), (0xB41, 0xB44, .mark), (0xB4D, 0xB56, .mark),
   (0xB62, 0xB63, .mark), (0xB82, 0xB82, .mark), (0xBC0, 0xBC0, .mark), (0xBCD, 0xBCD, .mark),
   (0xBF3, 0xBFA, .neutral), (0xC00, 0xC00, .mark), (0xC04, 0xC04, .mark), (0xC3C, 0xC3C, .mark),
   (0xC3E, 0xC40, .mark), (0xC46, 0xC56, .mark), (0xC62, 0xC63, .mark), (0xC78, 0xC7E, .neutral),
   (0xC81, 0xC81, .mark), (0xCBC, 0xCBC, .mark), (0xCCC, 0xCCD, .mark), (0xCE2, 0xCE3, .mark),
   (0xD00, 0xD01, .mark), (0xD3B, 0xD3C, .mark), (0xD41, 0xD44, .mark), (0xD4D, 0xD4D, .mark),
   (0xD62, 0xD63, .mark), (0xD81, 0xD81, .mark), (0xDCA, 0xDCA, .mark), (0xDD2, 0xDD6, .mark),
   (0xE31, 0xE31, .mark), (0xE34, 0xE3A, .mark), (0xE3F, 0xE3F, .neutral), (0xE47, 0xE4E, .mark),
   (0xEB1, 0xEB1, .mark), (0xEB4, 0xEBC, .mark), (0xEC8, 0xECE, .mark), (0xF18, 0xF19, .mark),
   (0xF35, 0xF35, .mark), (0xF37, 0xF37, .mark), (0xF39, 0xF39, .mark), (0xF3A, 0xF3D, .neutral),
   (0xF71, 0xF7E, .mark), (0xF80, 0xF84, .mark), (0xF86, 0xF87, .mark), (0xF8D, 0xFBC, .mark),
   (0xFC6, 0xFC6, .mark), (0x102D, 0x1030, .mark), (0x1032, 0x1037, .mark), (0x1039, 0x103A, .mark),
   (0x103D, 0x103E, .mark), (0x1058, 0x1059, .mark), (0x105E, 0x1060, .mark),
   (0x1071, 0x1074, .mark), (0x1082, 0x1082, .mark), (0x1085, 0x1086, .mark),
   (0x108D, 0x108D, .mark), (0x109D, 0x109D, .mark), (0x135D, 0x135F, .mark),
   (0x1390, 0x1399, .neutral), (0x1400, 0x1400, .neutral), (0x169B, 0x169C, .neutral),
   (0x1712, 0x1714, .mark), (0x1732, 0x1733, .mark), (0x1752, 0x1753, .mark),
   (0x1772, 0x1773, .mark), (0x17B7, 0x17BD, .mark), (0x17C6, 0x17C6, .mark),
   (0x17C9, 0x17D3, .mark), (0x17DB, 0x17DB, .neutral), (0x17DD, 0x17DD, .mark),
   (0x17F0, 0x180A, .neutral), (0x1885, 0x1886, .mark), (0x18A9, 0x18A9, .mark),
   (0x1920, 0x1922, .mark), (0x1927, 0x1928, .mark), (0x1932, 0x1932, .mark),
   (0x1939, 0x193B, .mark), (0x1940, 0x1945, .neutral), (0x19DE, 0x19FF, .neutral),
   (0x1A17, 0x1A18, .mark), (0x1A1B, 0x1A1B, .mark), (0x1A56, 0x1A56, .mark),
   (0x1A58, 0x1A60, .mark), (0x1A62, 0x1A62, .mark), (0x1A65, 0x1A6C, .mark),
   (0x1A73, 0x1A7F, .mark), (0x1AB0, 0x1B03, .mark), (0x1B34, 0x1B34, .mark),
   (0x1B36, 0x1B3A, .mark), (0x1B3C, 0x1B3C, .mark), (0x1B42, 0x1B42, .mark),
   (0x1B6B, 0x1B73, .mark), (0x1B80, 0x1B81, .mark), (0x1BA2, 0x1BA5, .mark),
   (0x1BA8, 0x1BA9, .mark), (0x1BAB, 0x1BAD, .mark), (0x1BE6, 0x1BE6, .mark),
   (0x1BE8, 0x1BE9, .mark), (0x1BED, 0x1BED, .mark), (0x1BEF, 0x1BF1, .mark),
   (0x1C2C, 0x1C33, .mark), (0x1C36, 0x1C37, .mark), (0x1CD0, 0x1CD2, .mark),
   (0x1CD4, 0x1CE0, .mark), (0x1CE2, 0x1CE8, .mark), (0x1CED, 0x1CED, .mark),
   (0x1CF4, 0x1CF4, .mark), (0x1CF8, 0x1CF9, .mark), (0x1DC0, 0x1DFF, .mark),
   (0x200C, 0x20C1, .neutral), (0x20D0, 0x20F0, .mark), (0x2104, 0x214D, .neutral),
   (0x218A, 0x2335, .neutral), (0x237B, 0x2394, .neutral), (0x2396, 0x26AB, .neutral),
   (0x26AD, 0x27FF, .neutral), (0x2900, 0x2BFF, .neutral), (0x2CE5, 0x2CEA, .neutral),
   (0x2CEF, 0x2CF1, .mark), (0x2CF9, 0x2CFF, .neutral), (0x2D7F, 0x2D7F, .mark),
   (0x2DE0, 0x2DFF, .mark), (0x2E00, 0x3004, .neutral), (0x3008, 0x3020, .neutral),
   (0x302A, 0x302D, .mark), (0x3030, 0x3030, .neutral), (0x3037, 0x3037, .neutral),
   (0x303D, 0x303F, .neutral), (0x3099, 0x309A, .mark), (0x30A0, 0x30A0, .neutral),
   (0x30FB, 0x30FB, .neutral), (0x31C0, 0x31E5, .neutral), (0x4DC0, 0x4DFF, .neutral),
   (0xA490, 0xA4C6, .neutral), (0xA60D, 0xA60F, .neutral), (0xA66F, 0xA672, .mark),
   (0xA673, 0xA673, .neutral), (0xA674, 0xA67D, .mark), (0xA67E, 0xA67F, .neutral),
   (0xA69E, 0xA69F, .mark), (0xA6F0, 0xA6F1, .mark), (0xA700, 0xA721, .neutral),
   (0xA788, 0xA788, .neutral), (0xA802, 0xA802, .mark), (0xA806, 0xA806, .mark),
   (0xA80B, 0xA80B, .mark), (0xA825, 0xA826, .mark), (0xA828, 0xA82B, .neutral),
   (0xA82C, 0xA82C, .mark), (0xA838, 0xA839, .neutral), (0xA874, 0xA877, .neutral),
   (0xA8C4, 0xA8C5, .mark), (0xA8E0, 0xA8F1, .mark), (0xA8FF, 0xA8FF, .mark),
   (0xA926, 0xA92D, .mark), (0xA947, 0xA951, .mark), (0xA980, 0xA982, .mark),
   (0xA9B3, 0xA9B3, .mark), (0xA9B6, 0xA9B9, .mark), (0xA9BC, 0xA9BD, .mark),
   (0xA9E5, 0xA9E5, .mark), (0xAA29, 0xAA2E, .mark), (0xAA31, 0xAA32, .mark),
   (0xAA35, 0xAA36, .mark), (0xAA43, 0xAA43, .mark), (0xAA4C, 0xAA4C, .mark),
   (0xAA7C, 0xAA7C, .mark), (0xAAB0, 0xAAB0, .mark), (0xAAB2, 0xAAB4, .mark),
   (0xAAB7, 0xAAB8, .mark), (0xAABE, 0xAABF, .mark), (0xAAC1, 0xAAC1, .mark),
   (0xAAEC, 0xAAED, .mark), (0xAAF6, 0xAAF6, .mark), (0xAB6A, 0xAB6B, .neutral),
   (0xABE5, 0xABE5, .mark), (0xABE8, 0xABE8, .mark), (0xABED, 0xABED, .mark),
   (0xFB1E, 0xFB1E, .mark), (0xFBB2, 0xFBC2, .rightToLeft), (0xFBC3, 0xFDFF, .neutral),
   (0xFE20, 0xFE2F, .mark), (0xFE45, 0xFE46, .neutral), (0xFE73, 0xFE73, .rightToLeft),
   (0x10101, 0x10101, .neutral), (0x10140, 0x1018C, .neutral), (0x10190, 0x101A0, .neutral),
   (0x101FD, 0x101FD, .mark), (0x102E0, 0x102E0, .mark), (0x102E1, 0x102FB, .europeanNumber),
   (0x10376, 0x1037A, .mark), (0x10800, 0x1091B, .rightToLeft), (0x1091F, 0x1091F, .neutral),
   (0x10920, 0x10A00, .rightToLeft), (0x10A01, 0x10A0F, .mark), (0x10A10, 0x10A35, .rightToLeft),
   (0x10A38, 0x10A3F, .mark), (0x10A40, 0x10AE4, .rightToLeft), (0x10AE5, 0x10AE6, .mark),
   (0x10AEB, 0x10B35, .rightToLeft), (0x10B39, 0x10B3F, .neutral), (0x10B40, 0x10D23, .rightToLeft),
   (0x10D24, 0x10D27, .mark), (0x10D30, 0x10D49, .arabicNumber), (0x10D4A, 0x10D4F, .rightToLeft),
   (0x10D69, 0x10D6D, .mark), (0x10D6E, 0x10D6E, .neutral), (0x10D6F, 0x10D8F, .rightToLeft),
   (0x10E60, 0x10E7E, .arabicNumber), (0x10E80, 0x10EA9, .rightToLeft), (0x10EAB, 0x10EAC, .mark),
   (0x10EAD, 0x10EC7, .rightToLeft), (0x10ED0, 0x10ED8, .neutral), (0x10EFA, 0x10EFF, .mark),
   (0x10F00, 0x10F45, .rightToLeft), (0x10F46, 0x10F50, .mark), (0x10F51, 0x10F81, .rightToLeft),
   (0x10F82, 0x10F85, .mark), (0x10F86, 0x10FF6, .rightToLeft), (0x11001, 0x11001, .mark),
   (0x11038, 0x11046, .mark), (0x11052, 0x11065, .neutral), (0x11070, 0x11070, .mark),
   (0x11073, 0x11074, .mark), (0x1107F, 0x11081, .mark), (0x110B3, 0x110B6, .mark),
   (0x110B9, 0x110BA, .mark), (0x110C2, 0x110C2, .mark), (0x11100, 0x11102, .mark),
   (0x11127, 0x1112B, .mark), (0x1112D, 0x11134, .mark), (0x11173, 0x11173, .mark),
   (0x11180, 0x11181, .mark), (0x111B6, 0x111BE, .mark), (0x111C9, 0x111CC, .mark),
   (0x111CF, 0x111CF, .mark), (0x1122F, 0x11231, .mark), (0x11234, 0x11234, .mark),
   (0x11236, 0x11237, .mark), (0x1123E, 0x1123E, .mark), (0x11241, 0x11241, .mark),
   (0x112DF, 0x112DF, .mark), (0x112E3, 0x112EA, .mark), (0x11300, 0x11301, .mark),
   (0x1133B, 0x1133C, .mark), (0x11340, 0x11340, .mark), (0x11366, 0x11374, .mark),
   (0x113BB, 0x113C0, .mark), (0x113CE, 0x113CE, .mark), (0x113D0, 0x113D0, .mark),
   (0x113D2, 0x113D2, .mark), (0x113E1, 0x113E2, .mark), (0x11438, 0x1143F, .mark),
   (0x11442, 0x11444, .mark), (0x11446, 0x11446, .mark), (0x1145E, 0x1145E, .mark),
   (0x114B3, 0x114B8, .mark), (0x114BA, 0x114BA, .mark), (0x114BF, 0x114C0, .mark),
   (0x114C2, 0x114C3, .mark), (0x115B2, 0x115B5, .mark), (0x115BC, 0x115BD, .mark),
   (0x115BF, 0x115C0, .mark), (0x115DC, 0x115DD, .mark), (0x11633, 0x1163A, .mark),
   (0x1163D, 0x1163D, .mark), (0x1163F, 0x11640, .mark), (0x11660, 0x1166C, .neutral),
   (0x116AB, 0x116AB, .mark), (0x116AD, 0x116AD, .mark), (0x116B0, 0x116B5, .mark),
   (0x116B7, 0x116B7, .mark), (0x1171D, 0x1171F, .mark), (0x11722, 0x11725, .mark),
   (0x11727, 0x1172B, .mark), (0x1182F, 0x11837, .mark), (0x11839, 0x1183A, .mark),
   (0x1193B, 0x1193C, .mark), (0x1193E, 0x1193E, .mark), (0x11943, 0x11943, .mark),
   (0x119D4, 0x119DB, .mark), (0x119E0, 0x119E0, .mark), (0x11A01, 0x11A06, .mark),
   (0x11A09, 0x11A0A, .mark), (0x11A33, 0x11A38, .mark), (0x11A3B, 0x11A3E, .mark),
   (0x11A47, 0x11A47, .mark), (0x11A51, 0x11A56, .mark), (0x11A59, 0x11A5B, .mark),
   (0x11A8A, 0x11A96, .mark), (0x11A98, 0x11A99, .mark), (0x11B60, 0x11B60, .mark),
   (0x11B62, 0x11B64, .mark), (0x11B66, 0x11B66, .mark), (0x11C30, 0x11C3D, .mark),
   (0x11C92, 0x11CA7, .mark), (0x11CAA, 0x11CB0, .mark), (0x11CB2, 0x11CB3, .mark),
   (0x11CB5, 0x11CB6, .mark), (0x11D31, 0x11D45, .mark), (0x11D47, 0x11D47, .mark),
   (0x11D90, 0x11D91, .mark), (0x11D95, 0x11D95, .mark), (0x11D97, 0x11D97, .mark),
   (0x11EF3, 0x11EF4, .mark), (0x11F00, 0x11F01, .mark), (0x11F36, 0x11F3A, .mark),
   (0x11F40, 0x11F40, .mark), (0x11F42, 0x11F42, .mark), (0x11F5A, 0x11F5A, .mark),
   (0x11FD5, 0x11FF1, .neutral), (0x13440, 0x13440, .mark), (0x13447, 0x13455, .mark),
   (0x1611E, 0x16129, .mark), (0x1612D, 0x1612F, .mark), (0x16AF0, 0x16AF4, .mark),
   (0x16B30, 0x16B36, .mark), (0x16F4F, 0x16F4F, .mark), (0x16F8F, 0x16F92, .mark),
   (0x16FE2, 0x16FE2, .neutral), (0x16FE4, 0x16FE4, .mark), (0x1BC9D, 0x1BC9E, .mark),
   (0x1CC00, 0x1CEF0, .neutral), (0x1CF00, 0x1CF46, .mark), (0x1D167, 0x1D169, .mark),
   (0x1D17B, 0x1D182, .mark), (0x1D185, 0x1D18B, .mark), (0x1D1AA, 0x1D1AD, .mark),
   (0x1D1E9, 0x1D241, .neutral), (0x1D242, 0x1D244, .mark), (0x1D245, 0x1D245, .neutral),
   (0x1D300, 0x1D356, .neutral), (0x1DA00, 0x1DA36, .mark), (0x1DA3B, 0x1DA6C, .mark),
   (0x1DA75, 0x1DA75, .mark), (0x1DA84, 0x1DA84, .mark), (0x1DA9B, 0x1DAAF, .mark),
   (0x1E000, 0x1E08F, .mark), (0x1E130, 0x1E136, .mark), (0x1E2AE, 0x1E2AE, .mark),
   (0x1E2EC, 0x1E2EF, .mark), (0x1E2FF, 0x1E2FF, .neutral), (0x1E4EC, 0x1E4EF, .mark),
   (0x1E5EE, 0x1E5EF, .mark), (0x1E6E3, 0x1E6E3, .mark), (0x1E6E6, 0x1E6E6, .mark),
   (0x1E6EE, 0x1E6EF, .mark), (0x1E6F5, 0x1E6F5, .mark), (0x1E800, 0x1E8CF, .rightToLeft),
   (0x1E8D0, 0x1E8D6, .mark), (0x1E922, 0x1E943, .rightToLeft), (0x1E944, 0x1E94A, .mark),
   (0x1E94B, 0x1ED3D, .rightToLeft), (0x1EEF0, 0x1F12F, .neutral), (0x1F16D, 0x1F16F, .neutral),
   (0x1F1AD, 0x1F1AD, .neutral), (0x1F260, 0x1FBFA, .neutral)]

end InferenceDispatch.Http.Label
