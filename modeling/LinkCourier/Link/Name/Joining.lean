import LinkCourier.Text.Basic
import LinkCourier.Text.Combining

/-!
Letters that join their neighbours, and where a joiner may stand.
-/

namespace LinkCourier.Name

/-- Which neighbours a letter joins: those before, those after or both. Marks pass a join on. -/
inductive Joining where
  | none
  | before
  | after
  | both
  | through
deriving DecidableEq

namespace Joining

/-- The joining from a character on. -/
def steps : List (Nat × Joining) :=
  [(0, .none), (0x300, .through), (0x371, .none), (0x483, .through), (0x48B, .none),
   (0x591, .through), (0x5BE, .none), (0x5BF, .through), (0x5C0, .none), (0x5C1, .through),
   (0x5C3, .none), (0x5C4, .through), (0x5C6, .none), (0x5C7, .through), (0x5D0, .none),
   (0x610, .through), (0x61B, .none), (0x620, .both), (0x621, .none), (0x622, .before),
   (0x626, .both), (0x627, .before), (0x628, .both), (0x629, .before), (0x62A, .both),
   (0x62F, .before), (0x633, .both), (0x640, .none), (0x641, .both), (0x648, .before),
   (0x649, .both), (0x64B, .through), (0x660, .none), (0x66E, .both), (0x670, .through),
   (0x671, .before), (0x674, .none), (0x679, .both), (0x688, .before), (0x69A, .both),
   (0x6C0, .before), (0x6C1, .both), (0x6C3, .before), (0x6CC, .both), (0x6CD, .before),
   (0x6CE, .both), (0x6CF, .before), (0x6D0, .both), (0x6D2, .before), (0x6D4, .none),
   (0x6D5, .before), (0x6D6, .through), (0x6DE, .none), (0x6DF, .through), (0x6E5, .none),
   (0x6E7, .through), (0x6E9, .none), (0x6EA, .through), (0x6EE, .before), (0x6F0, .none),
   (0x6FA, .both), (0x6FD, .none), (0x6FF, .both), (0x700, .none), (0x710, .before),
   (0x711, .through), (0x712, .both), (0x715, .before), (0x71A, .both), (0x71E, .before),
   (0x71F, .both), (0x728, .before), (0x729, .both), (0x72A, .before), (0x72B, .both),
   (0x72C, .before), (0x72D, .both), (0x72F, .before), (0x730, .through), (0x74D, .before),
   (0x74E, .both), (0x759, .before), (0x75C, .both), (0x76B, .before), (0x76D, .both),
   (0x771, .before), (0x772, .both), (0x773, .before), (0x775, .both), (0x778, .before),
   (0x77A, .both), (0x780, .none), (0x7A6, .through), (0x7B1, .none), (0x7CA, .both),
   (0x7EB, .through), (0x7F4, .none), (0x7FD, .through), (0x7FE, .none), (0x816, .through),
   (0x81A, .none), (0x81B, .through), (0x824, .none), (0x825, .through), (0x828, .none),
   (0x829, .through), (0x830, .none), (0x840, .before), (0x841, .both), (0x846, .before),
   (0x848, .both), (0x849, .before), (0x84A, .both), (0x854, .before), (0x855, .both),
   (0x856, .before), (0x859, .through), (0x85E, .none), (0x860, .both), (0x861, .none),
   (0x862, .both), (0x866, .none), (0x867, .before), (0x868, .both), (0x869, .before),
   (0x883, .none), (0x886, .both), (0x887, .none), (0x889, .both), (0x88E, .before),
   (0x88F, .both), (0x897, .through), (0x8A0, .both), (0x8AA, .before), (0x8AD, .none),
   (0x8AE, .before), (0x8AF, .both), (0x8B1, .before), (0x8B3, .both), (0x8B9, .before),
   (0x8BA, .both), (0x8C9, .none), (0x8CA, .through), (0x903, .none), (0x93A, .through),
   (0x93B, .none), (0x93C, .through), (0x93D, .none), (0x941, .through), (0x949, .none),
   (0x94D, .through), (0x94E, .none), (0x951, .through), (0x960, .none), (0x962, .through),
   (0x964, .none), (0x981, .through), (0x982, .none), (0x9BC, .through), (0x9BD, .none),
   (0x9C1, .through), (0x9C7, .none), (0x9CD, .through), (0x9CE, .none), (0x9E2, .through),
   (0x9E6, .none), (0x9FE, .through), (0xA03, .none), (0xA3C, .through), (0xA3E, .none),
   (0xA41, .through), (0xA5C, .none), (0xA70, .through), (0xA72, .none), (0xA75, .through),
   (0xA76, .none), (0xA81, .through), (0xA83, .none), (0xABC, .through), (0xABD, .none),
   (0xAC1, .through), (0xAC9, .none), (0xACD, .through), (0xAD0, .none), (0xAE2, .through),
   (0xAE6, .none), (0xAFA, .through), (0xB02, .none), (0xB3C, .through), (0xB3D, .none),
   (0xB3F, .through), (0xB40, .none), (0xB41, .through), (0xB47, .none), (0xB4D, .through),
   (0xB57, .none), (0xB62, .through), (0xB66, .none), (0xB82, .through), (0xB83, .none),
   (0xBC0, .through), (0xBC1, .none), (0xBCD, .through), (0xBD0, .none), (0xC00, .through),
   (0xC01, .none), (0xC04, .through), (0xC05, .none), (0xC3C, .through), (0xC3D, .none),
   (0xC3E, .through), (0xC41, .none), (0xC46, .through), (0xC58, .none), (0xC62, .through),
   (0xC66, .none), (0xC81, .through), (0xC82, .none), (0xCBC, .through), (0xCBD, .none),
   (0xCBF, .through), (0xCC0, .none), (0xCC6, .through), (0xCC7, .none), (0xCCC, .through),
   (0xCD5, .none), (0xCE2, .through), (0xCE6, .none), (0xD00, .through), (0xD02, .none),
   (0xD3B, .through), (0xD3D, .none), (0xD41, .through), (0xD46, .none), (0xD4D, .through),
   (0xD4E, .none), (0xD62, .through), (0xD66, .none), (0xD81, .through), (0xD82, .none),
   (0xDCA, .through), (0xDCF, .none), (0xDD2, .through), (0xDD8, .none), (0xE31, .through),
   (0xE32, .none), (0xE34, .through), (0xE3F, .none), (0xE47, .through), (0xE4F, .none),
   (0xEB1, .through), (0xEB2, .none), (0xEB4, .through), (0xEBD, .none), (0xEC8, .through),
   (0xED0, .none), (0xF18, .through), (0xF1A, .none), (0xF35, .through), (0xF36, .none),
   (0xF37, .through), (0xF38, .none), (0xF39, .through), (0xF3A, .none), (0xF71, .through),
   (0xF7F, .none), (0xF80, .through), (0xF85, .none), (0xF86, .through), (0xF88, .none),
   (0xF8D, .through), (0xFBE, .none), (0xFC6, .through), (0xFC7, .none), (0x102D, .through),
   (0x1031, .none), (0x1032, .through), (0x1038, .none), (0x1039, .through), (0x103B, .none),
   (0x103D, .through), (0x103F, .none), (0x1058, .through), (0x105A, .none), (0x105E, .through),
   (0x1061, .none), (0x1071, .through), (0x1075, .none), (0x1082, .through), (0x1083, .none),
   (0x1085, .through), (0x1087, .none), (0x108D, .through), (0x108E, .none), (0x109D, .through),
   (0x109E, .none), (0x135D, .through), (0x1360, .none), (0x1712, .through), (0x1715, .none),
   (0x1732, .through), (0x1734, .none), (0x1752, .through), (0x1760, .none), (0x1772, .through),
   (0x1780, .none), (0x17B7, .through), (0x17BE, .none), (0x17C6, .through), (0x17C7, .none),
   (0x17C9, .through), (0x17D4, .none), (0x17DD, .through), (0x17E0, .none), (0x1807, .both),
   (0x1808, .none), (0x1820, .both), (0x1880, .none), (0x1885, .through), (0x1887, .both),
   (0x18A9, .through), (0x18AA, .both), (0x18B0, .none), (0x1920, .through), (0x1923, .none),
   (0x1927, .through), (0x1929, .none), (0x1932, .through), (0x1933, .none), (0x1939, .through),
   (0x1940, .none), (0x1A17, .through), (0x1A19, .none), (0x1A1B, .through), (0x1A1E, .none),
   (0x1A56, .through), (0x1A57, .none), (0x1A58, .through), (0x1A61, .none), (0x1A62, .through),
   (0x1A63, .none), (0x1A65, .through), (0x1A6D, .none), (0x1A73, .through), (0x1A80, .none),
   (0x1AB0, .through), (0x1B04, .none), (0x1B34, .through), (0x1B35, .none), (0x1B36, .through),
   (0x1B3B, .none), (0x1B3C, .through), (0x1B3D, .none), (0x1B42, .through), (0x1B43, .none),
   (0x1B6B, .through), (0x1B74, .none), (0x1B80, .through), (0x1B82, .none), (0x1BA2, .through),
   (0x1BA6, .none), (0x1BA8, .through), (0x1BAA, .none), (0x1BAB, .through), (0x1BAE, .none),
   (0x1BE6, .through), (0x1BE7, .none), (0x1BE8, .through), (0x1BEA, .none), (0x1BED, .through),
   (0x1BEE, .none), (0x1BEF, .through), (0x1BF2, .none), (0x1C2C, .through), (0x1C34, .none),
   (0x1C36, .through), (0x1C3B, .none), (0x1CD0, .through), (0x1CD3, .none), (0x1CD4, .through),
   (0x1CE1, .none), (0x1CE2, .through), (0x1CE9, .none), (0x1CED, .through), (0x1CEE, .none),
   (0x1CF4, .through), (0x1CF5, .none), (0x1CF8, .through), (0x1CFA, .none), (0x1DC0, .through),
   (0x1E01, .none), (0x20D0, .through), (0x2104, .none), (0x2CEF, .through), (0x2CF3, .none),
   (0x2D7F, .through), (0x2D80, .none), (0x2DE0, .through), (0x2E00, .none), (0x302A, .through),
   (0x302E, .none), (0x3099, .through), (0x309D, .none), (0xA66F, .through), (0xA673, .none),
   (0xA674, .through), (0xA67E, .none), (0xA69E, .through), (0xA6A0, .none), (0xA6F0, .through),
   (0xA6F2, .none), (0xA802, .through), (0xA803, .none), (0xA806, .through), (0xA807, .none),
   (0xA80B, .through), (0xA80C, .none), (0xA825, .through), (0xA827, .none), (0xA82C, .through),
   (0xA830, .none), (0xA840, .both), (0xA872, .after), (0xA873, .none), (0xA8C4, .through),
   (0xA8CE, .none), (0xA8E0, .through), (0xA8F2, .none), (0xA8FF, .through), (0xA900, .none),
   (0xA926, .through), (0xA92E, .none), (0xA947, .through), (0xA952, .none), (0xA980, .through),
   (0xA983, .none), (0xA9B3, .through), (0xA9B4, .none), (0xA9B6, .through), (0xA9BA, .none),
   (0xA9BC, .through), (0xA9BE, .none), (0xA9E5, .through), (0xA9E6, .none), (0xAA29, .through),
   (0xAA2F, .none), (0xAA31, .through), (0xAA33, .none), (0xAA35, .through), (0xAA40, .none),
   (0xAA43, .through), (0xAA44, .none), (0xAA4C, .through), (0xAA4D, .none), (0xAA7C, .through),
   (0xAA7D, .none), (0xAAB0, .through), (0xAAB1, .none), (0xAAB2, .through), (0xAAB5, .none),
   (0xAAB7, .through), (0xAAB9, .none), (0xAABE, .through), (0xAAC0, .none), (0xAAC1, .through),
   (0xAAC2, .none), (0xAAEC, .through), (0xAAEE, .none), (0xAAF6, .through), (0xAB01, .none),
   (0xABE5, .through), (0xABE6, .none), (0xABE8, .through), (0xABE9, .none), (0xABED, .through),
   (0xABF0, .none), (0xFB1E, .through), (0xFBB2, .none), (0xFE20, .through), (0xFE45, .none),
   (0x101FD, .through), (0x10280, .none), (0x102E0, .through), (0x102E1, .none),
   (0x10376, .through), (0x10380, .none), (0x10A01, .through), (0x10A10, .none),
   (0x10A38, .through), (0x10A40, .none), (0x10AC0, .both), (0x10AC5, .before), (0x10AC6, .none),
   (0x10AC7, .before), (0x10AC8, .none), (0x10AC9, .before), (0x10ACB, .none), (0x10ACD, .after),
   (0x10ACE, .before), (0x10AD3, .both), (0x10AD7, .after), (0x10AD8, .both), (0x10ADD, .before),
   (0x10ADE, .both), (0x10AE1, .before), (0x10AE2, .none), (0x10AE4, .before),
   (0x10AE5, .through), (0x10AEB, .both), (0x10AEF, .before), (0x10AF0, .none), (0x10B80, .both),
   (0x10B81, .before), (0x10B82, .both), (0x10B83, .before), (0x10B86, .both), (0x10B89, .before),
   (0x10B8A, .both), (0x10B8C, .before), (0x10B8D, .both), (0x10B8E, .before), (0x10B90, .both),
   (0x10B91, .before), (0x10B99, .none), (0x10BA9, .before), (0x10BAD, .both), (0x10BAF, .none),
   (0x10D00, .after), (0x10D01, .both), (0x10D22, .before), (0x10D23, .both), (0x10D24, .through),
   (0x10D30, .none), (0x10D69, .through), (0x10D6E, .none), (0x10EAB, .through), (0x10EAD, .none),
   (0x10EC2, .before), (0x10EC3, .both), (0x10EC5, .none), (0x10EC6, .both), (0x10ED0, .none),
   (0x10EFA, .through), (0x10F00, .none), (0x10F30, .both), (0x10F33, .before), (0x10F34, .both),
   (0x10F45, .none), (0x10F46, .through), (0x10F51, .both), (0x10F54, .before), (0x10F55, .none),
   (0x10F70, .both), (0x10F74, .before), (0x10F76, .both), (0x10F82, .through), (0x10F86, .none),
   (0x10FB0, .both), (0x10FB1, .none), (0x10FB2, .both), (0x10FB4, .before), (0x10FB7, .none),
   (0x10FB8, .both), (0x10FB9, .before), (0x10FBB, .both), (0x10FBD, .before), (0x10FBE, .both),
   (0x10FC0, .none), (0x10FC1, .both), (0x10FC2, .before), (0x10FC4, .both), (0x10FC5, .none),
   (0x10FC9, .before), (0x10FCA, .both), (0x10FCB, .after), (0x10FE0, .none), (0x11001, .through),
   (0x11002, .none), (0x11038, .through), (0x11047, .none), (0x11070, .through), (0x11071, .none),
   (0x11073, .through), (0x11075, .none), (0x1107F, .through), (0x11082, .none),
   (0x110B3, .through), (0x110B7, .none), (0x110B9, .through), (0x110BB, .none),
   (0x110C2, .through), (0x110D0, .none), (0x11100, .through), (0x11103, .none),
   (0x11127, .through), (0x1112C, .none), (0x1112D, .through), (0x11136, .none),
   (0x11173, .through), (0x11174, .none), (0x11180, .through), (0x11182, .none),
   (0x111B6, .through), (0x111BF, .none), (0x111C9, .through), (0x111CD, .none),
   (0x111CF, .through), (0x111D0, .none), (0x1122F, .through), (0x11232, .none),
   (0x11234, .through), (0x11235, .none), (0x11236, .through), (0x11238, .none),
   (0x1123E, .through), (0x1123F, .none), (0x11241, .through), (0x11280, .none),
   (0x112DF, .through), (0x112E0, .none), (0x112E3, .through), (0x112F0, .none),
   (0x11300, .through), (0x11302, .none), (0x1133B, .through), (0x1133D, .none),
   (0x11340, .through), (0x11341, .none), (0x11366, .through), (0x11380, .none),
   (0x113BB, .through), (0x113C2, .none), (0x113CE, .through), (0x113CF, .none),
   (0x113D0, .through), (0x113D1, .none), (0x113D2, .through), (0x113D3, .none),
   (0x113E1, .through), (0x11400, .none), (0x11438, .through), (0x11440, .none),
   (0x11442, .through), (0x11445, .none), (0x11446, .through), (0x11447, .none),
   (0x1145E, .through), (0x1145F, .none), (0x114B3, .through), (0x114B9, .none),
   (0x114BA, .through), (0x114BB, .none), (0x114BF, .through), (0x114C1, .none),
   (0x114C2, .through), (0x114C4, .none), (0x115B2, .through), (0x115B8, .none),
   (0x115BC, .through), (0x115BE, .none), (0x115BF, .through), (0x115C1, .none),
   (0x115DC, .through), (0x11600, .none), (0x11633, .through), (0x1163B, .none),
   (0x1163D, .through), (0x1163E, .none), (0x1163F, .through), (0x11641, .none),
   (0x116AB, .through), (0x116AC, .none), (0x116AD, .through), (0x116AE, .none),
   (0x116B0, .through), (0x116B6, .none), (0x116B7, .through), (0x116B8, .none),
   (0x1171D, .through), (0x1171E, .none), (0x1171F, .through), (0x11720, .none),
   (0x11722, .through), (0x11726, .none), (0x11727, .through), (0x11730, .none),
   (0x1182F, .through), (0x11838, .none), (0x11839, .through), (0x1183B, .none),
   (0x1193B, .through), (0x1193D, .none), (0x1193E, .through), (0x1193F, .none),
   (0x11943, .through), (0x11944, .none), (0x119D4, .through), (0x119DC, .none),
   (0x119E0, .through), (0x119E1, .none), (0x11A01, .through), (0x11A0B, .none),
   (0x11A33, .through), (0x11A39, .none), (0x11A3B, .through), (0x11A3F, .none),
   (0x11A47, .through), (0x11A50, .none), (0x11A51, .through), (0x11A57, .none),
   (0x11A59, .through), (0x11A5C, .none), (0x11A8A, .through), (0x11A97, .none),
   (0x11A98, .through), (0x11A9A, .none), (0x11B60, .through), (0x11B61, .none),
   (0x11B62, .through), (0x11B65, .none), (0x11B66, .through), (0x11B67, .none),
   (0x11C30, .through), (0x11C3E, .none), (0x11C3F, .through), (0x11C40, .none),
   (0x11C92, .through), (0x11CA9, .none), (0x11CAA, .through), (0x11CB1, .none),
   (0x11CB2, .through), (0x11CB4, .none), (0x11CB5, .through), (0x11D00, .none),
   (0x11D31, .through), (0x11D46, .none), (0x11D47, .through), (0x11D50, .none),
   (0x11D90, .through), (0x11D93, .none), (0x11D95, .through), (0x11D96, .none),
   (0x11D97, .through), (0x11D98, .none), (0x11EF3, .through), (0x11EF5, .none),
   (0x11F00, .through), (0x11F02, .none), (0x11F36, .through), (0x11F3E, .none),
   (0x11F40, .through), (0x11F41, .none), (0x11F42, .through), (0x11F43, .none),
   (0x11F5A, .through), (0x11FB0, .none), (0x13440, .through), (0x13441, .none),
   (0x13447, .through), (0x13460, .none), (0x1611E, .through), (0x1612A, .none),
   (0x1612D, .through), (0x16130, .none), (0x16AF0, .through), (0x16AF5, .none),
   (0x16B30, .through), (0x16B37, .none), (0x16F4F, .through), (0x16F50, .none),
   (0x16F8F, .through), (0x16F93, .none), (0x16FE4, .through), (0x16FF0, .none),
   (0x1BC9D, .through), (0x1BC9F, .none), (0x1CF00, .through), (0x1CF50, .none),
   (0x1D167, .through), (0x1D16A, .none), (0x1D17B, .through), (0x1D183, .none),
   (0x1D185, .through), (0x1D18C, .none), (0x1D1AA, .through), (0x1D1AE, .none),
   (0x1D242, .through), (0x1D245, .none), (0x1DA00, .through), (0x1DA37, .none),
   (0x1DA3B, .through), (0x1DA6D, .none), (0x1DA75, .through), (0x1DA76, .none),
   (0x1DA84, .through), (0x1DA85, .none), (0x1DA9B, .through), (0x1DF00, .none),
   (0x1E000, .through), (0x1E100, .none), (0x1E130, .through), (0x1E137, .none),
   (0x1E2AE, .through), (0x1E2C0, .none), (0x1E2EC, .through), (0x1E2F0, .none),
   (0x1E4EC, .through), (0x1E4F0, .none), (0x1E5EE, .through), (0x1E5F0, .none),
   (0x1E6E3, .through), (0x1E6E4, .none), (0x1E6E6, .through), (0x1E6E7, .none),
   (0x1E6EE, .through), (0x1E6F0, .none), (0x1E6F5, .through), (0x1E6FE, .none),
   (0x1E8D0, .through), (0x1E922, .both), (0x1E944, .through), (0x1E950, .none)]

def of (c : Char) : Joining := Steps.value .none steps c.toNat

/-- The first letter that a join does not pass through. -/
def first (t : Text) : Joining := (((t.map of).dropWhile (· == through)).head?).getD none

/-- A sign that takes the vowel off the letter before. -/
def isVowelKiller (c : Char) : Bool := Combining.order c == 9

/-- Every joiner follows a vowel killer, or, if it keeps two letters apart, stands between
letters that would join. `passed` is what stands before, the last character first. -/
def isJoined (passed : Text) : Text → Bool
  | [] => true
  | c :: r =>
    let killed := passed.head?.any isVowelKiller
    (if c = '\u200D' then killed
      else if c = '\u200C' then
        killed || (first passed ∈ [after, both] && first r ∈ [before, both])
      else true) && isJoined (c :: passed) r

end Joining

end LinkCourier.Name
