import LinkCourier.Text.Basic
import LinkCourier.Text.Steps

/-!
The direction in which characters are written, and labels that can be read in one way only.
-/

namespace LinkCourier.Name

inductive Direction where
  | left
  | right
  | europeanNumber
  | arabicNumber
  | mark
  | neutral
deriving DecidableEq

namespace Direction

/-- The direction from a character on. -/
def steps : List (Nat × Direction) :=
  [(0, .neutral), (0x30, .europeanNumber), (0x3B, .neutral), (0x61, .left), (0x7B, .neutral),
   (0xDF, .left), (0xF7, .neutral), (0xF8, .left), (0x2B9, .neutral), (0x2BB, .left),
   (0x2C2, .neutral), (0x2D0, .left), (0x2D2, .neutral), (0x2EE, .left), (0x2EF, .neutral),
   (0x300, .mark), (0x371, .left), (0x375, .neutral), (0x377, .left), (0x3F6, .neutral),
   (0x3F8, .left), (0x483, .mark), (0x48B, .left), (0x58A, .neutral), (0x591, .mark),
   (0x5BE, .right), (0x5BF, .mark), (0x5C0, .right), (0x5C1, .mark), (0x5C3, .right),
   (0x5C4, .mark), (0x5C6, .right), (0x5C7, .mark), (0x5D0, .right), (0x606, .neutral),
   (0x608, .right), (0x609, .neutral), (0x60B, .right), (0x60C, .neutral), (0x60D, .right),
   (0x60E, .neutral), (0x610, .mark), (0x61B, .right), (0x64B, .mark), (0x660, .arabicNumber),
   (0x66A, .neutral), (0x66B, .arabicNumber), (0x66D, .right), (0x670, .mark), (0x671, .right),
   (0x6D6, .mark), (0x6DE, .neutral), (0x6DF, .mark), (0x6E5, .right), (0x6E7, .mark),
   (0x6E9, .neutral), (0x6EA, .mark), (0x6EE, .right), (0x6F0, .europeanNumber), (0x6FA, .right),
   (0x711, .mark), (0x712, .right), (0x730, .mark), (0x74D, .right), (0x7A6, .mark),
   (0x7B1, .right), (0x7EB, .mark), (0x7F4, .right), (0x7F6, .neutral), (0x7FA, .right),
   (0x7FD, .mark), (0x7FE, .right), (0x816, .mark), (0x81A, .right), (0x81B, .mark),
   (0x824, .right), (0x825, .mark), (0x828, .right), (0x829, .mark), (0x830, .right),
   (0x859, .mark), (0x85E, .right), (0x897, .mark), (0x8A0, .right), (0x8CA, .mark),
   (0x903, .left), (0x93A, .mark), (0x93B, .left), (0x93C, .mark), (0x93D, .left), (0x941, .mark),
   (0x949, .left), (0x94D, .mark), (0x94E, .left), (0x951, .mark), (0x960, .left), (0x962, .mark),
   (0x964, .left), (0x981, .mark), (0x982, .left), (0x9BC, .mark), (0x9BD, .left), (0x9C1, .mark),
   (0x9C7, .left), (0x9CD, .mark), (0x9CE, .left), (0x9E2, .mark), (0x9E6, .left),
   (0x9F2, .neutral), (0x9F4, .left), (0x9FB, .neutral), (0x9FC, .left), (0x9FE, .mark),
   (0xA03, .left), (0xA3C, .mark), (0xA3E, .left), (0xA41, .mark), (0xA5C, .left), (0xA70, .mark),
   (0xA72, .left), (0xA75, .mark), (0xA76, .left), (0xA81, .mark), (0xA83, .left), (0xABC, .mark),
   (0xABD, .left), (0xAC1, .mark), (0xAC9, .left), (0xACD, .mark), (0xAD0, .left), (0xAE2, .mark),
   (0xAE6, .left), (0xAF1, .neutral), (0xAF9, .left), (0xAFA, .mark), (0xB02, .left),
   (0xB3C, .mark), (0xB3D, .left), (0xB3F, .mark), (0xB40, .left), (0xB41, .mark), (0xB47, .left),
   (0xB4D, .mark), (0xB57, .left), (0xB62, .mark), (0xB66, .left), (0xB82, .mark), (0xB83, .left),
   (0xBC0, .mark), (0xBC1, .left), (0xBCD, .mark), (0xBD0, .left), (0xBF3, .neutral),
   (0xC00, .mark), (0xC01, .left), (0xC04, .mark), (0xC05, .left), (0xC3C, .mark), (0xC3D, .left),
   (0xC3E, .mark), (0xC41, .left), (0xC46, .mark), (0xC58, .left), (0xC62, .mark), (0xC66, .left),
   (0xC78, .neutral), (0xC7F, .left), (0xC81, .mark), (0xC82, .left), (0xCBC, .mark),
   (0xCBD, .left), (0xCCC, .mark), (0xCD5, .left), (0xCE2, .mark), (0xCE6, .left), (0xD00, .mark),
   (0xD02, .left), (0xD3B, .mark), (0xD3D, .left), (0xD41, .mark), (0xD46, .left), (0xD4D, .mark),
   (0xD4E, .left), (0xD62, .mark), (0xD66, .left), (0xD81, .mark), (0xD82, .left), (0xDCA, .mark),
   (0xDCF, .left), (0xDD2, .mark), (0xDD8, .left), (0xE31, .mark), (0xE32, .left), (0xE34, .mark),
   (0xE3F, .neutral), (0xE40, .left), (0xE47, .mark), (0xE4F, .left), (0xEB1, .mark),
   (0xEB2, .left), (0xEB4, .mark), (0xEBD, .left), (0xEC8, .mark), (0xED0, .left), (0xF18, .mark),
   (0xF1A, .left), (0xF35, .mark), (0xF36, .left), (0xF37, .mark), (0xF38, .left), (0xF39, .mark),
   (0xF3A, .neutral), (0xF3E, .left), (0xF71, .mark), (0xF7F, .left), (0xF80, .mark),
   (0xF85, .left), (0xF86, .mark), (0xF88, .left), (0xF8D, .mark), (0xFBE, .left), (0xFC6, .mark),
   (0xFC7, .left), (0x102D, .mark), (0x1031, .left), (0x1032, .mark), (0x1038, .left),
   (0x1039, .mark), (0x103B, .left), (0x103D, .mark), (0x103F, .left), (0x1058, .mark),
   (0x105A, .left), (0x105E, .mark), (0x1061, .left), (0x1071, .mark), (0x1075, .left),
   (0x1082, .mark), (0x1083, .left), (0x1085, .mark), (0x1087, .left), (0x108D, .mark),
   (0x108E, .left), (0x109D, .mark), (0x109E, .left), (0x135D, .mark), (0x1360, .left),
   (0x1390, .neutral), (0x13A0, .left), (0x1400, .neutral), (0x1401, .left), (0x169B, .neutral),
   (0x16A0, .left), (0x1712, .mark), (0x1715, .left), (0x1732, .mark), (0x1734, .left),
   (0x1752, .mark), (0x1760, .left), (0x1772, .mark), (0x1780, .left), (0x17B7, .mark),
   (0x17BE, .left), (0x17C6, .mark), (0x17C7, .left), (0x17C9, .mark), (0x17D4, .left),
   (0x17DB, .neutral), (0x17DC, .left), (0x17DD, .mark), (0x17E0, .left), (0x17F0, .neutral),
   (0x1810, .left), (0x1885, .mark), (0x1887, .left), (0x18A9, .mark), (0x18AA, .left),
   (0x1920, .mark), (0x1923, .left), (0x1927, .mark), (0x1929, .left), (0x1932, .mark),
   (0x1933, .left), (0x1939, .mark), (0x1940, .neutral), (0x1946, .left), (0x19DE, .neutral),
   (0x1A00, .left), (0x1A17, .mark), (0x1A19, .left), (0x1A1B, .mark), (0x1A1E, .left),
   (0x1A56, .mark), (0x1A57, .left), (0x1A58, .mark), (0x1A61, .left), (0x1A62, .mark),
   (0x1A63, .left), (0x1A65, .mark), (0x1A6D, .left), (0x1A73, .mark), (0x1A80, .left),
   (0x1AB0, .mark), (0x1B04, .left), (0x1B34, .mark), (0x1B35, .left), (0x1B36, .mark),
   (0x1B3B, .left), (0x1B3C, .mark), (0x1B3D, .left), (0x1B42, .mark), (0x1B43, .left),
   (0x1B6B, .mark), (0x1B74, .left), (0x1B80, .mark), (0x1B82, .left), (0x1BA2, .mark),
   (0x1BA6, .left), (0x1BA8, .mark), (0x1BAA, .left), (0x1BAB, .mark), (0x1BAE, .left),
   (0x1BE6, .mark), (0x1BE7, .left), (0x1BE8, .mark), (0x1BEA, .left), (0x1BED, .mark),
   (0x1BEE, .left), (0x1BEF, .mark), (0x1BF2, .left), (0x1C2C, .mark), (0x1C34, .left),
   (0x1C36, .mark), (0x1C3B, .left), (0x1CD0, .mark), (0x1CD3, .left), (0x1CD4, .mark),
   (0x1CE1, .left), (0x1CE2, .mark), (0x1CE9, .left), (0x1CED, .mark), (0x1CEE, .left),
   (0x1CF4, .mark), (0x1CF5, .left), (0x1CF8, .mark), (0x1CFA, .left), (0x1DC0, .mark),
   (0x1E01, .left), (0x200C, .neutral), (0x20D0, .mark), (0x2104, .neutral), (0x214E, .left),
   (0x218A, .neutral), (0x2336, .left), (0x237B, .neutral), (0x2395, .left), (0x2396, .neutral),
   (0x26AC, .left), (0x26AD, .neutral), (0x2800, .left), (0x2900, .neutral), (0x2C30, .left),
   (0x2CE5, .neutral), (0x2CEC, .left), (0x2CEF, .mark), (0x2CF3, .left), (0x2CF9, .neutral),
   (0x2D00, .left), (0x2D7F, .mark), (0x2D80, .left), (0x2DE0, .mark), (0x2E00, .neutral),
   (0x3005, .left), (0x3008, .neutral), (0x3021, .left), (0x302A, .mark), (0x302E, .left),
   (0x3030, .neutral), (0x3031, .left), (0x3037, .neutral), (0x303B, .left), (0x303D, .neutral),
   (0x3041, .left), (0x3099, .mark), (0x309D, .left), (0x30A0, .neutral), (0x30A1, .left),
   (0x30FB, .neutral), (0x30FC, .left), (0x31C0, .neutral), (0x31F0, .left), (0x4DC0, .neutral),
   (0x4E00, .left), (0xA490, .neutral), (0xA4D0, .left), (0xA60D, .neutral), (0xA610, .left),
   (0xA66F, .mark), (0xA673, .neutral), (0xA674, .mark), (0xA67E, .neutral), (0xA681, .left),
   (0xA69E, .mark), (0xA6A0, .left), (0xA6F0, .mark), (0xA6F2, .left), (0xA700, .neutral),
   (0xA723, .left), (0xA788, .neutral), (0xA789, .left), (0xA802, .mark), (0xA803, .left),
   (0xA806, .mark), (0xA807, .left), (0xA80B, .mark), (0xA80C, .left), (0xA825, .mark),
   (0xA827, .left), (0xA828, .neutral), (0xA82C, .mark), (0xA830, .left), (0xA838, .neutral),
   (0xA840, .left), (0xA874, .neutral), (0xA880, .left), (0xA8C4, .mark), (0xA8CE, .left),
   (0xA8E0, .mark), (0xA8F2, .left), (0xA8FF, .mark), (0xA900, .left), (0xA926, .mark),
   (0xA92E, .left), (0xA947, .mark), (0xA952, .left), (0xA980, .mark), (0xA983, .left),
   (0xA9B3, .mark), (0xA9B4, .left), (0xA9B6, .mark), (0xA9BA, .left), (0xA9BC, .mark),
   (0xA9BE, .left), (0xA9E5, .mark), (0xA9E6, .left), (0xAA29, .mark), (0xAA2F, .left),
   (0xAA31, .mark), (0xAA33, .left), (0xAA35, .mark), (0xAA40, .left), (0xAA43, .mark),
   (0xAA44, .left), (0xAA4C, .mark), (0xAA4D, .left), (0xAA7C, .mark), (0xAA7D, .left),
   (0xAAB0, .mark), (0xAAB1, .left), (0xAAB2, .mark), (0xAAB5, .left), (0xAAB7, .mark),
   (0xAAB9, .left), (0xAABE, .mark), (0xAAC0, .left), (0xAAC1, .mark), (0xAAC2, .left),
   (0xAAEC, .mark), (0xAAEE, .left), (0xAAF6, .mark), (0xAB01, .left), (0xAB6A, .neutral),
   (0xABC0, .left), (0xABE5, .mark), (0xABE6, .left), (0xABE8, .mark), (0xABE9, .left),
   (0xABED, .mark), (0xABF0, .left), (0xFB1E, .mark), (0xFBB2, .right), (0xFBC3, .neutral),
   (0xFE20, .mark), (0xFE45, .neutral), (0xFE73, .right), (0x10000, .left), (0x10101, .neutral),
   (0x10102, .left), (0x10140, .neutral), (0x1018D, .left), (0x10190, .neutral), (0x101D0, .left),
   (0x101FD, .mark), (0x10280, .left), (0x102E0, .mark), (0x102E1, .europeanNumber),
   (0x10300, .left), (0x10376, .mark), (0x10380, .left), (0x10800, .right), (0x1091F, .neutral),
   (0x10920, .right), (0x10A01, .mark), (0x10A10, .right), (0x10A38, .mark), (0x10A40, .right),
   (0x10AE5, .mark), (0x10AEB, .right), (0x10B39, .neutral), (0x10B40, .right), (0x10D24, .mark),
   (0x10D30, .arabicNumber), (0x10D4A, .right), (0x10D69, .mark), (0x10D6E, .neutral),
   (0x10D6F, .right), (0x10E60, .arabicNumber), (0x10E80, .right), (0x10EAB, .mark),
   (0x10EAD, .right), (0x10ED0, .neutral), (0x10EFA, .mark), (0x10F00, .right), (0x10F46, .mark),
   (0x10F51, .right), (0x10F82, .mark), (0x10F86, .right), (0x11000, .left), (0x11001, .mark),
   (0x11002, .left), (0x11038, .mark), (0x11047, .left), (0x11052, .neutral), (0x11066, .left),
   (0x11070, .mark), (0x11071, .left), (0x11073, .mark), (0x11075, .left), (0x1107F, .mark),
   (0x11082, .left), (0x110B3, .mark), (0x110B7, .left), (0x110B9, .mark), (0x110BB, .left),
   (0x110C2, .mark), (0x110D0, .left), (0x11100, .mark), (0x11103, .left), (0x11127, .mark),
   (0x1112C, .left), (0x1112D, .mark), (0x11136, .left), (0x11173, .mark), (0x11174, .left),
   (0x11180, .mark), (0x11182, .left), (0x111B6, .mark), (0x111BF, .left), (0x111C9, .mark),
   (0x111CD, .left), (0x111CF, .mark), (0x111D0, .left), (0x1122F, .mark), (0x11232, .left),
   (0x11234, .mark), (0x11235, .left), (0x11236, .mark), (0x11238, .left), (0x1123E, .mark),
   (0x1123F, .left), (0x11241, .mark), (0x11280, .left), (0x112DF, .mark), (0x112E0, .left),
   (0x112E3, .mark), (0x112F0, .left), (0x11300, .mark), (0x11302, .left), (0x1133B, .mark),
   (0x1133D, .left), (0x11340, .mark), (0x11341, .left), (0x11366, .mark), (0x11380, .left),
   (0x113BB, .mark), (0x113C2, .left), (0x113CE, .mark), (0x113CF, .left), (0x113D0, .mark),
   (0x113D1, .left), (0x113D2, .mark), (0x113D3, .left), (0x113E1, .mark), (0x11400, .left),
   (0x11438, .mark), (0x11440, .left), (0x11442, .mark), (0x11445, .left), (0x11446, .mark),
   (0x11447, .left), (0x1145E, .mark), (0x1145F, .left), (0x114B3, .mark), (0x114B9, .left),
   (0x114BA, .mark), (0x114BB, .left), (0x114BF, .mark), (0x114C1, .left), (0x114C2, .mark),
   (0x114C4, .left), (0x115B2, .mark), (0x115B8, .left), (0x115BC, .mark), (0x115BE, .left),
   (0x115BF, .mark), (0x115C1, .left), (0x115DC, .mark), (0x11600, .left), (0x11633, .mark),
   (0x1163B, .left), (0x1163D, .mark), (0x1163E, .left), (0x1163F, .mark), (0x11641, .left),
   (0x11660, .neutral), (0x11680, .left), (0x116AB, .mark), (0x116AC, .left), (0x116AD, .mark),
   (0x116AE, .left), (0x116B0, .mark), (0x116B6, .left), (0x116B7, .mark), (0x116B8, .left),
   (0x1171D, .mark), (0x11720, .left), (0x11722, .mark), (0x11726, .left), (0x11727, .mark),
   (0x11730, .left), (0x1182F, .mark), (0x11838, .left), (0x11839, .mark), (0x1183B, .left),
   (0x1193B, .mark), (0x1193D, .left), (0x1193E, .mark), (0x1193F, .left), (0x11943, .mark),
   (0x11944, .left), (0x119D4, .mark), (0x119DC, .left), (0x119E0, .mark), (0x119E1, .left),
   (0x11A01, .mark), (0x11A07, .left), (0x11A09, .mark), (0x11A0B, .left), (0x11A33, .mark),
   (0x11A39, .left), (0x11A3B, .mark), (0x11A3F, .left), (0x11A47, .mark), (0x11A50, .left),
   (0x11A51, .mark), (0x11A57, .left), (0x11A59, .mark), (0x11A5C, .left), (0x11A8A, .mark),
   (0x11A97, .left), (0x11A98, .mark), (0x11A9A, .left), (0x11B60, .mark), (0x11B61, .left),
   (0x11B62, .mark), (0x11B65, .left), (0x11B66, .mark), (0x11B67, .left), (0x11C30, .mark),
   (0x11C3E, .left), (0x11C92, .mark), (0x11CA9, .left), (0x11CAA, .mark), (0x11CB1, .left),
   (0x11CB2, .mark), (0x11CB4, .left), (0x11CB5, .mark), (0x11D00, .left), (0x11D31, .mark),
   (0x11D46, .left), (0x11D47, .mark), (0x11D50, .left), (0x11D90, .mark), (0x11D93, .left),
   (0x11D95, .mark), (0x11D96, .left), (0x11D97, .mark), (0x11D98, .left), (0x11EF3, .mark),
   (0x11EF5, .left), (0x11F00, .mark), (0x11F02, .left), (0x11F36, .mark), (0x11F3E, .left),
   (0x11F40, .mark), (0x11F41, .left), (0x11F42, .mark), (0x11F43, .left), (0x11F5A, .mark),
   (0x11FB0, .left), (0x11FD5, .neutral), (0x11FFF, .left), (0x13440, .mark), (0x13441, .left),
   (0x13447, .mark), (0x13460, .left), (0x1611E, .mark), (0x1612A, .left), (0x1612D, .mark),
   (0x16130, .left), (0x16AF0, .mark), (0x16AF5, .left), (0x16B30, .mark), (0x16B37, .left),
   (0x16F4F, .mark), (0x16F50, .left), (0x16F8F, .mark), (0x16F93, .left), (0x16FE2, .neutral),
   (0x16FE3, .left), (0x16FE4, .mark), (0x16FF0, .left), (0x1BC9D, .mark), (0x1BC9F, .left),
   (0x1CC00, .neutral), (0x1CF00, .mark), (0x1CF50, .left), (0x1D167, .mark), (0x1D16A, .left),
   (0x1D17B, .mark), (0x1D183, .left), (0x1D185, .mark), (0x1D18C, .left), (0x1D1AA, .mark),
   (0x1D1AE, .left), (0x1D1E9, .neutral), (0x1D242, .mark), (0x1D245, .neutral), (0x1D2C0, .left),
   (0x1D300, .neutral), (0x1D360, .left), (0x1DA00, .mark), (0x1DA37, .left), (0x1DA3B, .mark),
   (0x1DA6D, .left), (0x1DA75, .mark), (0x1DA76, .left), (0x1DA84, .mark), (0x1DA85, .left),
   (0x1DA9B, .mark), (0x1DF00, .left), (0x1E000, .mark), (0x1E100, .left), (0x1E130, .mark),
   (0x1E137, .left), (0x1E2AE, .mark), (0x1E2C0, .left), (0x1E2EC, .mark), (0x1E2F0, .left),
   (0x1E2FF, .neutral), (0x1E4D0, .left), (0x1E4EC, .mark), (0x1E4F0, .left), (0x1E5EE, .mark),
   (0x1E5F0, .left), (0x1E6E3, .mark), (0x1E6E4, .left), (0x1E6E6, .mark), (0x1E6E7, .left),
   (0x1E6EE, .mark), (0x1E6F0, .left), (0x1E6F5, .mark), (0x1E6FE, .left), (0x1E800, .right),
   (0x1E8D0, .mark), (0x1E922, .right), (0x1E944, .mark), (0x1E94B, .right), (0x1EEF0, .neutral),
   (0x1F150, .left), (0x1F16D, .neutral), (0x1F170, .left), (0x1F1AD, .neutral), (0x1F1E6, .left),
   (0x1F260, .neutral), (0x20000, .left)]

def of (c : Char) : Direction := Steps.value .left steps c.toNat

/-- A name with such a character in it is read from the right in places. -/
def isRightward (c : Char) : Bool := of c ∈ [right, arabicNumber]

/-- The direction at the end, marks apart. -/
def ending (ds : List Direction) : Option Direction := (ds.reverse.dropWhile (· == mark)).head?

/-- Labels that are read in one way: from the left, or from the right with numbers of one
kind. -/
def isClear (label : Text) : Bool :=
  let ds := label.map of
  match ds.head? with
  | none => true
  | some left =>
    ds.all (· ∈ [left, europeanNumber, mark, neutral]) &&
      ending ds ∈ [some left, some europeanNumber]
  | some right =>
    ds.all (· != left) && ending ds ∈ [some right, some europeanNumber, some arabicNumber] &&
      !(europeanNumber ∈ ds && arabicNumber ∈ ds)
  | _ => false

end Direction

end LinkCourier.Name
