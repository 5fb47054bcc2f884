import ResourceSymbols.Text.Identifier
import ResourceSymbols.Text.LowerCase
import ResourceSymbols.Text.UpperCase

/-!
# Letters

Letters are the characters that start an identifier, less the numbers among them
and with a few forms that a letter takes when it stands alone.  A letter is a
capital or small by its two mappings; some letters have a case and no partner in
the other one.
-/

namespace ResourceSymbols.Text

/-- Runs of code points that start an identifier and are no letters: numbers written as
letters, and signs. -/
def identifierSignSpans : List (Nat × Nat) := [
  (0x16EE, 0x16F0), (0x1885, 0x1886), (0x2118, 0x2118), (0x212E, 0x212E), (0x2160, 0x2182),
  (0x2185, 0x2188), (0x3007, 0x3007), (0x3021, 0x3029), (0x3038, 0x303A), (0xA6E6, 0xA6EF),
  (0x10140, 0x10174), (0x10341, 0x10341), (0x1034A, 0x1034A), (0x103D1, 0x103D5),
  (0x12400, 0x1246E)]

/-- Runs of letters that start no identifier. -/
def looseLetterSpans : List (Nat × Nat) := [
  (0x37A, 0x37A), (0xE33, 0xE33), (0xEB3, 0xEB3), (0x2E2F, 0x2E2F), (0xFC5E, 0xFC63),
  (0xFDFA, 0xFDFB), (0xFE70, 0xFE70), (0xFE72, 0xFE72), (0xFE74, 0xFE74), (0xFE76, 0xFE76),
  (0xFE78, 0xFE78), (0xFE7A, 0xFE7A), (0xFE7C, 0xFE7C), (0xFE7E, 0xFE7E), (0xFF9E, 0xFF9F)]

/-- Whether `c` is a letter of some script. -/
def isLetter (c : Char) : Bool :=
  (inSpans identifierStartSpans c && !inSpans identifierSignSpans c) || inSpans looseLetterSpans c

/-- Runs of capitals without a small letter. -/
def lonelyCapitalSpans : List (Nat × Nat) := [
  (0x3D2, 0x3D4), (0x2102, 0x2102), (0x2107, 0x2107), (0x210B, 0x210D), (0x2110, 0x2112),
  (0x2115, 0x2115), (0x2119, 0x211D), (0x2124, 0x2124), (0x2128, 0x2128), (0x212C, 0x212D),
  (0x2130, 0x2131), (0x2133, 0x2133), (0x213E, 0x213F), (0x2145, 0x2145),
  (0x1D400, 0x1D419), (0x1D434, 0x1D44D), (0x1D468, 0x1D481), (0x1D49C, 0x1D49C),
  (0x1D49E, 0x1D49F), (0x1D4A2, 0x1D4A2), (0x1D4A5, 0x1D4A6), (0x1D4A9, 0x1D4AC),
  (0x1D4AE, 0x1D4B5), (0x1D4D0, 0x1D4E9), (0x1D504, 0x1D505), (0x1D507, 0x1D50A),
  (0x1D50D, 0x1D514), (0x1D516, 0x1D51C), (0x1D538, 0x1D539), (0x1D53B, 0x1D53E),
  (0x1D540, 0x1D544), (0x1D546, 0x1D546), (0x1D54A, 0x1D550), (0x1D56C, 0x1D585),
  (0x1D5A0, 0x1D5B9), (0x1D5D4, 0x1D5ED), (0x1D608, 0x1D621), (0x1D63C, 0x1D655),
  (0x1D670, 0x1D689), (0x1D6A8, 0x1D6C0), (0x1D6E2, 0x1D6FA), (0x1D71C, 0x1D734),
  (0x1D756, 0x1D76E), (0x1D790, 0x1D7A8), (0x1D7CA, 0x1D7CA), (0x1F130, 0x1F149),
  (0x1F150, 0x1F169), (0x1F170, 0x1F189)]

/-- Runs of small letters without a capital. -/
def lonelySmallSpans : List (Nat × Nat) := [
  (0xAA, 0xAA), (0xBA, 0xBA), (0x138, 0x138), (0x18D, 0x18D), (0x19B, 0x19B),
  (0x1AA, 0x1AB), (0x1BA, 0x1BA), (0x1BE, 0x1BE), (0x221, 0x221), (0x234, 0x239),
  (0x255, 0x255), (0x258, 0x258), (0x25A, 0x25A), (0x25D, 0x25F), (0x262, 0x262),
  (0x264, 0x264), (0x267, 0x267), (0x26D, 0x26E), (0x270, 0x270), (0x273, 0x274),
  (0x276, 0x27C), (0x27E, 0x27F), (0x281, 0x281), (0x284, 0x286), (0x28D, 0x291),
  (0x293, 0x293), (0x295, 0x29C), (0x29F, 0x2B8), (0x2C0, 0x2C1), (0x2E0, 0x2E4),
  (0x37A, 0x37A), (0x3FC, 0x3FC), (0x560, 0x560), (0x588, 0x588), (0x1D00, 0x1D78),
  (0x1D7A, 0x1D7C), (0x1D7E, 0x1D8D), (0x1D8F, 0x1DBF), (0x1E9C, 0x1E9D), (0x1E9F, 0x1E9F),
  (0x2071, 0x2071), (0x207F, 0x207F), (0x2090, 0x209C), (0x210A, 0x210A), (0x210E, 0x210F),
  (0x2113, 0x2113), (0x212F, 0x212F), (0x2134, 0x2134), (0x2139, 0x2139), (0x213C, 0x213D),
  (0x2146, 0x2149), (0x2C71, 0x2C71), (0x2C74, 0x2C74), (0x2C77, 0x2C7D), (0x2CE4, 0x2CE4),
  (0xA69C, 0xA69D), (0xA730, 0xA731), (0xA770, 0xA778), (0xA78E, 0xA78E), (0xA795, 0xA795),
  (0xA7AF, 0xA7AF), (0xA7D3, 0xA7D3), (0xA7D5, 0xA7D5), (0xA7F8, 0xA7FA), (0xAB30, 0xAB52),
  (0xAB54, 0xAB5A), (0xAB5C, 0xAB68), (0x10780, 0x10780), (0x10783, 0x10785),
  (0x10787, 0x107B0), (0x107B2, 0x107BA), (0x1D41A, 0x1D433), (0x1D44E, 0x1D454),
  (0x1D456, 0x1D467), (0x1D482, 0x1D49B), (0x1D4B6, 0x1D4B9), (0x1D4BB, 0x1D4BB),
  (0x1D4BD, 0x1D4C3), (0x1D4C5, 0x1D4CF), (0x1D4EA, 0x1D503), (0x1D51E, 0x1D537),
  (0x1D552, 0x1D56B), (0x1D586, 0x1D59F), (0x1D5BA, 0x1D5D3), (0x1D5EE, 0x1D607),
  (0x1D622, 0x1D63B), (0x1D656, 0x1D66F), (0x1D68A, 0x1D6A5), (0x1D6C2, 0x1D6DA),
  (0x1D6DC, 0x1D6E1), (0x1D6FC, 0x1D714), (0x1D716, 0x1D71B), (0x1D736, 0x1D74E),
  (0x1D750, 0x1D755), (0x1D770, 0x1D788), (0x1D78A, 0x1D78F), (0x1D7AA, 0x1D7C2),
  (0x1D7C4, 0x1D7C9), (0x1D7CB, 0x1D7CB), (0x1DF00, 0x1DF09), (0x1DF0B, 0x1DF1E)]

/-- Whether `c` is in upper case. -/
def isCapital (c : Char) : Bool :=
  (lowerCode c.toNat != [c.toNat] && upperCode c.toNat == [c.toNat]) ||
    inSpans lonelyCapitalSpans c

/-- Whether `c` is in lower case. -/
def isSmall (c : Char) : Bool :=
  (upperCode c.toNat != [c.toNat] && lowerCode c.toNat == [c.toNat]) ||
    inSpans lonelySmallSpans c

end ResourceSymbols.Text
