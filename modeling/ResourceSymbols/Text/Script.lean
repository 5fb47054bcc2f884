import ResourceSymbols.Text.CharSpan

/-!
# Scripts

Which characters belong to the scripts that a spelling is judged by.
-/

namespace ResourceSymbols.Text

/-- Runs of Latin letters. -/
def latinSpans : List (Nat × Nat) := [
  (0x41, 0x5A), (0x61, 0x7A), (0xC0, 0xD6), (0xD8, 0xF6), (0xF8, 0x2AF), (0x1D00, 0x1D25),
  (0x1D62, 0x1D65), (0x1D6B, 0x1D77), (0x1D79, 0x1D9A), (0x1E00, 0x1EFF), (0x2071, 0x2071),
  (0x207F, 0x207F), (0x2090, 0x209C), (0x2184, 0x2184), (0x2C2E, 0x2C2E), (0x2C5E, 0x2C5E),
  (0x2C60, 0x2C7C), (0x2C7E, 0x2C7F), (0xA722, 0xA76F), (0xA771, 0xA787), (0xA78B, 0xA7CA),
  (0xA7D0, 0xA7D1), (0xA7D3, 0xA7D3), (0xA7D5, 0xA7D9), (0xA7F5, 0xA7F7), (0xA7FA, 0xA7FF),
  (0xAB30, 0xAB5A), (0xAB60, 0xAB64), (0xAB66, 0xAB68), (0xFB00, 0xFB06), (0xFF21, 0xFF3A),
  (0xFF41, 0xFF5A), (0x1DF00, 0x1DF1E)]

/-- Whether `c` is a Latin letter. -/
def isLatin (c : Char) : Bool := inSpans latinSpans c

/-- Runs of ideographs, their radicals and strokes. -/
def ideographSpans : List (Nat × Nat) := [
  (0x2E80, 0x2E99), (0x2E9B, 0x2EF3), (0x31C0, 0x31E3), (0x3400, 0x4DBF), (0x4E00, 0x9FFF),
  (0xF900, 0xFA6D), (0xFA70, 0xFAD9), (0x1F210, 0x1F212), (0x1F214, 0x1F23B),
  (0x1F240, 0x1F248), (0x20000, 0x2A6DF), (0x2A700, 0x2B738), (0x2B740, 0x2B81D),
  (0x2B820, 0x2CEA1), (0x2CEB0, 0x2EBE0), (0x2F800, 0x2FA1D), (0x30000, 0x3134A)]

/-- Whether `c` is an ideograph or a part of one. -/
def isIdeograph (c : Char) : Bool := inSpans ideographSpans c

/-- Runs of the letters of scripts that set no blanks between words: ideographs, kana,
Hangul and Thai. -/
def unspacedSpans : List (Nat × Nat) := [
  (0xE01, 0xE30), (0xE32, 0xE33), (0xE40, 0xE46), (0x1100, 0x11FF), (0x3041, 0x3096),
  (0x309D, 0x309F), (0x30A1, 0x30FA), (0x30FC, 0x30FF), (0x3131, 0x318E), (0x31F0, 0x31FF),
  (0x3400, 0x4DBF), (0x4E00, 0x9FFF), (0xA960, 0xA97C), (0xAC00, 0xD7A3), (0xD7B0, 0xD7C6),
  (0xD7CB, 0xD7FB), (0xF900, 0xFA6D), (0xFA70, 0xFAD9), (0xFF66, 0xFFBE), (0xFFC2, 0xFFC7),
  (0xFFCA, 0xFFCF), (0xFFD2, 0xFFD7), (0xFFDA, 0xFFDC), (0x1AFF0, 0x1AFF3),
  (0x1AFF5, 0x1AFFB), (0x1AFFD, 0x1AFFE), (0x1B000, 0x1B001), (0x1B11F, 0x1B122),
  (0x1B150, 0x1B152), (0x1B164, 0x1B167), (0x20000, 0x2A6DF), (0x2A700, 0x2B738),
  (0x2B740, 0x2B81D), (0x2B820, 0x2CEA1), (0x2CEB0, 0x2EBE0), (0x2F800, 0x2FA1D),
  (0x30000, 0x3134A)]

/-- Whether `c` is a letter of a script that sets no blanks between words. -/
def isUnspaced (c : Char) : Bool := inSpans unspacedSpans c

/-- Runs of Arabic characters. -/
def arabicSpans : List (Nat × Nat) := [
  (0x600, 0x60A), (0x60C, 0x6FF), (0x750, 0x77F), (0x870, 0x88E), (0x890, 0x891),
  (0x898, 0x8FF), (0x206C, 0x206D), (0xFB50, 0xFBC2), (0xFBD3, 0xFD3D), (0xFD40, 0xFD8F),
  (0xFD92, 0xFDC7), (0xFDCF, 0xFDCF), (0xFDF0, 0xFDFB), (0xFDFD, 0xFDFF), (0xFE70, 0xFE74),
  (0xFE76, 0xFEFC), (0x1EE00, 0x1EE03), (0x1EE05, 0x1EE1F), (0x1EE21, 0x1EE22),
  (0x1EE24, 0x1EE24), (0x1EE27, 0x1EE27), (0x1EE29, 0x1EE32), (0x1EE34, 0x1EE37),
  (0x1EE39, 0x1EE39), (0x1EE3B, 0x1EE3B), (0x1EE42, 0x1EE42), (0x1EE47, 0x1EE47),
  (0x1EE49, 0x1EE49), (0x1EE4B, 0x1EE4B), (0x1EE4D, 0x1EE4F), (0x1EE51, 0x1EE52),
  (0x1EE54, 0x1EE54), (0x1EE57, 0x1EE57), (0x1EE59, 0x1EE59), (0x1EE5B, 0x1EE5B),
  (0x1EE5D, 0x1EE5D), (0x1EE5F, 0x1EE5F), (0x1EE61, 0x1EE62), (0x1EE64, 0x1EE64),
  (0x1EE67, 0x1EE6A), (0x1EE6C, 0x1EE72), (0x1EE74, 0x1EE77), (0x1EE79, 0x1EE7C),
  (0x1EE7E, 0x1EE7E), (0x1EE80, 0x1EE89), (0x1EE8B, 0x1EE9B), (0x1EEA1, 0x1EEA3),
  (0x1EEA5, 0x1EEA9), (0x1EEAB, 0x1EEBB), (0x1EEF0, 0x1EEF1)]

/-- Whether `c` is Arabic. -/
def isArabic (c : Char) : Bool := inSpans arabicSpans c

/-- Runs of Arabic letters in the form that they take when they stand alone. -/
def isolatedFormSpans : List (Nat × Nat) := [
  (0x6E2, 0x6E2), (0xFB50, 0xFB50), (0xFB52, 0xFB52), (0xFB56, 0xFB56), (0xFB5A, 0xFB5A),
  (0xFB5E, 0xFB5E), (0xFB62, 0xFB62), (0xFB66, 0xFB66), (0xFB6A, 0xFB6A), (0xFB6E, 0xFB6E),
  (0xFB72, 0xFB72), (0xFB76, 0xFB76), (0xFB7A, 0xFB7A), (0xFB7E, 0xFB7E), (0xFB82, 0xFB82),
  (0xFB84, 0xFB84), (0xFB86, 0xFB86), (0xFB88, 0xFB88), (0xFB8A, 0xFB8A), (0xFB8C, 0xFB8C),
  (0xFB8E, 0xFB8E), (0xFB92, 0xFB92), (0xFB96, 0xFB96), (0xFB9A, 0xFB9A), (0xFB9E, 0xFB9E),
  (0xFBA0, 0xFBA0), (0xFBA4, 0xFBA4), (0xFBA6, 0xFBA6), (0xFBAA, 0xFBAA), (0xFBAE, 0xFBAE),
  (0xFBB0, 0xFBB0), (0xFBD3, 0xFBD3), (0xFBD7, 0xFBD7), (0xFBD9, 0xFBD9), (0xFBDB, 0xFBDB),
  (0xFBDD, 0xFBDE), (0xFBE0, 0xFBE0), (0xFBE2, 0xFBE2), (0xFBE4, 0xFBE4), (0xFBEA, 0xFBEA),
  (0xFBEC, 0xFBEC), (0xFBEE, 0xFBEE), (0xFBF0, 0xFBF0), (0xFBF2, 0xFBF2), (0xFBF4, 0xFBF4),
  (0xFBF6, 0xFBF6), (0xFBF9, 0xFBF9), (0xFBFC, 0xFBFC), (0xFC00, 0xFC63), (0xFCF5, 0xFD10),
  (0xFD3D, 0xFD3D), (0xFDF0, 0xFDF9), (0xFE70, 0xFE70), (0xFE72, 0xFE72), (0xFE74, 0xFE74),
  (0xFE76, 0xFE76), (0xFE78, 0xFE78), (0xFE7A, 0xFE7A), (0xFE7C, 0xFE7C), (0xFE7E, 0xFE7E),
  (0xFE80, 0xFE81), (0xFE83, 0xFE83), (0xFE85, 0xFE85), (0xFE87, 0xFE87), (0xFE89, 0xFE89),
  (0xFE8D, 0xFE8D), (0xFE8F, 0xFE8F), (0xFE93, 0xFE93), (0xFE95, 0xFE95), (0xFE99, 0xFE99),
  (0xFE9D, 0xFE9D), (0xFEA1, 0xFEA1), (0xFEA5, 0xFEA5), (0xFEA9, 0xFEA9), (0xFEAB, 0xFEAB),
  (0xFEAD, 0xFEAD), (0xFEAF, 0xFEAF), (0xFEB1, 0xFEB1), (0xFEB5, 0xFEB5), (0xFEB9, 0xFEB9),
  (0xFEBD, 0xFEBD), (0xFEC1, 0xFEC1), (0xFEC5, 0xFEC5), (0xFEC9, 0xFEC9), (0xFECD, 0xFECD),
  (0xFED1, 0xFED1), (0xFED5, 0xFED5), (0xFED9, 0xFED9), (0xFEDD, 0xFEDD), (0xFEE1, 0xFEE1),
  (0xFEE5, 0xFEE5), (0xFEE9, 0xFEE9), (0xFEED, 0xFEED), (0xFEEF, 0xFEEF), (0xFEF1, 0xFEF1),
  (0xFEF5, 0xFEF5), (0xFEF7, 0xFEF7), (0xFEF9, 0xFEF9), (0xFEFB, 0xFEFB)]

/-- Whether `c` is an Arabic letter in the form that it takes when it stands alone. -/
def isIsolatedForm (c : Char) : Bool := inSpans isolatedFormSpans c

end ResourceSymbols.Text
