import ResourceSymbols.Text.Spelling
import ResourceSymbols.Text.Utf8

/-!
# Encodings of a document sent over a network

A document in UTF-8, UTF-16 or UTF-32 starts with a byte order mark or with a
character below U+0080, so its first four octets tell the encoding.
-/

namespace ResourceSymbols.Text

/-- How the characters of a document are spelt.  A marked document starts with
a byte order mark, which is no part of its text. -/
inductive Encoding
  | utf8 (marked : Bool)
  | utf16 (bigEndian marked : Bool)
  | utf32 (bigEndian marked : Bool)
deriving DecidableEq, Repr

namespace Encoding

/-- The encoding that the first four octets show: by a byte order mark, or by
where they are zero.  Fewer octets show it only if they are the mark of UTF-8 or of
UTF-16. -/
def detect? : List UInt8 → Option Encoding
  | a :: b :: c :: d :: _ =>
    if (a, b, c, d) = (0xFF, 0xFE, 0, 0) then some (.utf32 false true)
    else if (a, b, c, d) = (0, 0, 0xFE, 0xFF) then some (.utf32 true true)
    else if (a, b, c) = (0xEF, 0xBB, 0xBF) then some (.utf8 true)
    else if (a, b) = (0xFF, 0xFE) then some (.utf16 false true)
    else if (a, b) = (0xFE, 0xFF) then some (.utf16 true true)
    else
      match a == 0, b == 0, c == 0, d == 0 with
      | false, false, false, false => some (.utf8 false)
      | true, false, true, false => some (.utf16 true false)
      | false, true, false, true => some (.utf16 false false)
      | true, true, true, false => some (.utf32 true false)
      | false, true, true, true => some (.utf32 false false)
      | _, _, _, _ => none
  | [0xEF, 0xBB, 0xBF] => some (.utf8 true)
  | [0xFF, 0xFE] => some (.utf16 false true)
  | [0xFE, 0xFF] => some (.utf16 true true)
  | _ => none

/-- The number that the octets spell. -/
def unit (bigEndian : Bool) (octets : List UInt8) : Nat :=
  (if bigEndian then octets else octets.reverse).foldl (fun n o => n * 256 + o.toNat) 0

/-- UTF-16; a surrogate stands only in a pair. -/
def utf16Spelling (bigEndian : Bool) : Spelling
  | a, b :: rest =>
    let high := unit bigEndian [a, b]
    if high < 0xD800 ∨ 0xE000 ≤ high then .text [Char.ofNat high] 1
    else
      match rest with
      | c :: d :: _ =>
        let low := unit bigEndian [c, d]
        if high < 0xDC00 ∧ 0xDC00 ≤ low ∧ low < 0xE000 then
          .text [Char.ofNat (0x10000 + (high - 0xD800) * 0x400 + (low - 0xDC00))] 3
        else .nothing 1
      | _ => .nothing 1
  | _, [] => .nothing 1

/-- UTF-32. -/
def utf32Spelling (bigEndian : Bool) : Spelling
  | a, b :: c :: d :: _ =>
    let n := unit bigEndian [a, b, c, d]
    if n < 0xD800 ∨ (0xE000 ≤ n ∧ n < 0x110000) then .text [Char.ofNat n] 3 else .nothing 3
  | _, _ => .nothing 3

/-- The characters that the octets spell in the encoding, if they do. -/
def decode? : Encoding → List UInt8 → Option (List Char)
  | .utf8 marked, octets =>
    (Utf8.decodeCharacters (if marked then octets.drop 3 else octets)).toOption
  | .utf16 bigEndian marked, octets =>
    (utf16Spelling bigEndian).readAll (if marked then octets.drop 2 else octets)
  | .utf32 bigEndian marked, octets =>
    (utf32Spelling bigEndian).readAll (if marked then octets.drop 4 else octets)

/-- As much of a text as octets without a mark spell in the encoding.  Octets that spell
nothing are passed over. -/
def readSome : Encoding → List UInt8 → List Char
  | .utf8 _, octets => Utf8.decodeWith [] octets
  | .utf16 bigEndian _, octets => (utf16Spelling bigEndian).readSome octets
  | .utf32 bigEndian _, octets => (utf32Spelling bigEndian).readSome octets

end Encoding

end ResourceSymbols.Text
