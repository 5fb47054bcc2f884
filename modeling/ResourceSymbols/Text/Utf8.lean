import ResourceSymbols.Text.CodePoint
import ResourceSymbols.Text.Hex

/-!
# UTF-8

Reading is strict.  It goes octet by octet and keeps the character under way: the
octets still missing, and the range the next of them has to lie in.  The first
octet of a character narrows that range so that no character has two spellings,
none is a surrogate and none lies beyond the last code point.

Writing is strict as well: half of a surrogate pair has no octets.  In the paths of a
file system some halves do have one, those that stand for octets which spell nothing.
-/

namespace ResourceSymbols.Text.Utf8

/-- What is wrong with a run of octets. -/
inductive Defect
  | start
  | continuation
  | truncated
deriving DecidableEq, Repr

/-- The defect in words. -/
def Defect.describe : Defect → String
  | .start => "invalid start byte"
  | .continuation => "invalid continuation byte"
  | .truncated => "unexpected end of data"

/-- Octets that do not spell a character. -/
structure Fault where
  /-- The position of the first of them. -/
  start : Nat
  /-- How many there are. -/
  count : Nat
  /-- The first of them. -/
  octet : UInt8
  defect : Defect
deriving DecidableEq, Repr

/-- The fault in words. -/
def Fault.message (f : Fault) : String :=
  let place :=
    if f.count = 1 then
      let digits := String.ofList (hexDigits 2 f.octet.toNat)
      s!"byte 0x{digits} in position {f.start}"
    else s!"bytes in position {f.start}-{f.start + f.count - 1}"
  s!"'utf-8' codec can't decode {place}: {f.defect.describe}"

/-- A character under way. -/
structure Pending where
  /-- The position of its first octet. -/
  start : Nat
  /-- Its first octet. -/
  octet : UInt8
  /-- The bits read so far. -/
  bits : Nat
  /-- How many octets are to follow. -/
  missing : Nat
  /-- The least next octet. -/
  low : Nat
  /-- The greatest next octet. -/
  high : Nat

/-- What an octet makes of a character: it ends it, or more is to follow, or it is no
part of it. -/
inductive Reading
  | whole (c : Char)
  | more (p : Pending)
  | invalid

/-- Reads the first octet of a character. -/
def lead (position : Nat) (octet : UInt8) : Reading :=
  let n := octet.toNat
  let more (bits missing low high : Nat) : Reading :=
    .more { start := position, octet, bits, missing, low, high }
  if n < 0x80 then .whole (Char.ofNat n)
  else if n < 0xC2 then .invalid
  else if n < 0xE0 then more (n - 0xC0) 1 0x80 0xBF
  else if n = 0xE0 then more 0 2 0xA0 0xBF
  else if n = 0xED then more 0xD 2 0x80 0x9F
  else if n < 0xF0 then more (n - 0xE0) 2 0x80 0xBF
  else if n = 0xF0 then more 0 3 0x90 0xBF
  else if n < 0xF4 then more (n - 0xF0) 3 0x80 0xBF
  else if n = 0xF4 then more 4 3 0x80 0x8F
  else .invalid

/-- Reads the next octet of a character. -/
def Pending.next (p : Pending) (octet : UInt8) : Reading :=
  if p.low ≤ octet.toNat ∧ octet.toNat ≤ p.high then
    let bits := p.bits * 64 + octet.toNat % 64
    if p.missing ≤ 1 then .whole (Char.ofNat bits)
    else .more { p with bits, missing := p.missing - 1, low := 0x80, high := 0xBF }
  else .invalid

/-- The text that the octets from `position` on spell, `pending` being the
character under way. -/
def decodeFrom (position : Nat) (pending : Option Pending) :
    List UInt8 → Except Fault (List Char)
  | [] =>
    match pending with
    | none => .ok []
    | some p =>
      .error { start := p.start, count := position - p.start, octet := p.octet,
               defect := .truncated }
  | octet :: rest =>
    match pending with
    | none =>
      match lead position octet with
      | .whole c => (decodeFrom (position + 1) none rest).map (c :: ·)
      | .more p => decodeFrom (position + 1) (some p) rest
      | .invalid => .error { start := position, count := 1, octet, defect := .start }
    | some p =>
      match p.next octet with
      | .whole c => (decodeFrom (position + 1) none rest).map (c :: ·)
      | .more p => decodeFrom (position + 1) (some p) rest
      | .invalid =>
        .error { start := p.start, count := position - p.start, octet := p.octet,
                 defect := .continuation }

/-- The characters that the octets spell. -/
def decodeCharacters (octets : List UInt8) : Except Fault (List Char) := decodeFrom 0 none octets

/-- The text that the octets spell. -/
def decode (octets : List UInt8) : Except Fault (List Char) :=
  (decodeCharacters octets).map spelled

/-- Halves of surrogate pairs that have no octets. -/
structure Unencodable where
  /-- The position of the first of them. -/
  start : Nat
  /-- How many there are. -/
  count : Nat
  /-- The first of them. -/
  half : Nat
deriving DecidableEq, Repr

/-- The halves in words. -/
def Unencodable.message (u : Unencodable) : String :=
  let place :=
    if u.count = 1 then
      let digits := String.ofList (hexDigits 4 u.half)
      s!"character '\\u{digits}' in position {u.start}"
    else s!"characters in position {u.start}-{u.start + u.count - 1}"
  s!"'utf-8' codec can't encode {place}: surrogates not allowed"

/-- The octets of the code points from `position` on, where `octet?` gives the octets of
halves. -/
def encodeFrom (octet? : Nat → Option UInt8) (position : Nat) :
    List CodePoint → Except Unencodable (List UInt8)
  | [] => .ok []
  | .char c :: ps => (encodeFrom octet? (position + 1) ps).map (String.utf8EncodeChar c ++ ·)
  | .half n :: ps =>
    match octet? n with
    | some octet => (encodeFrom octet? (position + 1) ps).map (octet :: ·)
    | none =>
      .error { start := position, count := (ps.takeWhile CodePoint.isHalf).length + 1, half := n }

/-- The octets that spell the text. -/
def encode (text : String) : Except Unencodable (List UInt8) :=
  encodeFrom (fun _ => none) 0 (codePoints text.toList)

/-- The octet that half of a pair stands for in a path. -/
def escapedOctet? (n : Nat) : Option UInt8 :=
  if 0xDC80 ≤ n ∧ n < 0xDD00 then some (UInt8.ofNat (n - 0xDC00)) else none

/-- The octets that spell the text in a path. -/
def encodePath (text : String) : Except Unencodable (List UInt8) :=
  encodeFrom escapedOctet? 0 (codePoints text.toList)

/-- What an octet adds to a text, and the character that is then under way.  A mark
stands for an octet that starts no character and for a character that breaks off. -/
def readMarking (mark : List Char) (pending : Option Pending) (octet : UInt8) :
    List Char × Option Pending :=
  let afresh :=
    match lead 0 octet with
    | .whole c => ([c], none)
    | .more p => ([], some p)
    | .invalid => (mark, none)
  match pending with
  | none => afresh
  | some p =>
    match p.next octet with
    | .whole c => ([c], none)
    | .more p => ([], some p)
    | .invalid => (mark ++ afresh.1, afresh.2)

/-- As much of a text as the octets spell, `pending` being the character under way. -/
def decodeWithFrom (mark : List Char) (pending : Option Pending) : List UInt8 → List Char
  | [] => if pending.isSome then mark else []
  | octet :: rest =>
    let (cs, pending) := readMarking mark pending octet
    cs ++ decodeWithFrom mark pending rest

/-- As much of a text as the octets spell, with a mark where they spell nothing. -/
def decodeWith (mark : List Char) (octets : List UInt8) : List Char :=
  decodeWithFrom mark none octets

/-- As much of a text as the octets spell, with replacement characters where they spell
nothing. -/
def decodeLossy (octets : List UInt8) : List Char := decodeWith ['\uFFFD'] octets

end ResourceSymbols.Text.Utf8
