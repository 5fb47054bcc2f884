import ResourceSymbols.Number.Literal
import ResourceSymbols.Text.CharacterName

/-!
# Escapes in texts

A text between quotes may hold escapes.  One that is cut short, or that gives no
character, is a fault.  Its place is counted in a form of the text in which every
character outside of ASCII is an escape of ten characters.
-/

namespace ResourceSymbols.Console.Handler

/-- The kind of a text between quotes. -/
inductive TextKind
  | plain
  | octets
  | formatted
deriving DecidableEq, Repr

/-- A fault in a text between quotes. -/
inductive TextFault
  | notAscii
  | badOctet (place : Nat)
  /-- An escape that is wrong in the given way, with its first and last place. -/
  | badEscape (first last : Nat) (cause : String)
  /-- A formatted text that is not put together well. -/
  | formatting (message : String)
  /-- A mistake in an expression within a formatted text. -/
  | expression (message : String)
deriving DecidableEq, Repr

/-- The fault in words. -/
def TextFault.message : TextFault → String
  | notAscii => "bytes can only contain ASCII literal characters"
  | badOctet place => s!"(value error) invalid \\x escape at position {place}"
  | badEscape first last cause =>
    s!"(unicode error) 'unicodeescape' codec can't decode bytes in position {first}-{last}: " ++
      cause
  | formatting message | expression message => message

/-- How many places a character takes. -/
def places (c : Char) : Nat := if c.toNat < 128 then 1 else 10

/-- How many places characters take.  A backslash takes five more in front of a character
outside of ASCII. -/
def placesOf : List Char → Nat
  | [] => 0
  | '\\' :: c :: cs => (if c.toNat < 128 then 2 else 16) + placesOf cs
  | c :: cs => places c + placesOf cs

/-- Whether `c` is a hexadecimal digit. -/
def isHexDigit (c : Char) : Bool := (Number.Literal.digitValue? c).isSome

/-- The fault of an escape that gives a character by its number, which takes `digits`
digits; the characters are those after the letter of the escape. -/
def numberFault? (place digits : Nat) (form : String) (cs : List Char) : Option TextFault :=
  let given := (cs.take digits).takeWhile isHexDigit
  if given.length < digits then
    some (.badEscape place (place + 1 + given.length) s!"truncated {form} escape")
  else if 0x10FFFF < Number.Literal.ofDigits 16 (given.filterMap Number.Literal.digitValue?) then
    some (.badEscape place (place + 1 + digits) "illegal Unicode character")
  else none

/-- The fault of an escape that gives a character by its name. -/
def nameFault? (place : Nat) (cs : List Char) : Option TextFault :=
  let malformed (last : Nat) :=
    some (TextFault.badEscape place last "malformed \\N character escape")
  match cs with
  | '\x7b' :: rest =>
    let name := rest.takeWhile (· ≠ '\x7d')
    let last := place + 2 + placesOf name
    if name.length = rest.length then malformed last
    else if name.isEmpty then malformed last
    else if Text.CharacterName.isName name then none
    else some (.badEscape place (last + 1) "unknown Unicode character name")
  | _ => malformed (place + 1)

/-- The first fault in the escapes of a text that starts at the place. -/
def escapeFault? (place : Nat) : List Char → Option TextFault
  | [] => none
  | '\\' :: 'x' :: cs =>
    (numberFault? place 2 "\\xXX" cs).or (escapeFault? (place + 2) cs)
  | '\\' :: 'u' :: cs =>
    (numberFault? place 4 "\\uXXXX" cs).or (escapeFault? (place + 2) cs)
  | '\\' :: 'U' :: cs =>
    (numberFault? place 8 "\\UXXXXXXXX" cs).or (escapeFault? (place + 2) cs)
  | '\\' :: 'N' :: cs => (nameFault? place cs).or (escapeFault? (place + 2) cs)
  | '\\' :: c :: cs =>
    escapeFault? (if c.toNat < 128 then place + 2 else place + 16) cs
  | c :: cs => escapeFault? (place + places c) cs

/-- The first fault in the escapes of octets that start at the place. -/
def octetFault? (place : Nat) : List Char → Option TextFault
  | [] => none
  | '\\' :: 'x' :: cs =>
    if ((cs.take 2).takeWhile isHexDigit).length = 2 then octetFault? (place + 2) cs
    else some (.badOctet place)
  | '\\' :: _ :: cs => octetFault? (place + 2) cs
  | _ :: cs => octetFault? (place + 1) cs

/-- The first fault in the characters of a text, or of a part of one; `isRaw` says that
it has no escapes. -/
def textFault? (kind : TextKind) (isRaw : Bool) (cs : List Char) : Option TextFault :=
  match kind with
  | .octets =>
    if !cs.all (fun c => c.toNat < 128) then some .notAscii
    else if isRaw then none
    else octetFault? 0 cs
  | .plain | .formatted => if isRaw then none else escapeFault? 0 cs

end ResourceSymbols.Console.Handler
