import ResourceSymbols.Json.Members
import ResourceSymbols.Number.Literal
import ResourceSymbols.Text.Lines

/-!
# Reading JSON

A reader takes a value off the front of the characters and gives what remains.
A fault keeps the characters from its place on, and so knows its place in the
whole text.  Besides numbers with digits the words `NaN`, `Infinity` and
`-Infinity` are read.  The escapes of two halves of a surrogate pair are one character,
and half a pair without the other stays what it is.

Integers may be limited in their digits, and values in how deep they are nested.
What goes beyond a limit is no fault of the text and is told apart.
-/

namespace ResourceSymbols.Json

/-- What is wrong with a text that is no JSON. -/
inductive Defect
  | expectedValue
  | expectedName
  | expectedColon
  | expectedComma
  | unterminated
  | controlCharacter
  | escape
  | unicodeEscape
  | extraData
  | byteOrderMark
deriving DecidableEq, Repr

/-- The defect in words. -/
def Defect.describe : Defect → String
  | expectedValue => "Expecting value"
  | expectedName => "Expecting property name enclosed in double quotes"
  | expectedColon => "Expecting ':' delimiter"
  | expectedComma => "Expecting ',' delimiter"
  | unterminated => "Unterminated string starting at"
  | controlCharacter => "Invalid control character at"
  | escape => "Invalid \\escape"
  | unicodeEscape => "Invalid \\uXXXX escape"
  | extraData => "Extra data"
  | byteOrderMark => "Unexpected UTF-8 BOM (decode using utf-8-sig)"

/-- What goes beyond the limits of a reader. -/
inductive Excess
  /-- An integer has more digits than are allowed. -/
  | digits (count : Nat)
  /-- A list, or an object, stands deeper than is allowed. -/
  | depth (isObject : Bool)
deriving DecidableEq, Repr

/-- The excess in words. -/
def Excess.message : Excess → String
  | digits count => Number.tooManyDigitsText count
  | depth isObject =>
    let kind := if isObject then "object" else "array"
    s!"maximum recursion depth exceeded while decoding a JSON {kind} from a unicode string"

/-- Why a text was not read. -/
inductive ReadError
  /-- The text is no JSON. -/
  | malformed (defect : Defect) (place : Text.Place)
  | excess (e : Excess)
deriving DecidableEq, Repr

/-- The error in words. -/
def ReadError.message : ReadError → String
  | malformed defect place => s!"{defect.describe}: {place.describe}"
  | excess e => e.message

/-- How much a reader takes. -/
structure Limits where
  /-- How many digits an integer may have. -/
  digits : Nat
  /-- How many brackets may be open at once. -/
  depth : Nat
deriving DecidableEq, Repr

/-- The limits on documents.  How deep a document may be depends on how much of the stack
is in use where it is read, and is a little more or less for files, bodies, the standard
input and settings.  One number stands for all of them, and the few depths around it at
which the readers part are not told apart. -/
def documentLimits : Limits := { digits := Number.digitLimit, depth := 990 }

namespace Reader

/-- Why no value was taken off the front. -/
inductive Fault
  /-- The defect shows where only `rest` remains. -/
  | defect (d : Defect) (rest : List Char)
  | excess (e : Excess)

/-- Whether `c` may stand between the parts of a document. -/
def isGap (c : Char) : Bool := c = ' ' || c = '\t' || c = '\n' || c = '\r'

/-- The characters from the next part on. -/
def skipGap (cs : List Char) : List Char := cs.dropWhile isGap

/-- Whether `c` is one of the digits 0 to 9. -/
def isDigit (c : Char) : Bool := decide ('0' ≤ c) && decide (c ≤ '9')

/-! ## Texts -/

/-- The number that four hexadecimal digits spell. -/
def codeUnit? (a b c d : Char) : Option Nat :=
  match [a, b, c, d].mapM Number.Literal.digitValue? with
  | some digits => some (Number.Literal.ofDigits 16 digits)
  | none => none

/-- The character that a letter after a backslash stands for. -/
def escaped? : Char → Option Char
  | '"' => some '"'
  | '\\' => some '\\'
  | '/' => some '/'
  | 'b' => some '\x08'
  | 'f' => some '\x0c'
  | 'n' => some '\n'
  | 'r' => some '\r'
  | 't' => some '\t'
  | _ => none

/-- Whether `n` is the first half of a surrogate pair. -/
def isHigh (n : Nat) : Bool := decide (0xD800 ≤ n) && decide (n < 0xDC00)

/-- Whether `n` is the second half of a surrogate pair. -/
def isLow (n : Nat) : Bool := decide (0xDC00 ≤ n) && decide (n < 0xE000)

/-- The spelling of a code unit that stands by itself. -/
def unitSpelling (n : Nat) : List Char :=
  if isHigh n || isLow n then (Text.CodePoint.half n).spelling
  else (Text.CodePoint.char (Char.ofNat n)).spelling

/-- The character that the halves of a surrogate pair stand for. -/
def joinHalves (high low : Nat) : Char :=
  Char.ofNat (0x10000 + (high - 0xD800) * 0x400 + (low - 0xDC00))

/-- The code unit of the escape at the front, if there is one with something
after it: the number, or nothing where its digits are no digits. -/
def laterUnit? : List Char → Option (Option Nat)
  | '\\' :: 'u' :: a :: b :: c :: d :: _ :: _ => some (codeUnit? a b c d)
  | _ => none

/-- The characters up to the closing quote.  `start` is what remained at the
opening one. -/
def textTail (start : List Char) : List Char → Except Fault (List Char × List Char)
  | [] => .error (.defect .unterminated start)
  | '"' :: rest => .ok ([], rest)
  | ['\\'] => .error (.defect .unterminated start)
  | '\\' :: 'u' :: a :: b :: c :: d :: x :: rest =>
    match codeUnit? a b c d with
    | none => .error (.defect .unicodeEscape ('u' :: a :: b :: c :: d :: x :: rest))
    | some n =>
      let next := x :: rest
      match if isHigh n then laterUnit? next else none with
      | some none => .error (.defect .unicodeEscape (next.drop 1))
      | some (some m) =>
        if isLow m then
          (textTail start (next.drop 6)).map fun r => (joinHalves n m :: r.1, r.2)
        else (textTail start next).map fun r => (unitSpelling n ++ r.1, r.2)
      | none => (textTail start next).map fun r => (unitSpelling n ++ r.1, r.2)
  | '\\' :: 'u' :: rest => .error (.defect .unicodeEscape ('u' :: rest))
  | '\\' :: e :: rest =>
    match escaped? e with
    | some c => (textTail start rest).map fun r => (c :: r.1, r.2)
    | none => .error (.defect .escape ('\\' :: e :: rest))
  | c :: rest =>
    if c.toNat < 0x20 then .error (.defect .controlCharacter (c :: rest))
    else (textTail start rest).map fun r => (c :: r.1, r.2)
termination_by cs => cs.length
decreasing_by all_goals (simp +zetaDelta <;> omega)

/-! ## Numbers -/

/-- A point and the digits after it, if there is one with a digit. -/
def fractionDigits : List Char → List Char × List Char
  | '.' :: rest =>
    match rest.takeWhile isDigit with
    | [] => ([], '.' :: rest)
    | ds => (ds, rest.dropWhile isDigit)
  | rest => ([], rest)

/-- The exponent after its mark, if there is one with a digit. -/
def exponentPart : List Char → Option Int × List Char
  | e :: rest =>
    if e = 'e' ∨ e = 'E' then
      let (negative, unsigned) := match rest with
        | '-' :: r => (true, r)
        | '+' :: r => (false, r)
        | r => (false, r)
      match unsigned.takeWhile isDigit with
      | [] => (none, e :: rest)
      | ds =>
        let n : Int := Nat.ofDigitChars 10 ds 0
        (some (if negative then -n else n), unsigned.dropWhile isDigit)
    else (none, e :: rest)
  | [] => (none, [])

/-- A number.  It is an integer if it has neither a fraction nor an exponent. -/
def number (limits : Option Limits) (cs : List Char) : Except Fault (Value × List Char) :=
  let (negative, unsigned) := match cs with
    | '-' :: rest => (true, rest)
    | rest => (false, rest)
  let whole := match unsigned with
    | '0' :: _ => ['0']
    | rest => rest.takeWhile isDigit
  if whole.isEmpty then .error (.defect .expectedValue cs)
  else
    let (fraction, rest) := fractionDigits (unsigned.drop whole.length)
    let (exponent, rest) := exponentPart rest
    if fraction.isEmpty ∧ exponent.isNone then
      if limits.any fun l => decide (l.digits < whole.length) then
        .error (.excess (.digits whole.length))
      else
        let n : Int := Nat.ofDigitChars 10 whole 0
        .ok (.int (if negative then -n else n), rest)
    else
      let digits := Nat.ofDigitChars 10 (whole ++ fraction) 0
      .ok (.real (.ofDecimal negative digits (exponent.getD 0 - fraction.length)), rest)

/-! ## Values -/

/-- Whether no more bracket may be opened when `depth` are open. -/
def isFull (limits : Option Limits) (depth : Nat) : Bool :=
  limits.any fun l => decide (l.depth ≤ depth)

mutual

/-- A value with `depth` brackets open before it.  The measure bounds how deep it
is and how many items it has. -/
def value (limits : Option Limits) (depth : Nat) :
    Nat → List Char → Except Fault (Value × List Char)
  | 0, cs => .error (.defect .expectedValue cs)
  | fuel + 1, cs =>
    match cs with
    | '"' :: rest => (textTail cs rest).map fun r => (.text (String.ofList r.1), r.2)
    | '\x7b' :: rest =>
      if isFull limits depth then .error (.excess (.depth true))
      else
        match skipGap rest with
        | '\x7d' :: rest => .ok (.object [], rest)
        | rest => (members limits (depth + 1) fuel [] rest).map fun r => (.object r.1, r.2)
    | '[' :: rest =>
      if isFull limits depth then .error (.excess (.depth false))
      else
        match skipGap rest with
        | ']' :: rest => .ok (.list [], rest)
        | rest => (items limits (depth + 1) fuel rest).map fun r => (.list r.1, r.2)
    | 'n' :: 'u' :: 'l' :: 'l' :: rest => .ok (.null, rest)
    | 't' :: 'r' :: 'u' :: 'e' :: rest => .ok (.bool true, rest)
    | 'f' :: 'a' :: 'l' :: 's' :: 'e' :: rest => .ok (.bool false, rest)
    | 'N' :: 'a' :: 'N' :: rest => .ok (.real .nan, rest)
    | 'I' :: 'n' :: 'f' :: 'i' :: 'n' :: 'i' :: 't' :: 'y' :: rest =>
      .ok (.real (.infinity false), rest)
    | '-' :: 'I' :: 'n' :: 'f' :: 'i' :: 'n' :: 'i' :: 't' :: 'y' :: rest =>
      .ok (.real (.infinity true), rest)
    | _ => number limits cs

/-- The items of a list from a value on, and the bracket after them. -/
def items (limits : Option Limits) (depth : Nat) :
    Nat → List Char → Except Fault (List Value × List Char)
  | 0, cs => .error (.defect .expectedValue cs)
  | fuel + 1, cs => do
    let (v, rest) ← value limits depth fuel cs
    match skipGap rest with
    | ']' :: rest => return ([v], rest)
    | ',' :: rest =>
      let (vs, rest) ← items limits depth fuel (skipGap rest)
      return (v :: vs, rest)
    | rest => .error (.defect .expectedComma rest)

/-- The members of an object from a name on, after those read already, and the
brace after them. -/
def members (limits : Option Limits) (depth : Nat) :
    Nat → Members → List Char → Except Fault (Members × List Char)
  | 0, _, cs => .error (.defect .expectedName cs)
  | fuel + 1, before, cs =>
    match cs with
    | '"' :: rest => do
      let (name, rest) ← textTail cs rest
      match skipGap rest with
      | ':' :: rest =>
        let (v, rest) ← value limits depth fuel (skipGap rest)
        let all := Members.put (String.ofList name) v before
        match skipGap rest with
        | '\x7d' :: rest => return (all, rest)
        | ',' :: rest => members limits depth fuel all (skipGap rest)
        | rest => .error (.defect .expectedComma rest)
      | rest => .error (.defect .expectedColon rest)
    | _ => .error (.defect .expectedName cs)

end

/-- The fault as an error about the whole text. -/
def Fault.toError (text : List Char) : Fault → ReadError
  | .defect d rest => .malformed d (Text.placeAt text (text.length - rest.length))
  | .excess e => .excess e

/-- The whole text as one value. -/
def document (limits : Option Limits) (text : List Char) : Except ReadError Value :=
  if text.head? = some '\uFEFF' then .error (.malformed .byteOrderMark (Text.placeAt text 0))
  else
    match value limits 0 (2 * text.length + 2) (skipGap text) with
    | .error f => .error (f.toError text)
    | .ok (v, rest) =>
      match skipGap rest with
      | [] => .ok v
      | rest => .error ((Fault.defect .extraData rest).toError text)

end Reader

/-- Reads a document within the limits. -/
def Value.read (text : List Char) : Except ReadError Value :=
  Reader.document (some documentLimits) text

end ResourceSymbols.Json
