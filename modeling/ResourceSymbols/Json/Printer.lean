import ResourceSymbols.Json.Value
import ResourceSymbols.Number.Decimal
import ResourceSymbols.Number.Shortest
import ResourceSymbols.Text.CodePoint
import ResourceSymbols.Text.Hex

/-!
# Writing JSON

A value is written on one line, or with every item and member on a line of its
own.  A text keeps all characters but quotes, backslashes and controls; on one
line it keeps plain ASCII alone.
-/

namespace ResourceSymbols.Json

/-- The words for reals without digits, as JSON documents spell them. -/
def jsonWords : Number.RealWords := { nan := "NaN", infinity := "Infinity" }

/-- A code unit as an escape. -/
def unitEscape (n : Nat) : List Char := '\\' :: 'u' :: Text.hexDigits 4 n

/-- One character of a text.  `kept` says which characters beyond the controls
stand as they are. -/
def writtenChar (kept : Char → Bool) (c : Char) : List Char :=
  if c = '"' ∨ c = '\\' then ['\\', c]
  else if c = '\n' then ['\\', 'n']
  else if c = '\r' then ['\\', 'r']
  else if c = '\t' then ['\\', 't']
  else if c = '\x0c' then ['\\', 'f']
  else if c = '\x08' then ['\\', 'b']
  else if c.toNat < 0x20 then unitEscape c.toNat
  else if kept c then [c]
  else if c.toNat < 0x10000 then unitEscape c.toNat
  else
    let n := c.toNat - 0x10000
    unitEscape (0xD800 + n / 0x400) ++ unitEscape (0xDC00 + n % 0x400)

/-- A text in its quotes, with every character beyond the controls as it is spelled. -/
def writtenText (s : String) : String :=
  String.ofList ('"' :: s.toList.flatMap (writtenChar fun _ => true) ++ ['"'])

/-- Whether `c` is a visible ASCII character or the space. -/
def isPlain (c : Char) : Bool := decide (c.toNat < 0x7F)

/-- One code point of a text in ASCII. -/
def asciiPoint : Text.CodePoint → List Char
  | .char c => writtenChar isPlain c
  | .half n => unitEscape n

/-- A text in its quotes, in ASCII. -/
def asciiText (s : String) : String :=
  String.ofList ('"' :: (Text.codePoints s.toList).flatMap asciiPoint ++ ['"'])

namespace Value

/-! ## On one line -/

mutual

/-- The value on one line, in ASCII. -/
def compact : Value → String
  | null => "null"
  | bool b => if b then "true" else "false"
  | int n => toString n
  | real x => x.text jsonWords
  | text s => asciiText s
  | list items => "[" ++ ", ".intercalate (compactItems items) ++ "]"
  | object members => "\x7b" ++ ", ".intercalate (compactMembers members) ++ "\x7d"

/-- The values on one line each. -/
def compactItems : List Value → List String
  | [] => []
  | v :: vs => compact v :: compactItems vs

/-- The members on one line each. -/
def compactMembers : List (String × Value) → List String
  | [] => []
  | (name, v) :: members =>
    (asciiText name ++ ": " ++ compact v) :: compactMembers members

end

/-! ## Indented -/

/-- A new line, indented by two spaces for each bracket that is open. -/
def newLine (depth : Nat) : String := "\n" ++ String.ofList (List.replicate (2 * depth) ' ')

/-- The parts between brackets, each on a line of its own. -/
def bracketed (depth : Nat) (opening closing : String) (parts : List String) : String :=
  if parts.isEmpty then opening ++ closing
  else
    opening ++ newLine (depth + 1) ++ (("," ++ newLine (depth + 1)).intercalate parts) ++
      newLine depth ++ closing

mutual

/-- The value over several lines, `depth` brackets being open before it.  An
integer beyond the limit on digits cannot be written. -/
def indentedAt? (depth : Nat) : Value → Option String
  | null => some "null"
  | bool b => some (if b then "true" else "false")
  | int n => Number.decimal? n
  | real x => some (x.text jsonWords)
  | text s => some (writtenText s)
  | list items => (indentedItems? (depth + 1) items).map (bracketed depth "[" "]")
  | object members =>
    (indentedMembers? (depth + 1) members).map (bracketed depth "\x7b" "\x7d")

/-- The values over several lines each. -/
def indentedItems? (depth : Nat) : List Value → Option (List String)
  | [] => some []
  | v :: vs =>
    match indentedAt? depth v, indentedItems? depth vs with
    | some t, some ts => some (t :: ts)
    | _, _ => none

/-- The members over several lines each. -/
def indentedMembers? (depth : Nat) : List (String × Value) → Option (List String)
  | [] => some []
  | (name, v) :: members =>
    match indentedAt? depth v, indentedMembers? depth members with
    | some t, some ts => some ((writtenText name ++ ": " ++ t) :: ts)
    | _, _ => none

end

/-- The value over several lines. -/
def indented? (v : Value) : Option String := v.indentedAt? 0

/-! ## Piece by piece -/

/-- Whether the value has parts. -/
def hasParts : Value → Bool
  | list _ | object _ => true
  | _ => false

/-- A value without parts in one piece, if it can be written. -/
def plain? : Value → Option String
  | null => some "null"
  | bool b => some (if b then "true" else "false")
  | int n => Number.decimal? n
  | real x => some (x.text jsonWords)
  | text s => some (writtenText s)
  | list _ => some "[]"
  | object _ => some "\x7b\x7d"

mutual

/-- The pieces in which the value is written over several lines, `depth` brackets being
open before it.  One piece is missing for each integer that cannot be written. -/
def piecesAt (depth : Nat) : Value → List (Option String)
  | list items =>
    if items.isEmpty then [some "[]"]
    else
      itemPieces (depth + 1) ("[" ++ newLine (depth + 1)) items ++
        [some (newLine depth), some "]"]
  | object members =>
    if members.isEmpty then [some "\x7b\x7d"]
    else
      some "\x7b" :: some (newLine (depth + 1)) :: memberPieces (depth + 1) members ++
        [some (newLine depth), some "\x7d"]
  | v => [v.plain?]

/-- The pieces of the items, `front` being what stands before the first.  It is one piece
with an item that has no parts. -/
def itemPieces (depth : Nat) (front : String) : List Value → List (Option String)
  | [] => []
  | v :: vs =>
    (if v.hasParts then some front :: piecesAt depth v else [v.plain?.map (front ++ ·)]) ++
      itemPieces depth ("," ++ newLine depth) vs

/-- The pieces of the members. -/
def memberPieces (depth : Nat) : List (String × Value) → List (Option String)
  | [] => []
  | (name, v) :: members =>
    some (writtenText name) :: some ": " :: piecesAt depth v ++
      (if members.isEmpty then []
        else some ("," ++ newLine depth) :: memberPieces depth members)

end

/-- The pieces in which the value is written over several lines. -/
def pieces (v : Value) : List (Option String) := v.piecesAt 0

end Value

end ResourceSymbols.Json
