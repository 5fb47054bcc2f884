import ResourceSymbols.Console.Handler
import ResourceSymbols.Console.Picture
import ResourceSymbols.Console.Styled

/-!
# Markup

What is printed on the console is text with tags in brackets.  An opening tag
starts a style and a closing one ends it; without colour neither shows.  A
backslash before a tag makes it text, and two backslashes before it are one.

A tag is a bracket, a small letter or one of `#`, `/` and `@`, and what follows up
to the closing bracket.  Any other bracket is text.
-/

namespace ResourceSymbols.Console

/-- A part of a text with tags. -/
inductive Piece
  /-- Text, in which a bracket may stand after a backslash. -/
  | plain (text : List Char)
  /-- Text that stands as it is. -/
  | literal (text : List Char)
  /-- A tag, given with its position and without its brackets. -/
  | tag (position : Nat) (text : List Char)
deriving DecidableEq, Repr

/-- What is wrong with the tags of a text. -/
inductive MarkupError
  /-- No open tag has the name of a closing one. -/
  | unmatched (tag : String) (position : Nat)
  /-- A closing tag names no tag and none is open. -/
  | nothingOpen (position : Nat)
  /-- The parameters of a handler are not understood. -/
  | handler (e : Handler.Error)
deriving DecidableEq, Repr

/-- The error in words. -/
def MarkupError.message : MarkupError → String
  | unmatched tag position =>
    s!"closing tag '[{tag}]' at position {position} doesn't match any open tag"
  | nothingOpen position => s!"closing tag '[/]' at position {position} has nothing to close"
  | handler e => e.message

/-- Why a text cannot be printed. -/
inductive Error
  | markup (e : MarkupError)
  /-- A style cannot be made out. -/
  | style (f : StyleFault)
deriving DecidableEq, Repr

/-- The error in words. -/
def Error.message : Error → String
  | markup e => e.message
  | style f => f.message

/-! ## Taking a text apart -/

/-- Whether a tag may start with `c`. -/
def startsTag (c : Char) : Bool :=
  (decide ('a' ≤ c) && decide (c ≤ 'z')) || c = '#' || c = '/' || c = '@'

/-- The tag at the front, and what follows it. -/
def tagAt? : List Char → Option (List Char × List Char)
  | '[' :: c :: cs =>
    if startsTag c then
      let body := cs.takeWhile fun d => d ≠ ']' && d ≠ '['
      match cs.dropWhile fun d => d ≠ ']' && d ≠ '[' with
      | ']' :: rest => some (c :: body, rest)
      | _ => none
    else none
  | _ => none

/-- Puts text in front of the pieces. -/
def addPlain (text : List Char) : List Piece → List Piece
  | .plain more :: pieces => .plain (text ++ more) :: pieces
  | pieces => .plain text :: pieces

/-- The pieces of a text, which has at most as many as its measure. -/
def pieces : Nat → Nat → List Char → List Piece
  | 0, _, _ => []
  | _ + 1, _, [] => []
  | fuel + 1, position, c :: cs =>
    let run := (c :: cs).takeWhile (· = '\\')
    match tagAt? ((c :: cs).dropWhile (· = '\\')) with
    | some (tag, rest) =>
      let pairs := run.length / 2
      let escapes := if pairs = 0 then [] else [Piece.literal (List.replicate pairs '\\')]
      let piece :=
        if run.length % 2 = 1 then Piece.literal ('[' :: tag ++ [']'])
        else .tag (position + 2 * pairs) tag
      escapes ++ piece :: pieces fuel (position + run.length + Text.pointCount tag + 2) rest
    | none =>
      if run.isEmpty then addPlain [c] (pieces fuel (position + Text.pointCount [c]) cs)
      else addPlain run (pieces fuel (position + run.length) ((c :: cs).drop run.length))

/-! ## Rendering -/

/-- The text without the backslashes that stand before a bracket. -/
def unescape : List Char → List Char
  | '\\' :: '[' :: cs => '[' :: unescape cs
  | c :: cs => c :: unescape cs
  | [] => []

/-- Whether `c` is shown at all: bells, backspaces and the like are not. -/
def isShown (c : Char) : Bool := !([7, 8, 11, 12, 13].contains c.toNat)

/-- The characters that are shown for a text: pictures take the place of their
names. -/
def shown (cs : List Char) : List Char := (withPictures cs).filter isShown

/-- An open tag: where its text starts, its name, and its parameters. -/
structure OpenTag where
  start : Nat
  name : String
  parameters : Option (List Char)

namespace OpenTag

/-- Whether the tag names a handler. -/
def isHandler (t : OpenTag) : Bool := t.name.toList.head? = some '@'

/-- The style of the tag in words. -/
def style (t : OpenTag) : String :=
  match t.parameters with
  | some ps => t.name ++ " " ++ String.ofList ps
  | none => t.name

/-- The span of the tag when it is closed at `stop`. -/
def closedAt (stop : Nat) (t : OpenTag) : Except MarkupError Span :=
  if t.isHandler then
    match Handler.check (t.parameters.getD []) with
    | .ok _ => .ok { start := t.start, stop, style := none }
    | .error e => .error (.handler e)
  else .ok { start := t.start, stop, style := some t.style }

end OpenTag

/-- The last tag of the given name that is open, and the others. -/
def close? (name : String) : List OpenTag → Option (OpenTag × List OpenTag)
  | [] => none
  | t :: ts => if t.name = name then some (t, ts) else (close? name ts).map fun r => (r.1, t :: r.2)

/-- The name of a tag, which ends at the first equals sign, and its parameters. -/
def splitTag (text : List Char) : List Char × Option (List Char) :=
  match Text.cut '=' text with
  | some (name, parameters) => (name, some parameters)
  | none => (text, none)

/-- The open tag that a closing one closes, and the others. -/
def closing (opened : List OpenTag) (position : Nat) (text name : List Char) :
    Except Error (OpenTag × List OpenTag) :=
  if (Text.trimBoth Text.isBlank name).isEmpty then
    match opened with
    | [] => .error (.markup (.nothingOpen position))
    | t :: others => .ok (t, others)
  else
    match styleName name with
    | .error f => .error (.style f)
    | .ok name =>
      match close? name opened with
      | none => .error (.markup (.unmatched (String.ofList text) position))
      | some r => .ok r

/-- The pieces as a text with styles, after the text `before`.  The last tag opened
stands first among the open ones, and the last one closed first among the spans. -/
def assemble (before : List Char) (opened : List OpenTag) (spans : List Span) :
    List Piece → Except Error Styled
  | [] =>
    let left := opened.map fun t => ({ start := t.start, stop := before.length, style := some t.style } : Span)
    .ok { chars := before, spans := (left.reverse ++ spans).mergeSort fun s t => decide (s.start ≤ t.start) }
  | .plain text :: rest => assemble (before ++ shown (unescape text)) opened spans rest
  | .literal text :: rest => assemble (before ++ shown text) opened spans rest
  | .tag position text :: rest =>
    match splitTag text with
    | ('/' :: name, _) =>
      match closing opened position text name with
      | .error e => .error e
      | .ok (t, others) =>
        match t.closedAt before.length with
        | .error e => .error (.markup e)
        | .ok span => assemble before others (span :: spans) rest
    | (name, parameters) =>
      match styleName name with
      | .error f => .error (.style f)
      | .ok name => assemble before ({ start := before.length, name, parameters } :: opened) spans rest

/-- The text with styles that a text with tags stands for. -/
def render (markup : String) : Except Error Styled :=
  assemble [] [] [] (pieces (markup.length + 1) 0 markup.toList)

/-- The lines of a text as they are printed. -/
def printedLines (t : Styled) : Except Error (List Styled) :=
  let lines := t.lines.map Styled.expandTabs
  match lines.findSome? Styled.fault? with
  | some f => .error (.style f)
  | none => .ok lines

/-- What is printed for a text with tags. -/
def printed (markup : String) : Except Error String := do
  let lines ← printedLines (← render markup)
  return String.join (lines.map fun l => String.ofList (l.chars ++ ['\n']))

end ResourceSymbols.Console
