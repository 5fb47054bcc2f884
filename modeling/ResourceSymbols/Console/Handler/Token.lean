import ResourceSymbols.Console.Handler.Escape
import ResourceSymbols.Text.Hex
import ResourceSymbols.Text.Identifier
import ResourceSymbols.Text.Printable

/-!
# Tokens of parameters

The parameters of a handler are written as a literal.  Its characters come apart
into names, numbers, texts and marks.  Where they do not, the tokens end with the
fault; they also end so where a bracket is still open.

## Main results

* `Fault.isFinal_of_neverClosed` — an open bracket lets the tokens before it be
  judged.
-/

namespace ResourceSymbols.Console.Handler

/-- A token of a literal. -/
inductive Token
  | name (s : String)
  | number (imaginary : Bool)
  | text (kind : TextKind) (fault? : Option TextFault)
  /-- A formatted text that has not been looked into. -/
  | formatted (isRaw : Bool) (body : List Char)
  | mark (s : String)
  | lineEnd
  /-- Blanks at the start of a line that is not the first one. -/
  | indent
  | finish
deriving DecidableEq, Repr

/-- Words that are no names. -/
def keywords : List String :=
  ["and", "as", "assert", "async", "break", "class", "continue", "def", "del", "elif", "else",
    "except", "finally", "for", "from", "global", "if", "import", "in", "is", "nonlocal", "not",
    "or", "pass", "raise", "return", "try", "while", "with", "lambda", "yield", "await"]

/-- Words for values. -/
def valueWords : List String := ["None", "True", "False"]

/-- Whether the word is a name. -/
def isName (s : String) : Bool :=
  !(keywords.contains s || valueWords.contains s)

/-- A fault in the characters of a literal. -/
inductive Fault
  /-- A bracket on the given line is still open at the end. -/
  | neverClosed (opening : Char) (line : Nat)
  | unmatched (closing : Char)
  /-- The closing bracket is of another kind than the opening one, which may stand on
  a line before it. -/
  | mismatched (closing opening : Char) (line : Option Nat)
  | tooNested
  | unterminatedText (line : Nat)
  | unterminatedLongText (line : Nat)
  | invalidCharacter (c : Char)
  | invalidNumber (kind : String)
  | invalidDigit (c : Char) (kind : String)
  | leadingZeros
  | unexpectedEnd
  /-- Something stands after a backslash that goes on with the line; the last bracket
  that is still open, with its line. -/
  | afterContinuation (opened : Option (Char × Nat))
deriving DecidableEq, Repr

namespace Fault

/-- A code point as messages give it. -/
def codePoint (c : Char) : String :=
  let digits := (Nat.toDigits 16 c.toNat).map Char.toUpper
  "U+" ++ String.ofList (List.replicate (4 - digits.length) '0' ++ digits)

/-- The fault in words. -/
def message : Fault → String
  | neverClosed c _ => s!"'{c}' was never closed"
  | unmatched c => s!"unmatched '{c}'"
  | mismatched c o none =>
    s!"closing parenthesis '{c}' does not match opening parenthesis '{o}'"
  | mismatched c o (some line) =>
    s!"closing parenthesis '{c}' does not match opening parenthesis '{o}' on line {line}"
  | tooNested => "too many nested parentheses"
  | unterminatedText line => s!"unterminated string literal (detected at line {line})"
  | unterminatedLongText line =>
    s!"unterminated triple-quoted string literal (detected at line {line})"
  | invalidCharacter c =>
    if Text.isPrintable c then s!"invalid character '{c}' ({codePoint c})"
    else s!"invalid non-printable character {codePoint c}"
  | invalidNumber kind => s!"invalid {kind} literal"
  | invalidDigit c kind => s!"invalid digit '{c}' in {kind} literal"
  | leadingZeros =>
    "leading zeros in decimal integer literals are not permitted; " ++
      "use an 0o prefix for octal integers"
  | unexpectedEnd => "unexpected EOF while parsing"
  | afterContinuation _ => "unexpected character after line continuation character"

/-- Whether the fault is told whatever stands before it. -/
def isFinal : Fault → Bool
  | neverClosed _ _ | unexpectedEnd | afterContinuation _ => false
  | _ => true

/-- The fault that it is where the tokens are only passed over. -/
def passedOver : Fault → Fault
  | afterContinuation (some (c, line)) => neverClosed c line
  | fault => fault

theorem isFinal_of_neverClosed (c : Char) (line : Nat) :
    (neverClosed c line).isFinal = false := rfl

end Fault

/-! ## Names -/

/-- Whether `c` is an ASCII letter. -/
def isLetter (c : Char) : Bool :=
  (decide ('a' ≤ c) && decide (c ≤ 'z')) || (decide ('A' ≤ c) && decide (c ≤ 'Z'))

/-- Whether `c` is one of the digits 0 to 9. -/
def isDigit (c : Char) : Bool := decide ('0' ≤ c) && decide (c ≤ '9')

/-- Whether a name may start with `c`, or any other script be asked about it. -/
def startsName (c : Char) : Bool := isLetter c || c = '_' || decide (128 ≤ c.toNat)

/-- Whether `c` may stand within a name, or any other script be asked about it. -/
def inName (c : Char) : Bool := startsName c || isDigit c

/-- The first character that does not belong where it stands in a name. -/
def strayIn? : List Char → Option Char
  | [] => none
  | c :: cs =>
    if Text.isIdentifierStart c then cs.find? fun d => !Text.isIdentifierRest d else some c

/-! ## Texts -/

/-- The kind of text that a name directly before a quote asks for. -/
def textKind? (name : String) : Option TextKind :=
  match name.toLower with
  | "" | "r" | "u" => some .plain
  | "b" | "br" | "rb" => some .octets
  | "f" | "fr" | "rf" => some .formatted
  | _ => none

/-- The characters up to a quote on the same line, and what follows it.  A backslash takes
the end of a line into the text. -/
def shortText (quote : Char) (line : Nat) : List Char → Except Fault (List Char × List Char)
  | [] => .error (.unterminatedText line)
  | '\\' :: c :: cs =>
    (shortText quote (if c = '\n' then line + 1 else line) cs).map fun r => ('\\' :: c :: r.1, r.2)
  | c :: cs =>
    if c = quote then .ok ([], cs)
    else if c = '\n' then .error (.unterminatedText line)
    else (shortText quote line cs).map fun r => (c :: r.1, r.2)

/-- The characters up to three quotes, and what follows them. -/
def longText? (quote : Char) : List Char → Option (List Char × List Char)
  | '\\' :: c :: cs => (longText? quote cs).map fun r => ('\\' :: c :: r.1, r.2)
  | a :: b :: c :: cs =>
    if a = quote ∧ b = quote ∧ c = quote then some ([], cs)
    else (longText? quote (b :: c :: cs)).map fun r => (a :: r.1, r.2)
  | _ => none

/-- A text from its opening quote on: its characters and what follows it. -/
def textAt (line lines : Nat) : List Char → Except Fault (List Char × List Char)
  | a :: b :: c :: cs =>
    if a = b ∧ b = c then
      match longText? a cs with
      | some r => .ok r
      | none => .error (.unterminatedLongText lines)
    else shortText a line (b :: c :: cs)
  | a :: cs => shortText a line cs
  | [] => .error (.unterminatedText line)

/-! ## Numbers -/

/-- The words that may follow a number directly. -/
def wordsAfterNumber : List String := ["and", "else", "for", "or", "not"]

/-- Two letters that may follow a number directly, even if a longer name starts with
them. -/
def lettersAfterNumber : List String := ["if", "in", "is"]

/-- Whether a number may have the characters after it although a name starts there. -/
def mayFollowNumber (cs : List Char) : Bool :=
  (lettersAfterNumber.any fun w => w.toList.isPrefixOf cs) ||
    wordsAfterNumber.any fun w => w.toList.isPrefixOf cs && !(cs.drop w.length).head?.any inName

/-- Checks that a number ends before the characters. -/
def checkEnd (kind : String) (cs : List Char) : Except Fault Unit :=
  if mayFollowNumber cs then .ok ()
  else if cs.head?.any fun c => isLetter c || isDigit c || c = '_' then
    .error (.invalidNumber kind)
  else .ok ()

/-- The digits at the front and what follows them.  One underscore may stand between
two digits, and at the front where `wanted` says so. -/
def digitsFrom (accepts : Char → Bool) (kind : String) :
    List Char → Except Fault (List Char × List Char)
  | [] => .ok ([], [])
  | '_' :: d :: cs =>
    if accepts d then (digitsFrom accepts kind cs).map fun r => (d :: r.1, r.2)
    else .error (.invalidNumber kind)
  | ['_'] => .error (.invalidNumber kind)
  | c :: cs =>
    if accepts c then (digitsFrom accepts kind cs).map fun r => (c :: r.1, r.2)
    else .ok ([], c :: cs)

/-- What follows a number whose mark names the base. -/
def basedNumber (kind : String) (accepts : Char → Bool) (cs : List Char) :
    Except Fault (List Char) :=
  let body := match cs with
    | '_' :: rest => rest
    | rest => rest
  let stray (d : Char) : Fault :=
    if isDigit d then .invalidDigit d kind else .invalidNumber kind
  match body with
  | [] => .error (.invalidNumber kind)
  | d :: _ =>
    if accepts d then
      match digitsFrom accepts kind body with
      | .error (.invalidNumber k) =>
        match (body.dropWhile fun c => accepts c || c = '_').head? with
        | some e => .error (if isDigit e then .invalidDigit e kind else .invalidNumber k)
        | none => .error (.invalidNumber k)
      | .error f => .error f
      | .ok (_, rest) =>
        match rest with
        | e :: _ =>
          if isDigit e then .error (.invalidDigit e kind)
          else (checkEnd kind rest).map fun _ => rest
        | [] => .ok []
    else .error (stray d)

/-- Takes the mark of an imaginary number off the front. -/
def imaginaryMark (kind : String) (cs : List Char) : Except Fault (Bool × List Char) :=
  match cs with
  | 'j' :: rest | 'J' :: rest => (checkEnd "imaginary" rest).map fun _ => (true, rest)
  | _ => (checkEnd kind cs).map fun _ => (false, cs)

/-- The exponent of a number, if it has one, and the mark of an imaginary one. -/
def exponentAt (cs : List Char) : Except Fault (Bool × List Char) :=
  match cs with
  | e :: rest =>
    if e = 'e' ∨ e = 'E' then
      let unsigned := match rest with
        | '+' :: r | '-' :: r => r
        | r => r
      if unsigned.head?.any isDigit then do
        let (_, rest) ← digitsFrom isDigit "decimal" unsigned
        imaginaryMark "decimal" rest
      else if unsigned.length < rest.length then .error (.invalidNumber "decimal")
      else (checkEnd "decimal" cs).map fun _ => (false, cs)
    else imaginaryMark "decimal" cs
  | [] => .ok (false, [])

/-- The digits after a point, and what follows in a number. -/
def fractionAt (cs : List Char) : Except Fault (Bool × List Char) :=
  if cs.head?.any isDigit then do
    let (_, rest) ← digitsFrom isDigit "decimal" cs
    exponentAt rest
  else exponentAt cs

/-- A number without a mark for its base: whether it is imaginary, and what follows
it. -/
def decimalNumber (cs : List Char) : Except Fault (Bool × List Char) := do
  let (digits, rest) ← digitsFrom isDigit "decimal" cs
  let isWhole : Bool := match rest with
    | c :: _ => !(['.', 'e', 'E', 'j', 'J'].contains c)
    | [] => true
  if isWhole ∧ digits.head? = some '0' ∧ digits.any (· ≠ '0') then .error .leadingZeros
  else
    match rest with
    | '.' :: rest => fractionAt rest
    | rest => exponentAt rest

/-- A number from its first digit on: whether it is imaginary, and what follows it. -/
def numberAt (cs : List Char) : Except Fault (Bool × List Char) :=
  let based (kind : String) (accepts : Char → Bool) (rest : List Char) :=
    (basedNumber kind accepts rest).map fun r => (false, r)
  match cs with
  | '0' :: 'x' :: rest | '0' :: 'X' :: rest =>
    based "hexadecimal"
      (fun c => isDigit c || (decide ('a' ≤ c.toLower) && decide (c.toLower ≤ 'f'))) rest
  | '0' :: 'o' :: rest | '0' :: 'O' :: rest =>
    based "octal" (fun c => decide ('0' ≤ c) && decide (c ≤ '7')) rest
  | '0' :: 'b' :: rest | '0' :: 'B' :: rest => based "binary" (fun c => c = '0' || c = '1') rest
  | _ => decimalNumber cs

/-! ## Marks -/

/-- The marks of two and three characters. -/
def longMarks : List String :=
  ["**=", "//=", ">>=", "<<=", "...", "!=", "%=", "&=", "**", "*=", "+=", "-=", "->", "//", "/=",
    ":=", "<<", "<=", "<>", "==", ">=", ">>", "@=", "^=", "|="]

/-- The mark at the front, and what follows it. -/
def markAt (c : Char) (cs : List Char) : String × List Char :=
  match longMarks.find? fun m => m.toList.isPrefixOf (c :: cs) with
  | some m => (m, (c :: cs).drop m.length)
  | none => (c.toString, cs)

/-- The closing bracket of the kind of an opening one. -/
def closingOf? : Char → Option Char
  | '(' => some ')'
  | '[' => some ']'
  | '\x7b' => some '\x7d'
  | _ => none

/-! ## All tokens -/

/-- Whether blanks stand before the first token of the line, `column` of them being read
since the last form feed, and `isContinued` saying that some stand before a backslash at
the end of a line. -/
def isIndentedFrom (column : Nat) (isContinued : Bool) : List Char → Bool
  | [] | '\n' :: _ | '#' :: _ => false
  | '\\' :: '\n' :: cs => isIndentedFrom column (isContinued || decide (0 < column)) cs
  | c :: cs =>
    if c = ' ' ∨ c = '\t' then isIndentedFrom (column + 1) isContinued cs
    else if c = '\x0c' then isIndentedFrom 0 isContinued cs
    else isContinued || decide (0 < column)

/-- Whether blanks stand before the first token of the line. -/
def isIndented (cs : List Char) : Bool := isIndentedFrom 0 false cs

/-- A token with its place. -/
structure Placed where
  token : Token
  /-- The line on which it starts. -/
  line : Nat
  /-- Whether the end of the text tells that it ends there. -/
  atEnd : Bool
deriving DecidableEq, Repr

/-- Whether what follows a token has to be looked at to see that it ends. -/
def Token.isOpenEnded : Token → Bool
  | .text _ _ | .formatted _ _ => false
  | .mark m => decide (m.length < 3)
  | _ => true

/-- A text between quotes as a token. -/
def textToken (kind : TextKind) (isRaw : Bool) (body : List Char) : Token :=
  match kind with
  | .formatted => .formatted isRaw body
  | kind => .text kind (textFault? kind isRaw body)

/-- The tokens of a literal, and the fault that ends them.  `opened`
holds the open brackets with their lines, the last one first; `lines` is the number of
lines. -/
def tokensFrom (lines : Nat) :
    Nat → List (Char × Nat) → Nat → List Char → List Placed × Option Fault
  | 0, _, _, _ => ([], none)
  | _ + 1, [], line, [] => ([⟨.finish, line, true⟩], none)
  | _ + 1, o :: _, _, [] => ([], some (.neverClosed o.1 o.2))
  | fuel + 1, opened, line, c :: cs =>
    let after (t : Token) (opened : List (Char × Nat)) (rest : List Char) :=
      let (ts, f) := tokensFrom lines fuel opened line rest
      (⟨t, line, t.isOpenEnded && rest.isEmpty⟩ :: ts, f)
    if c = ' ' ∨ c = '\t' ∨ c = '\x0c' then tokensFrom lines fuel opened line cs
    else if c = '\n' then
      let (ts, f) := tokensFrom lines fuel opened (line + 1) cs
      if !opened.isEmpty then (ts, f)
      else if isIndented cs then (⟨.lineEnd, line, false⟩ :: ⟨.indent, line + 1, false⟩ :: ts, f)
      else (⟨.lineEnd, line, false⟩ :: ts, f)
    else if c = '#' then
      tokensFrom lines fuel opened line (cs.dropWhile (· ≠ '\n'))
    else if c = '\\' then
      match cs with
      | ['\n'] =>
        ([], some (match opened with
          | [] => .unexpectedEnd
          | o :: _ => .neverClosed o.1 o.2))
      | '\n' :: rest => tokensFrom lines fuel opened (line + 1) rest
      | _ => ([], some (.afterContinuation opened.head?))
    else if isDigit c ∨ (c = '.' ∧ cs.head?.any isDigit) then
      match if c = '.' then fractionAt cs else numberAt (c :: cs) with
      | .error f => ([], some f)
      | .ok (imaginary, rest) => after (.number imaginary) opened rest
    else
      let word := (c :: cs).takeWhile inName
      let rest := (c :: cs).drop word.length
      let kind? := match rest.head? with
        | some q => if q = '"' ∨ q = '\'' then textKind? (String.ofList word) else none
        | none => none
      match kind? with
      | some kind =>
        match textAt line lines rest with
        | .error f => ([], some f)
        | .ok (body, rest) =>
          let isRaw := word.any fun d => d = 'r' || d = 'R'
          let (ts, f) := tokensFrom lines fuel opened (line + body.count '\n') rest
          (⟨textToken kind isRaw body, line, false⟩ :: ts, f)
      | none =>
        if startsName c then
          match strayIn? word with
          | some d => ([], some (.invalidCharacter d))
          | none => after (.name (String.ofList word)) opened rest
        else if (closingOf? c).isSome then
          if 200 ≤ opened.length then ([], some .tooNested)
          else after (.mark c.toString) ((c, line) :: opened) cs
        else if c = ')' ∨ c = ']' ∨ c = '\x7d' then
          match opened with
          | [] => ([], some (.unmatched c))
          | (o, l) :: others =>
            if closingOf? o = some c then after (.mark c.toString) others cs
            else ([], some (.mismatched c o (if l = line then none else some l)))
        else if Text.isPrintable c then
          let (m, rest) := markAt c cs
          after (.mark m) opened rest
        else ([], some (.invalidCharacter c))

/-- The tokens of a literal, and the fault that ends them. -/
def tokens (cs : List Char) : List Placed × Option Fault :=
  let (ts, fault?) := tokensFrom (cs.count '\n' + 1) (cs.length + 1) [] 1 cs
  (if isIndented cs then ⟨.indent, 1, false⟩ :: ts else ts, fault?)

end ResourceSymbols.Console.Handler
