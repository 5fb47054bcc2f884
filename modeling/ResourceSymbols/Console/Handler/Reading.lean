import ResourceSymbols.Console.Handler.Term
import ResourceSymbols.Console.Handler.Token

/-!
# Reading tokens

What the readers of expressions share: why they stop, what stands at the front of the
tokens, and where an expression stands.

A reader that comes to the end of tokens that a fault cut short reports the fault.
-/

namespace ResourceSymbols.Console.Handler

/-- Why an expression was not read. -/
inductive Stop
  /-- The tokens end with a fault here. -/
  | atFault
  /-- The line after the expression starts with blanks. -/
  | atIndent
  /-- The next token does not belong here. -/
  | unexpected
  /-- A mistake that has a message of its own. -/
  | mistake (message : String)
  /-- A mistake within a text, which was told there. -/
  | told (message : String)
  /-- The expression is no literal, whether or not it is well formed. -/
  | notLiteral
deriving DecidableEq, Repr

/-- A reader takes something off the front of the tokens. -/
abbrev Reader (α : Type) := List Token → Except Stop (α × List Token)

/-! ## Words and marks -/

/-- A binary operator at the front: how tightly it binds, what it makes, and the
tokens after it. -/
def binaryAt : List Token → Except Stop (Option (Nat × String × List Token))
  | [] => .error .atFault
  | .name "or" :: ts => .ok (some (1, "expression", ts))
  | .name "and" :: ts => .ok (some (2, "expression", ts))
  | .name "in" :: ts => .ok (some (4, "comparison", ts))
  | [.name "is"] | [.name "not"] => .error .atFault
  | .name "is" :: .name "not" :: ts => .ok (some (4, "comparison", ts))
  | .name "is" :: ts => .ok (some (4, "comparison", ts))
  | .name "not" :: .name "in" :: ts => .ok (some (4, "comparison", ts))
  | .mark m :: ts =>
    if ["==", "!=", "<=", ">=", "<", ">"].contains m then .ok (some (4, "comparison", ts))
    else if m = "|" then .ok (some (5, "expression", ts))
    else if m = "^" then .ok (some (6, "expression", ts))
    else if m = "&" then .ok (some (7, "expression", ts))
    else if m = "<<" ∨ m = ">>" then .ok (some (8, "expression", ts))
    else if m = "+" ∨ m = "-" then .ok (some (9, "expression", ts))
    else if ["*", "/", "//", "%", "@"].contains m then .ok (some (10, "expression", ts))
    else .ok none
  | _ => .ok none

/-- What an operator makes of two terms. -/
def combine (ts : List Token) (made : String) (left right : Term) : Term :=
  let isSum := match ts with
    | .mark m :: _ => m = "+" || m = "-"
    | _ => false
  match left, right with
  | .number false, .number true | .signed false, .number true =>
    if isSum then .complex else .other made
  | _, _ => .other made

/-- How the fault of a text is told. -/
def TextFault.stop : TextFault → Stop
  | expression message => .told message
  | fault => .mistake fault.message

/-- The mistake in texts that stand side by side: each is looked at before it is held
against the one before it, and its expressions after that. -/
def textsMistake? (before? : Option TextKind) : List Token → Option Stop
  | .text kind fault? :: ts =>
    let mixed : Option Stop :=
      if before?.any fun before => (before = .octets) != (kind = .octets) then
        some (.mistake "cannot mix bytes and nonbytes literals")
      else none
    let fault? := fault?.map TextFault.stop
    (if kind = .formatted then mixed.or fault? else fault?.or mixed).or
      (textsMistake? (some kind) ts)
  | _ => none

/-- Whether the token is a text. -/
def isText : Token → Bool
  | .text _ _ => true
  | _ => false

/-- The texts at the front as one. -/
def adjoinedTexts (ts : List Token) : Except Stop (Term × List Token) :=
  match ts.dropWhile isText, textsMistake? none ts with
  | [], _ => .error .atFault
  | _, some stop => .error stop
  | rest, none =>
    let isFormatted := (ts.takeWhile isText).any fun t => match t with
      | .text .formatted _ => true
      | _ => false
    .ok (if isFormatted then .other "f-string expression" else .constant "literal", rest)

/-- Whether a word may be taken for a name and a keyword both. -/
def isSoftKeyword (s : String) : Bool := ["_", "case", "match"].contains s

/-- Whether a comma may be missing after a term that starts with the tokens. -/
def mayMissComma : List Token → Bool
  | .name s :: .text _ _ :: _ => !isName s
  | .name s :: _ => !isSoftKeyword s
  | _ => true

/-- Words that were commands once and are functions now. -/
def commands : List String := ["print", "exec"]

/-- The message about an equals sign after a name. -/
def doubtfulEquals : String :=
  "invalid syntax. Maybe you meant '==' or ':=' instead of '='?"

/-- The message about a star before what a comprehension gives. -/
def unpacking : String := "iterable unpacking cannot be used in comprehension"

/-- The message about a comma in what a comprehension gives. -/
def bareTargets : String := "did you forget parentheses around the comprehension target?"

/-- The message about a comprehension among other arguments. -/
def bareComprehension : String := "Generator expression must be parenthesized"

/-- How an argument of a call is given. -/
inductive ArgumentKind
  | plain
  | starred
  | named
  | unpacked
deriving DecidableEq, Repr

/-- How arguments are given, with one more of them: what restricts those after them. -/
def ArgumentKind.with : ArgumentKind → ArgumentKind → ArgumentKind
  | unpacked, _ | _, unpacked => unpacked
  | named, _ | _, named => named
  | _, _ => plain

/-- The message about an argument after others. -/
def ArgumentKind.fault? : ArgumentKind → ArgumentKind → Option String
  | named, plain => some "positional argument follows keyword argument"
  | unpacked, plain => some "positional argument follows keyword argument unpacking"
  | _, _ => none

/-- What a comprehension before a closing bracket is called. -/
def comprehensionIn (closing : String) : String :=
  if closing = ")" then "generator expression"
  else if closing = "]" then "list comprehension"
  else "set comprehension"

/-! ## Places -/

/-- Where an expression stands. -/
inductive Place
  /-- Outside of brackets, where a missing comma is not told. -/
  | outside
  | bracketed
  /-- After a term, where it is only asked whether there is one. -/
  | ahead
deriving DecidableEq, Repr

/-- Where a part in brackets of an expression stands. -/
def Place.within : Place → Place
  | ahead => ahead
  | _ => bracketed

/-- A mistake, which is told unless it is only asked whether there is a term. -/
def Place.tells (place : Place) (message : String) : Stop :=
  if place = ahead then .unexpected else .mistake message

/-- Goes on to look for a mistake unless it is only asked whether there is a term. -/
def Place.asks (place : Place) : Except Stop Unit :=
  if place = ahead then .error .unexpected else .ok ()

/-- Goes on with a reading, or stays where it is if what follows does not belong
there. -/
def attempt {α : Type} (here : α) (reading : Except Stop α) : Except Stop α :=
  match reading with
  | .error .unexpected => .ok here
  | r => r

end ResourceSymbols.Console.Handler
