import ResourceSymbols.Console.Handler.Literal
import ResourceSymbols.Text.Blank
import ResourceSymbols.Text.DecimalDigit
import ResourceSymbols.Text.Quoted
import ResourceSymbols.Text.Utf8

/-!
# Handlers

A tag that starts with `@` names a handler.  Its parameters are the name of an
action, which may have a literal in parentheses after it, or a literal alone.
-/

namespace ResourceSymbols.Console.Handler

/-- Whether `c` may stand in the name of an action. -/
def inAction (c : Char) : Bool :=
  Text.isIdentifierStart c || c = '_' || c = '.' || (Text.decimalDigit? c).isSome

/-- The literal among the parameters. -/
def literalOf (parameters : List Char) : List Char :=
  match parameters.dropWhile inAction with
  | [] => ['(', ')']
  | '(' :: rest =>
    if rest.getLast? = some ')' ∧ '\n' ∉ rest then '(' :: rest else parameters
  | _ => parameters

/-- Why parameters are not understood. -/
inductive Error
  /-- The literal is not well formed. -/
  | malformed (literal parameters message : String)
  /-- The literal has no value. -/
  | noValue (parameters message : String)
deriving DecidableEq, Repr

/-- The error in words. -/
def Error.message : Error → String
  | malformed literal parameters message =>
    s!"error parsing {Text.quoted literal} in {Text.quoted parameters}; {message}"
  | noValue parameters message => s!"error parsing {Text.quoted parameters}; {message}"

/-- Checks the parameters of a handler.  It may have none. -/
def check (parameters : List Char) : Except Error Unit :=
  let literal := literalOf (Text.trimBoth Text.isBlank parameters)
  let given := String.ofList parameters
  if parameters.isEmpty then .ok ()
  else
    -- The literal is encoded before anything is made of it, without the blanks in front.
    match Text.Utf8.encode (String.ofList (literal.dropWhile fun c => c = ' ' || c = '\t')) with
    | .error u => .error (.noValue given u.message)
    | .ok _ =>
      match checkLiteral (Text.characters literal) with
      | .ok _ => .ok ()
      | .error (.malformed message) => .error (.malformed (String.ofList literal) given message)
      | .error (.noValue cause) => .error (.noValue given cause.message)
      | .error .nullCharacter =>
        .error (.noValue given "source code string cannot contain null bytes")

end ResourceSymbols.Console.Handler
