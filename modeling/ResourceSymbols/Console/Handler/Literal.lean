import ResourceSymbols.Console.Handler.Formatted
import ResourceSymbols.Text.Lines

/-!
# Literals in parameters

The parameters of a handler as a whole are a literal.  Their tokens are read twice:
first for what they say, and only where that fails for a mistake.
-/

namespace ResourceSymbols.Console.Handler

/-- Why parameters are no literal. -/
inductive Defect
  /-- They are not well formed. -/
  | malformed (message : String)
  /-- They have no value. -/
  | noValue (cause : NoValue)
  /-- They hold a null character. -/
  | nullCharacter
deriving DecidableEq, Repr

/-- What is wrong with a text that was not read, given the fault that ends its tokens and
the last one of them that was looked at. -/
def failure (fault? : Option Fault) (last? : Option Placed) (stop : Stop) : Defect :=
  match fault?, stop with
  | _, .atIndent => .malformed "unexpected indent"
  | some fault, .atFault => .malformed fault.message
  | fault?, stop =>
    let isTold : Bool := match stop with
      | .mistake _ | .told _ => true
      | _ => false
    let isPrior : Fault → Bool
      | .neverClosed _ l => last?.any fun t => decide (l < t.line) && !(isTold && t.atEnd)
      | fault => fault.isFinal
    match (fault?.map Fault.passedOver).filter isPrior, stop with
    | some fault, _ => .malformed fault.message
    | none, .mistake message | none, .told message => .malformed message
    | none, .notLiteral => .noValue .notLiteral
    | none, _ => .malformed "invalid syntax"

/-- Checks that the text is a literal. -/
def checkLiteral (cs : List Char) : Except Defect Unit :=
  if '\x00' ∈ cs then .error .nullCharacter
  else
    let (placed, fault?) := tokens (Text.foldLineEnds cs)
    let ts := placed.map fun t => Formatted.judge cs.length t.token
    let failed (stop : Stop) : Except Defect Unit :=
      .error (failure fault? placed[lookedAt ts - 1]? stop)
    match fault?, readWhole ts with
    | none, .ok ([t], false) => t.checkValue.mapError .noValue
    | none, .ok (items, _) => (Term.tuple items).checkValue.mapError .noValue
    | some _, .ok _ => failed .unexpected
    | _, .error stop => failed stop

end ResourceSymbols.Console.Handler
