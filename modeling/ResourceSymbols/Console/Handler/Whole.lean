import ResourceSymbols.Console.Handler.Expression

/-!
# Whole texts of parameters

A text is read to its end.  Its tokens are read twice: first for what they say, and only
where that fails for a mistake.
-/

namespace ResourceSymbols.Console.Handler

/-- Checks that the text ends, after which only lines without tokens may follow. -/
def ending (ts : List Token) : Except Stop (List Token) :=
  match ts.dropWhile (· = .lineEnd) with
  | [] => .error .atFault
  | .finish :: rest => .ok (.finish :: rest)
  | .indent :: _ => .error .atIndent
  | _ => .error .unexpected

/-- The terms of the whole text, and whether a comma makes them a tuple. -/
def whole : Nat → Place → Reader (List Term × Bool)
  | 0, _, _ => .error .notLiteral
  | _, _, .indent :: _ => .error .atIndent
  | fuel + 1, place, ts => do
    let (t, rest) ← expression fuel place ts
    match rest with
    | .mark "," :: .finish :: rest => return (([t], true), .finish :: rest)
    | .mark "," :: .lineEnd :: rest => return (([t], true), ← ending rest)
    | .mark "," :: rest =>
      let ((items, _), rest) ← whole fuel place rest
      return ((t :: items, true), rest)
    | rest => return (([t], false), ← ending rest)

/-- The tokens without the word that lets a clause of a comprehension wait. -/
def withoutWaiting : List Token → List Token
  | .name "async" :: .name "for" :: ts => .name "for" :: withoutWaiting ts
  | t :: ts => t :: withoutWaiting ts
  | [] => []

/-- What the tokens say: the terms in the text and whether they are a tuple.  The tokens
are read for that first, and only then for a mistake. -/
def readWhole (ts : List Token) : Except Stop (List Term × Bool) :=
  let ts := (withoutWaiting ts).dropWhile (· = .lineEnd)
  let fuel := 20 * ts.length + 20
  match whole fuel .ahead ts with
  | .ok r => .ok r.1
  | .error .unexpected =>
    match whole fuel .outside ts with
    | .ok _ => .error .unexpected
    | .error e => .error e
  | .error e => .error e

/-- How many of the tokens were looked at: as many as it takes for the end of the tokens
not to be come to. -/
def lookedAt (ts : List Token) : Nat :=
  let isEnough (n : Nat) : Bool :=
    match readWhole (ts.take n) with
    | .error .atFault => false
    | _ => true
  ((List.range ts.length).find? isEnough).getD ts.length

end ResourceSymbols.Console.Handler
