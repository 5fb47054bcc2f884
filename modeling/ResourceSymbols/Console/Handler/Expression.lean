import ResourceSymbols.Console.Handler.Parameter
import ResourceSymbols.Console.Handler.Reading

/-!
# Expressions in parameters

The parameters of a handler are read as an expression.  Where that fails, a likely
mistake is told; elsewhere the error only says that there is one.
-/

namespace ResourceSymbols.Console.Handler

mutual

/-- An expression.  The measure bounds its depth and its parts. -/
def expression : Nat → Place → Reader Term
  | 0, _, _ => .error .notLiteral
  | fuel + 1, place, .name "lambda" :: ts => do
    if place ≠ .ahead then
      let (ps, rest, stop) := gathered fuel place ts
      match (Parameter.startFault? ts).or (Parameter.fault? ps rest) with
      | some message => .error (.mistake message)
      | none =>
        if Parameter.endsInParentheses rest then .error .atFault
        if stop ≠ .unexpected then .error stop
    let (stage, rest) ← parameters fuel place .start ts
    match rest with
    | [] => .error .atFault
    | .mark ":" :: rest =>
      if stage = .star then .error .unexpected
      else
        let (_, rest) ← expression fuel place rest
        return (.other "lambda", rest)
    | _ => .error .unexpected
  | fuel + 1, place, ts => do
    let (t, rest) ← operand fuel place 1 ts
    if place ≠ .ahead then
      missingComma fuel place ts rest
      missingElse fuel place rest
      formerCommand fuel place ts
    match rest with
    | .name "if" :: condition =>
      attempt (t, rest) do
        let (_, rest) ← operand fuel place 1 condition
        match rest with
        | [] => .error .atFault
        | .name "else" :: rest =>
          let (_, rest) ← expression fuel place rest
          return (.other "conditional expression", rest)
        | _ => .error .unexpected
    | rest => return (t, rest)

/-- A parameter of a function without a name, and the comma after it if no colon
follows. -/
def parameter : Nat → Place → Reader Parameter
  | 0, _, _ => .error .notLiteral
  | fuel + 1, place, ts => do
    let (p, rest) ← match ts with
      | [] => Except.error Stop.atFault
      | .mark "/" :: rest => .ok (Parameter.slash, rest)
      | [.mark "*"] | [.mark "**"] => .error .atFault
      | .mark "*" :: .name s :: rest =>
        if isName s then .ok (.starred, rest) else .error .unexpected
      | .mark "*" :: .mark "," :: rest => .ok (.star, .mark "," :: rest)
      | .mark "**" :: .name s :: rest =>
        if isName s then .ok (.keywords, rest) else .error .unexpected
      | .name s :: .mark "=" :: rest =>
        if !isName s then .error .unexpected
        else
          match rest with
          | .mark ")" :: _ | .mark "," :: _ =>
            .error (place.tells "expected default value expression")
          | rest => do
            let (_, rest) ← expression fuel place rest
            pure (Parameter.defaulted, rest)
      | .name s :: rest => if isName s then .ok (.plain, rest) else .error .unexpected
      | _ => .error .unexpected
    match rest with
    | [] => .error .atFault
    | .mark "," :: rest => return (p, rest)
    | .mark ":" :: _ => return (p, rest)
    | _ => .error .unexpected

/-- The parameters that may follow one another, and the stage after them. -/
def parameters : Nat → Place → Stage → Reader Stage
  | 0, _, _, _ => .error .notLiteral
  | fuel + 1, place, stage, ts =>
    attempt (stage, ts) do
      if !stage.admits ts then .error .unexpected
      let (p, rest) ← parameter fuel place ts
      match stage.next? p with
      | some stage => parameters fuel place stage rest
      | none => .error .unexpected

/-- The parameters in any order, the tokens after them, and why there are no more. -/
def gathered : Nat → Place → List Token → List Parameter × List Token × Stop
  | 0, _, ts => ([], ts, .notLiteral)
  | fuel + 1, place, ts =>
    match parameter fuel place ts with
    | .ok (p, rest) =>
      let (ps, rest, stop) := gathered fuel place rest
      (p :: ps, rest, stop)
    | .error stop => ([], ts, stop)

/-- Tells that a comma is missing between a term that starts at `start` and one at
`ts`. -/
def missingComma : Nat → Place → List Token → List Token → Except Stop Unit
  | 0, _, _, _ => .error .notLiteral
  | fuel + 1, place, start, ts =>
    let isCommand : Bool := match start with
      | .name s :: rest => commands.contains s && rest == ts
      | _ => false
    if mayMissComma start && !isCommand then
      match expression fuel .ahead ts with
      | .ok _ =>
        if place = .bracketed then
          .error (.mistake "invalid syntax. Perhaps you forgot a comma?")
        else .ok ()
      | .error .unexpected => .ok ()
      | .error e => .error e
    else .ok ()

/-- Tells that a condition has no alternative. -/
def missingElse : Nat → Place → List Token → Except Stop Unit
  | 0, _, _ => .error .notLiteral
  | fuel + 1, place, ts =>
    match ts with
    | .name "if" :: condition =>
      match operand fuel place 1 condition with
      | .error .unexpected => .ok ()
      | .error e => .error e
      | .ok (_, []) => .error .atFault
      | .ok (_, .name "else" :: _) | .ok (_, .mark ":" :: _) => .ok ()
      | .ok _ => .error (.mistake "expected 'else' after 'if' expression")
    | _ => .ok ()

/-- Tells that a command of old has become a function.  Whatever follows a name is read
for that. -/
def formerCommand : Nat → Place → List Token → Except Stop Unit
  | 0, _, _ => .error .notLiteral
  | fuel + 1, place, ts =>
    match ts with
    | [.name _] | .name _ :: .mark "(" :: _ => .ok ()
    | .name s :: rest =>
      if !isName s then .ok ()
      else
        match terms fuel place rest with
        | .ok _ =>
          if commands.contains s then
            .error (.mistake s!"Missing parentheses in call to '{s}'. Did you mean {s}(...)?")
          else .ok ()
        | .error .unexpected => .ok ()
        | .error e => .error e
    | _ => .ok ()

/-- Terms between operators that bind at least as tightly as `level`. -/
def operand : Nat → Place → Nat → Reader Term
  | 0, _, _, _ => .error .notLiteral
  | fuel + 1, place, level, ts => do
    let (t, rest) ← match ts with
      | .name "not" :: rest =>
        if level ≤ 3 then do
          let (_, rest) ← operand fuel place 3 rest
          pure (Term.other "expression", rest)
        else .error .unexpected
      | ts => unary fuel place ts
    operators fuel place level t rest

/-- The operators that bind at least as tightly as `level`, and their terms, after a
term. -/
def operators : Nat → Place → Nat → Term → Reader Term
  | 0, _, _, _, _ => .error .notLiteral
  | fuel + 1, place, level, left, ts => do
    match ← binaryAt ts with
    | some (l, made, rest) =>
      if level ≤ l then
        attempt (left, ts) do
          let (right, rest) ← operand fuel place (l + 1) rest
          operators fuel place level (combine ts made left right) rest
      else return (left, ts)
    | none => return (left, ts)

/-- A term with its signs. -/
def unary : Nat → Place → Reader Term
  | 0, _, _ => .error .notLiteral
  | fuel + 1, place, ts =>
    match ts with
    | [] => .error .atFault
    | .mark m :: rest =>
      if m = "+" ∨ m = "-" ∨ m = "~" then do
        let (t, rest) ← unary fuel place rest
        match t with
        | .number imaginary =>
          return (if m = "~" then .other "expression" else .signed imaginary, rest)
        | _ => return (.other "expression", rest)
      else power fuel place ts
    | _ => power fuel place ts

/-- A term with its power. -/
def power : Nat → Place → Reader Term
  | 0, _, _ => .error .notLiteral
  | fuel + 1, place, ts => do
    let (t, rest) ← match ts with
      | .name "await" :: ts => do
        let (t, rest) ← atom fuel place ts
        let (_, rest) ← trailers fuel place t rest
        pure (Term.other "await expression", rest)
      | ts => do
        let (t, rest) ← atom fuel place ts
        trailers fuel place t rest
    match rest with
    | .mark "**" :: exponent =>
      attempt (t, rest) do
        let (_, rest) ← unary fuel place exponent
        return (.other "expression", rest)
    | rest => return (t, rest)

/-- A name, a constant, or terms in brackets. -/
def atom : Nat → Place → Reader Term
  | 0, _, _ => .error .notLiteral
  | fuel + 1, place, ts =>
    match ts with
    | [] => .error .atFault
    | .name s :: rest =>
      if valueWords.contains s then .ok (.constant s, rest)
      else if isName s then .ok (.name s, rest)
      else .error .unexpected
    | .number imaginary :: rest => .ok (.number imaginary, rest)
    | .text _ _ :: _ => adjoinedTexts ts
    | .mark "..." :: rest => .ok (.constant "ellipsis", rest)
    | .mark "(" :: rest => parenthesised fuel place rest
    | .mark "[" :: rest => do
      let (items, _, rest) ← elements fuel place true "]" rest
      match items with
      | [.other "list comprehension"] => return (.other "list comprehension", rest)
      | _ => return (.list items, rest)
    | .mark "\x7b" :: rest => braced fuel place rest
    | _ => .error .unexpected

/-- The parts of an object, its arguments and its items, after a term. -/
def trailers : Nat → Place → Term → Reader Term
  | 0, _, _, _ => .error .notLiteral
  | fuel + 1, place, t, ts =>
    match ts with
    | [] => .error .atFault
    | [.mark "."] => .error .atFault
    | .mark "." :: .name s :: rest =>
      if isName s then trailers fuel place (.other "attribute") rest else .ok (t, ts)
    | .mark "(" :: rest =>
      attempt (t, ts) do
        let (count, rest) ← arguments fuel place true 0 .plain rest
        let called := match t with
          | .name "set" => if count = 0 then Term.set [] else .other "function call"
          | _ => .other "function call"
        trailers fuel place called rest
    | [.mark "["] => .error .atFault
    | .mark "[" :: .mark "]" :: _ => .ok (t, ts)
    | .mark "[" :: rest =>
      attempt (t, ts) do
        let (_, rest) ← slices fuel place true rest
        trailers fuel place (.other "subscript") rest
    | .mark "\x7b" :: rest =>
      attempt (t, ts) do
        place.asks
        let _ ← elementAt fuel place true "\x7d" rest
        .error .unexpected
    | _ => .ok (t, ts)

/-- A term in parentheses, or a tuple. -/
def parenthesised : Nat → Place → Reader Term
  | 0, _, _ => .error .notLiteral
  | fuel + 1, place, ts =>
    match ts with
    | .mark "**" :: rest => do
      place.asks
      let (_, rest) ← expression fuel place.within rest
      match rest with
      | [] => .error .atFault
      | .mark ")" :: _ => .error (place.tells "cannot use double starred expression here")
      | _ => .error .unexpected
    | .name "yield" :: rest => do
      let rest ← match rest with
        | .mark ")" :: _ => pure rest
        | .name "from" :: rest => (expression fuel place.within rest).map Prod.snd
        | rest => (terms fuel place.within rest).map Prod.snd
      match rest with
      | [] => .error .atFault
      | .mark ")" :: rest => return (.other "yield expression", rest)
      | _ => .error .unexpected
    | .mark "*" :: starred => do
      match elements fuel place true ")" ts with
      | .ok (_ :: _ :: _, _, rest) | .ok (_, true, rest) => return (.tuple [.other "starred"], rest)
      | .ok _ | .error .unexpected =>
        place.asks
        let (_, rest) ← expression fuel place.within starred
        match rest with
        | [] => .error .atFault
        | .mark ")" :: _ => .error (.mistake "cannot use starred expression here")
        | _ => .error .unexpected
      | .error e => .error e
    | _ => do
      let (items, comma, rest) ← elements fuel place true ")" ts
      match items, comma with
      | [t], false => return (t, rest)
      | _, _ => return (.tuple items, rest)

/-- Items up to a closing bracket, and whether a comma follows one of them.  `first`
says that none stands before them. -/
def elements : Nat → Place → Bool → String → List Token → Except Stop (List Term × Bool × List Token)
  | 0, _, _, _, _ => .error .notLiteral
  | fuel + 1, place, first, closing, ts =>
    match ts with
    | [] => .error .atFault
    | .mark m :: rest =>
      if m = closing then .ok ([], false, rest) else elementAt fuel place first closing ts
    | .name "for" :: rest =>
      if first ∨ closing = ")" then .error .unexpected
      else do
        place.asks
        let (_, _) ← clauses fuel place rest
        .error (place.tells bareTargets)
    | _ => elementAt fuel place first closing ts

/-- Items from the first one on, and whether a comma follows one of them. -/
def elementAt : Nat → Place → Bool → String → List Token → Except Stop (List Term × Bool × List Token)
  | 0, _, _, _, _ => .error .notLiteral
  | fuel + 1, place, first, closing, ts => do
    let (t, rest) ← match ts with
      | .mark "*" :: rest => do
        let (_, after) ← starred fuel place first rest
        pure (Term.other "starred", after)
      | ts => do
        let (t, rest) ← expression fuel place.within ts
        named fuel place true ts t rest
    elementsAfter fuel place first closing t rest

/-- An item and those after it, and whether a comma follows one of them. -/
def elementsAfter : Nat → Place → Bool → String → Term → List Token →
    Except Stop (List Term × Bool × List Token)
  | 0, _, _, _, _, _ => .error .notLiteral
  | fuel + 1, place, first, closing, t, ts =>
    match ts with
    | [] => .error .atFault
    | .mark "," :: rest => do
      let (items, _, rest) ← elements fuel place false closing rest
      return (t :: items, true, rest)
    | .mark m :: rest =>
      if m = closing then .ok ([t], false, rest) else .error .unexpected
    | .name "for" :: rest =>
      if !first ∧ closing = ")" then .error .unexpected
      else do
        let (_, rest) ← clauses fuel place rest
        match first, t, rest with
        | true, .other "starred", _ => .error (place.tells unpacking)
        | false, _, _ => .error (place.tells bareTargets)
        | true, _, [] => .error .atFault
        | true, _, .mark m :: rest =>
          if m = closing then return ([.other (comprehensionIn closing)], false, rest)
          else .error .unexpected
        | true, _, _ => .error .unexpected
    | [.name "async"] => .error .atFault
    | _ => .error .unexpected

/-- A term after a star.  A first one is read as a whole expression too, because it may
be the start of a comprehension. -/
def starred : Nat → Place → Bool → Reader Term
  | 0, _, _, _ => .error .notLiteral
  | fuel + 1, place, first, ts => do
    if first ∧ place ≠ .ahead then
      let _ ← unpackedExpression fuel place ts
    operand fuel place 5 ts

/-- A whole expression after a star.  That there is none is told wherever the star
stands. -/
def unpackedExpression : Nat → Place → Reader Term
  | 0, _, _ => .error .notLiteral
  | fuel + 1, place, ts =>
    match expression fuel place.within ts with
    | .error .unexpected => .error (.mistake "Invalid star expression")
    | r => r

/-- Tells that expressions with stars come too late, and reads them for that. -/
def lateStars : Nat → Place → List Token → Except Stop Unit
  | 0, _, _ => .error .notLiteral
  | fuel + 1, place, ts =>
    match ts with
    | [] | [.mark ","] => .error .atFault
    | .mark "," :: .mark "*" :: rest => do
      let (_, rest) ← unpackedExpression fuel place rest
      lateStars fuel place rest
    | _ =>
      .error (.mistake "iterable argument unpacking follows keyword argument unpacking")

/-- The clauses of a comprehension after the word that starts the first. -/
def clauses : Nat → Place → Reader Unit
  | 0, _, _ => .error .notLiteral
  | fuel + 1, place, ts => do
    let found ← match targets fuel place ts with
      | .error .unexpected => pure (none, none)
      | .error e => .error e
      | .ok (unfit?, rest) => pure (unfit?, some rest)
    match found with
    | (_, some []) => .error .atFault
    | (none, some (.name "in" :: rest)) =>
      let (_, rest) ← operand fuel place 1 rest
      conditions fuel place rest
    | (unfit?, rest?) =>
      place.asks
      let (given, _) ← terms fuel place.within ts
      let isDone := match rest? with
        | some (.name "in" :: _) => true
        | _ => false
      match if isDone then unfit? else Term.unfitOf? given with
      | some t => .error (.mistake s!"cannot assign to {t.describe}")
      | none => .error .unexpected

/-- What a clause of a comprehension gives values to: the first term that takes none,
if there is one. -/
def targets : Nat → Place → Reader (Option Term)
  | 0, _, _ => .error .notLiteral
  | fuel + 1, place, ts => do
    let (t, rest) ← match ts with
      | .mark "*" :: rest => operand fuel place 5 rest
      | ts => operand fuel place 5 ts
    match rest with
    | [] => .error .atFault
    | .mark "," :: .name "in" :: rest => return (t.unfit?, .name "in" :: rest)
    | .mark "," :: rest =>
      let (unfit?, rest) ← targets fuel place rest
      return (t.unfit?.or unfit?, rest)
    | rest => return (t.unfit?, rest)

/-- The conditions of a clause, and the clauses after it. -/
def conditions : Nat → Place → Reader Unit
  | 0, _, _ => .error .notLiteral
  | fuel + 1, place, ts =>
    match ts with
    | [] => .error .atFault
    | .name "if" :: rest => do
      let (_, rest) ← operand fuel place 1 rest
      conditions fuel place rest
    | .name "for" :: rest => clauses fuel place rest
    | [.name "async"] => .error .atFault
    | ts => .ok ((), ts)

/-- The term of an item that starts at `start`, once a mistake at its end was looked
for.  `naming` says that the item may give a name to its value. -/
def named : Nat → Place → Bool → List Token → Term → Reader Term
  | 0, _, _, _, _, _ => .error .notLiteral
  | fuel + 1, place, naming, start, t, ts =>
    match ts with
    | [] => .error .atFault
    | .mark ":=" :: rest =>
      match start with
      | .name _ :: .mark ":=" :: _ => do
        let (_, rest) ← expression fuel place.within rest
        return (.other "named expression", rest)
      | _ =>
        if naming then do
          place.asks
          let (_, _) ← expression fuel place.within rest
          .error (place.tells s!"cannot use assignment expressions with {t.describe}")
        else .error .unexpected
    | .mark "=" :: rest => do
      place.asks
      let told := assigned fuel place start t
      if told = .unexpected then .error .unexpected
      else
        let (_, after) ← operand fuel place 5 rest
        match after with
        | [] => .error .atFault
        | .mark "=" :: _ | .mark ":=" :: _ => .error .unexpected
        | _ => .error told
    | _ => .ok (t, ts)

/-- What an equals sign after an item is told as. -/
def assigned : Nat → Place → List Token → Term → Stop
  | 0, _, _, _ => .notLiteral
  | fuel + 1, place, start, t =>
    match start with
    | .name s :: .mark "=" :: _ =>
      if valueWords.contains s then .unexpected else place.tells doubtfulEquals
    | .name "None" :: _ | .name "True" :: _ | .name "False" :: _ | .mark "[" :: _ => .unexpected
    | _ =>
      let isTuple := match start with
        | .mark "(" :: rest =>
          match parenthesised fuel place rest with
          | .ok (.tuple _, _) => true
          | _ => false
        | _ => false
      if isTuple then .unexpected
      else
        match operand fuel place 5 start with
        | .ok (_, .mark "=" :: _) =>
          place.tells s!"cannot assign to {t.describe} here. Maybe you meant '==' instead of '='?"
        | _ => .unexpected

/-- Terms with commas between them; a star may stand before each. -/
def terms : Nat → Place → Reader (List Term)
  | 0, _, _ => .error .notLiteral
  | fuel + 1, place, ts => do
    let (t, rest) ← match ts with
      | .mark "*" :: rest => operand fuel place 5 rest
      | ts => expression fuel place ts
    match rest with
    | [] => .error .atFault
    | .mark "," :: after =>
      attempt ([t], after) do
        let (others, rest) ← terms fuel place after
        return (t :: others, rest)
    | rest => return ([t], rest)

/-- A set or a dictionary. -/
def braced : Nat → Place → Reader Term
  | 0, _, _ => .error .notLiteral
  | fuel + 1, place, ts =>
    match ts with
    | .mark "\x7d" :: rest => .ok (.dict [], rest)
    | .mark "**" :: _ => do
      let (ms, rest) ← members fuel place true ts
      return (.dict ms, rest)
    | .mark "*" :: _ => do
      let (items, _, rest) ← elementAt fuel place true "\x7d" ts
      return (.set items, rest)
    | _ => do
      let (t, rest) ← expression fuel place.within ts
      match rest with
      | .mark ":" :: _ =>
        let (m, rest) ← member fuel place t rest
        let (ms, rest) ← membersAfter fuel place true m rest
        match ms with
        | [(some (.other "dict comprehension"), _)] =>
          return (.other "dict comprehension", rest)
        | _ => return (.dict ms, rest)
      | _ =>
        let (t, rest) ← named fuel place true ts t rest
        let (items, _, rest) ← elementsAfter fuel place true "\x7d" t rest
        match items with
        | [.other "set comprehension"] => return (.other "set comprehension", rest)
        | _ => return (.set items, rest)

/-- The members of a dictionary and its closing brace.  `first` says that none stands
before them. -/
def members : Nat → Place → Bool → List Token →
    Except Stop (List (Option Term × Term) × List Token)
  | 0, _, _, _ => .error .notLiteral
  | fuel + 1, place, first, ts => do
    let (m, rest) ← match ts with
      | .mark "**" :: rest => do
        let (t, rest) ← operand fuel place 5 rest
        pure ((none, t), rest)
      | ts => do
        let (k, rest) ← expression fuel place.within ts
        member fuel place k rest
    membersAfter fuel place first m rest

/-- A member and those after it up to the closing brace. -/
def membersAfter : Nat → Place → Bool → Option Term × Term → List Token →
    Except Stop (List (Option Term × Term) × List Token)
  | 0, _, _, _, _ => .error .notLiteral
  | fuel + 1, place, first, m, ts =>
    match ts with
    | [] => .error .atFault
    | .mark "\x7d" :: rest => .ok ([m], rest)
    | .mark "," :: .mark "\x7d" :: rest => .ok ([m], rest)
    | .mark "," :: rest => do
      let (ms, rest) ← members fuel place false rest
      return (m :: ms, rest)
    | .name "for" :: rest =>
      if !first then .error .unexpected
      else do
        let (_, rest) ← clauses fuel place rest
        match rest, m with
        | [], _ => .error .atFault
        | .mark "\x7d" :: _, (none, _) =>
          .error (place.tells "dict unpacking cannot be used in dict comprehension")
        | .mark "\x7d" :: rest, (some _, v) =>
          return ([(some (.other "dict comprehension"), v)], rest)
        | _, _ => .error .unexpected
    | [.name "async"] => .error .atFault
    | _ => .error .unexpected

/-- A key, which stands before the tokens, and its value.  A mistake is told wherever the
expression stands. -/
def member : Nat → Place → Term → List Token → Except Stop ((Option Term × Term) × List Token)
  | 0, _, _, _ => .error .notLiteral
  | fuel + 1, place, k, ts => do
    match ts with
    | [] => .error .atFault
    | [.mark ":"] => .error .atFault
    | .mark ":" :: .mark "\x7d" :: _ | .mark ":" :: .mark "," :: _ =>
      .error (.mistake "expression expected after dictionary key and ':'")
    | .mark ":" :: .mark "*" :: rest =>
      let (_, _) ← operand fuel place 5 rest
      .error (.mistake "cannot use a starred expression in a dictionary value")
    | .mark ":" :: rest =>
      let (v, after) ← expression fuel place.within rest
      match after with
      | .mark "," :: _ | .mark "\x7d" :: _ | .name "for" :: _ | [.name "async"] =>
        return ((some k, v), after)
      | _ => .error .unexpected
    | _ => .error (.mistake "':' expected after dictionary key")

/-- The arguments of a call up to the closing parenthesis, and their number.  `first`
says that none stands before them, `unnamed` how many without a name do, and `before` how
those before them are given. -/
def arguments : Nat → Place → Bool → Nat → ArgumentKind → Reader Nat
  | 0, _, _, _, _, _ => .error .notLiteral
  | fuel + 1, place, first, unnamed, before, ts =>
    match ts with
    | [] => .error .atFault
    | .mark ")" :: rest => .ok (0, rest)
    | ts => do
      let (kind, rest) ← argument fuel place first before ts
      let unnamed := unnamed + (if kind = .plain ∨ kind = .starred then 1 else 0)
      let others : Except Stop (Nat × List Token) :=
        match rest with
        | [] => .error .atFault
        | .mark ")" :: rest => .ok (1, rest)
        | .mark "," :: rest =>
          (arguments fuel place false unnamed (before.with kind) rest).map fun r =>
            (r.1 + 1, r.2)
        | .name "for" :: rest =>
          match clauses fuel place rest with
          | .error e => .error e
          | .ok (_, rest) =>
            if 2 ≤ unnamed ∨ (kind = .plain ∧ !first) then .error (place.tells bareComprehension)
            else if kind ≠ .plain then .error .unexpected
            else
              match rest with
              | [] => .error .atFault
              | .mark ")" :: rest => .ok (1, rest)
              | .mark "," :: rest => do
                place.asks
                match arguments fuel place true 0 .plain rest with
                | .ok _ | .error .unexpected => .error (.mistake bareComprehension)
                | .error stop => .error stop
              | _ => .error .unexpected
        | [.name "async"] => .error .atFault
        | _ => .error .unexpected
      match before.fault? kind, others with
      | some message, .ok _ | some message, .error .unexpected =>
        .error (place.tells message)
      | _, r => r

/-- An argument: how it is given. -/
def argument : Nat → Place → Bool → ArgumentKind → Reader ArgumentKind
  | 0, _, _, _, _ => .error .notLiteral
  | fuel + 1, place, first, before, ts =>
    match ts with
    | .mark "*" :: rest => do
      if before = .unpacked then place.asks
      let (_, rest) ← unpackedExpression fuel place rest
      match first, rest with
      | true, .name "for" :: rest =>
        let (_, _) ← clauses fuel place rest
        .error (place.tells unpacking)
      | _, .mark "=" :: _ => return (if before = .unpacked then .plain else .starred, rest)
      | _, rest =>
        if before = .unpacked then lateStars fuel place rest
        return (.starred, rest)
    | .mark "**" :: rest => do
      let (_, rest) ← expression fuel place.within rest
      return (.unpacked, rest)
    | .name s :: .mark "=" :: rest =>
      if valueWords.contains s then .error (place.tells s!"cannot assign to {s}")
      else if !isName s then .error .unexpected
      else do
        let (_, after) ← expression fuel place.within rest
        match after with
        | .mark "," :: _ | .mark ")" :: _ => return (.named, after)
        | .name "for" :: rest =>
          place.asks
          let (_, _) ← clauses fuel place rest
          .error (.mistake doubtfulEquals)
        | after => return (.named, after)
    | ts => do
      let (t, rest) ← expression fuel place.within ts
      match rest with
      | .mark "=" :: _ =>
        .error (place.tells
          "expression cannot contain assignment, perhaps you meant \"==\"?")
      | rest =>
        let (_, rest) ← named fuel place false ts t rest
        return (.plain, rest)

/-- What stands between the brackets after a term, and the closing one.  `first` says
that nothing was read of it. -/
def slices : Nat → Place → Bool → Reader Unit
  | 0, _, _, _ => .error .notLiteral
  | fuel + 1, place, first, ts =>
    match ts with
    | [] => .error .atFault
    | .mark "]" :: rest => if first then .error .unexpected else .ok ((), rest)
    | .mark ":" :: rest => slices fuel place false rest
    | .mark "," :: rest => if first then .error .unexpected else slices fuel place false rest
    | ts => do
      let (t, rest) ← expression fuel place.within ts
      match rest with
      | .mark ":" :: _ => slices fuel place false rest
      | _ =>
        let (_, rest) ← named fuel place true ts t rest
        slices fuel place false rest

end

end ResourceSymbols.Console.Handler
