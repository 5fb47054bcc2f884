import ResourceSymbols.Console.Handler.Token

/-!
# Parameters of functions without a name

The parameters are read one after another as far as their order allows.  Where it does
not, the parameters that follow, and the token that ends them, show which rule is broken.

## Main results

* `Stage.plain_after_defaulted` — a parameter without a value does not follow one that
  has one, until a star or a slash stands between them.
-/

namespace ResourceSymbols.Console.Handler

/-- A parameter of a function, or a mark between parameters. -/
inductive Parameter
  | plain
  /-- A parameter with a value that stands in for a missing argument. -/
  | defaulted
  | slash
  /-- A star without a name, and the comma after it. -/
  | star
  /-- The parameter that takes the further arguments. -/
  | starred
  /-- The parameter that takes the further named arguments. -/
  | keywords
deriving DecidableEq, Repr

/-- What parameters may follow. -/
inductive Stage
  | start
  | plain
  | defaulted
  | plainSlash
  | defaultedSlash
  /-- After a star without a name, which a name has to follow. -/
  | star
  | starred
  | finished
deriving DecidableEq, Repr

/-- The stage after one more parameter, if it may follow. -/
def Stage.next? : Stage → Parameter → Option Stage
  | finished, _ => none
  | star, .plain | star, .defaulted | starred, .plain | starred, .defaulted => some starred
  | starred, .keywords => some finished
  | star, _ | starred, _ => none
  | _, .star => some star
  | _, .starred => some starred
  | _, .keywords => some finished
  | start, .plain | plain, .plain => some plain
  | plainSlash, .plain => some plainSlash
  | defaulted, .plain | defaultedSlash, .plain => none
  | start, .defaulted | plain, .defaulted | defaulted, .defaulted => some defaulted
  | plainSlash, .defaulted | defaultedSlash, .defaulted => some defaultedSlash
  | plain, .slash => some plainSlash
  | defaulted, .slash => some defaultedSlash
  | start, .slash | plainSlash, .slash | defaultedSlash, .slash => none

/-- Whether the token at the front may start a parameter at the stage. -/
def Stage.admits (s : Stage) : List Token → Bool
  | .mark "/" :: _ => (s.next? .slash).isSome
  | .mark "*" :: _ => (s.next? .starred).isSome
  | .mark "**" :: _ => (s.next? .keywords).isSome
  | .name _ :: _ => (s.next? .defaulted).isSome
  | _ => true

/-- A parameter without a value does not follow one that has one. -/
theorem Stage.plain_after_defaulted (s t : Stage) (h : s.next? .defaulted = some t) :
    t.next? .plain = none ∨ t = starred := by
  cases s <;> simp_all [Stage.next?] <;> subst h <;> simp

namespace Parameter

/-- Whether it is one that arguments are given to one by one. -/
def isSingle (p : Parameter) : Bool := p = plain || p = defaulted

/-- Whether it starts with a single star. -/
def isStar (p : Parameter) : Bool := p = star || p = starred

/-- Whether a slash comes next, of the parameters or after them. -/
def slashNext (ps : List Parameter) (ts : List Token) : Bool :=
  match ps, ts with
  | slash :: _, _ => true
  | [], .mark "/" :: _ => true
  | _, _ => false

/-- The tokens after names with commas between them, and after a comma. -/
def afterNames : List Token → List Token
  | .name s :: .mark "," :: ts => if isName s then afterNames ts else .name s :: .mark "," :: ts
  | .name s :: ts => if isName s then ts else .name s :: ts
  | ts => ts

/-- Whether names stand in parentheses. -/
def isParenthesised : List Token → Bool
  | .mark "(" :: .name s :: ts =>
    isName s && match afterNames (.name s :: ts) with
      | .mark ")" :: _ => true
      | _ => false
  | _ => false

/-- Whether the tokens end among names in parentheses. -/
def endsInParentheses : List Token → Bool
  | .mark "(" :: ts => (afterNames ts).isEmpty
  | _ => false

/-- Whether more parameters would follow. -/
def goesOn (ps : List Parameter) (ts : List Token) : Bool :=
  match ps, ts with
  | _ :: _, _ => true
  | [], .name s :: _ => isName s
  | [], .mark m :: _ => ["*", "**", "/"].contains m
  | _, _ => false

/-- What is wrong with parameters for further named arguments. -/
def keywordsFault? (ps : List Parameter) (ts : List Token) : Option String :=
  match ps, ts with
  | [], .mark "**" :: .name s :: .mark "=" :: _ =>
    if isName s then some "var-keyword argument cannot have default value" else none
  | keywords :: ps, ts =>
    if goesOn ps ts then some "arguments cannot follow var-keyword argument" else none
  | _, _ => none

/-- What is wrong with parameters from a star on. -/
def starFault? (ps : List Parameter) (ts : List Token) : Option String :=
  match ps, ts with
  | [], .mark "*" :: .name s :: .mark "=" :: _ =>
    if isName s then some "var-positional argument cannot have default value" else none
  | [], .mark "*" :: .mark ":" :: _ | [star], .mark ":" :: _ | [star], .mark "**" :: _
  | star :: keywords :: _, _ =>
    some "named arguments must follow bare *"
  | p :: rest, ts =>
    if !p.isStar then keywordsFault? ps ts
    else
      let after := rest.dropWhile isSingle
      match after with
      | q :: _ =>
        if q.isStar then some "* argument may appear only once" else keywordsFault? after ts
      | [] => keywordsFault? [] ts
  | [], ts => keywordsFault? [] ts

/-- What is wrong with the first of the tokens of parameters. -/
def startFault? : List Token → Option String
  | .mark "/" :: .mark "," :: _ => some "at least one argument must precede /"
  | _ => none

/-- What is wrong with parameters that end where the tokens start. -/
def fault? (ps : List Parameter) (ts : List Token) : Option String :=
  let singles := ps.takeWhile isSingle
  let marks := ps.dropWhile isSingle
  let defaults := ps.dropWhile (· = plain)
  let afterDefaults := defaults.dropWhile (· = defaulted)
  let (isSplit, behind) := match marks with
    | slash :: behind => if singles.isEmpty then (false, marks) else (true, behind)
    | _ => (false, marks)
  let others := if isSplit then behind.dropWhile isSingle else marks
  match defaults, afterDefaults with
  | defaulted :: _, plain :: _ | defaulted :: _, slash :: plain :: _ =>
    some "non-default argument follows default argument"
  | _, _ =>
    if defaults.isEmpty && isParenthesised ts then
      some "Lambda expression parameters cannot be parenthesized"
    else if isSplit && slashNext others ts then some "/ may appear only once"
    else
      match others, marks, ts with
      | p :: rest, _, ts =>
        if p.isStar && slashNext (rest.dropWhile isSingle) ts then
          some "/ must be ahead of *"
        else starFault? others ts
      | [], [], .mark "/" :: .mark "*" :: _ =>
        if singles.isEmpty then none else some "expected comma between / and *"
      | [], _, ts => starFault? [] ts

end Parameter

end ResourceSymbols.Console.Handler
