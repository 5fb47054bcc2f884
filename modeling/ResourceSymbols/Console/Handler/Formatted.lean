import ResourceSymbols.Console.Handler.Whole

/-!
# Formatted texts

A formatted text has expressions in braces between its characters; two braces stand for
one.  A colon after an expression starts a form, which may have expressions in it again,
and an exclamation mark a conversion.

## Main results

* `length_literalPart` — the characters in front of an expression, and what follows
  them, are no more than there were.
-/

namespace ResourceSymbols.Console.Handler.Formatted

/-- A fault in a formatted text. -/
inductive Fault
  | unclosed
  | singleBrace
  | emptyExpression
  | missingBefore (c : Char)
  | conversion
  | tooDeep
  | backslash
  | comment
  | unterminatedText
  | unmatched (c : Char)
  | mismatched (closing opening : Char)
  | tooNested
deriving DecidableEq, Repr

/-- The fault in words.  Those about signs that an expression cannot have do without a
colon. -/
def Fault.message : Fault → String
  | unclosed => "f-string: expecting '\x7d'"
  | singleBrace => "f-string: single '\x7d' is not allowed"
  | emptyExpression => "f-string: empty expression not allowed"
  | missingBefore c => s!"f-string: expression required before '{c}'"
  | conversion => "f-string: invalid conversion character: expected 's', 'r', or 'a'"
  | tooDeep => "f-string: expressions nested too deeply"
  | backslash => "f-string expression part cannot include a backslash"
  | comment => "f-string expression part cannot include '#'"
  | unterminatedText => "f-string: unterminated string"
  | unmatched c => s!"f-string: unmatched '{c}'"
  | mismatched c o =>
    s!"f-string: closing parenthesis '{c}' does not match opening parenthesis '{o}'"
  | tooNested => "f-string: too many nested parenthesis"

/-! ## Parts -/

/-- How many characters a backslash takes along.  A name in braces belongs to it; another
brace does not. -/
def taken : List Char → Nat
  | 'N' :: '\x7b' :: cs => 3 + (cs.takeWhile (· ≠ '\x7d')).length
  | 'N' :: _ :: _ => 2
  | '\x7b' :: _ | '\x7d' :: _ => 0
  | _ => 1

/-- The characters in front of an expression, whether two braces end them, and what
follows them: nothing, or from a brace on.  Only outside of forms, at the `top`, two braces
stand for one. -/
def literalPart (isRaw top : Bool) :
    List Char → Except Fault (List Char × Bool × List Char)
  | [] => .ok ([], false, [])
  | c :: cs =>
    if c = '\\' ∧ !isRaw then
      (literalPart isRaw top (cs.drop (taken cs))).map fun r =>
        (c :: cs.take (taken cs) ++ r.1, r.2)
    else if c = '\x7b' ∨ c = '\x7d' then
      if top ∧ cs.head? = some c then .ok ([c], true, cs.drop 1)
      else if top ∧ c = '\x7d' then .error .singleBrace
      else .ok ([], false, c :: cs)
    else (literalPart isRaw top cs).map fun r => (c :: r.1, r.2)
termination_by cs => cs.length

/-- The characters in front of an expression, and what follows them, are no more than
there were. -/
theorem length_literalPart {isRaw top : Bool} {cs part rest : List Char} {doubled : Bool}
    (h : literalPart isRaw top cs = .ok (part, doubled, rest)) :
    part.length + rest.length ≤ cs.length := by
  fun_induction literalPart isRaw top cs generalizing part doubled rest with
  | case1 => simp_all
  | case2 c cs _ ih =>
    cases hr : literalPart isRaw top (cs.drop (taken cs)) with
    | error e => simp [hr, Except.map] at h
    | ok r =>
      obtain ⟨p, d, r⟩ := r
      have := ih hr
      simp only [hr, Except.map, Except.ok.injEq, Prod.mk.injEq] at h
      obtain ⟨rfl, rfl, rfl⟩ := h
      simp only [List.length_append, List.length_cons, List.length_take, List.length_drop] at *
      omega
  | case3 =>
    simp only [Except.ok.injEq, Prod.mk.injEq] at h
    obtain ⟨rfl, rfl, rfl⟩ := h
    simp only [List.length_cons, List.length_nil, List.length_drop]
    omega
  | case4 => simp_all
  | case5 => simp_all
  | case6 c cs _ _ ih =>
    cases hr : literalPart isRaw top cs with
    | error e => simp [hr, Except.map] at h
    | ok r =>
      obtain ⟨p, d, r⟩ := r
      have := ih hr
      simp only [hr, Except.map, Except.ok.injEq, Prod.mk.injEq] at h
      obtain ⟨rfl, rfl, rfl⟩ := h
      simp only [List.length_cons]
      omega

/-- The signs that end an expression where no bracket is open, unless an equals sign
makes a comparison of them. -/
def endingSigns : List Char := ['!', ':', '=', '\x7d']

/-- The signs of a comparison, which ends with an equals sign. -/
def comparingSigns : List Char := ['!', '=', '<', '>']

/-- The characters of an expression, and what follows them.  `opened` holds the open
brackets, the last one first, and `quote?` the quote of the text that is open, with
whether it stands three times. -/
def expressionPart (opened : List Char) (quote? : Option (Char × Bool)) :
    List Char → Except Fault (List Char × List Char)
  | [] =>
    match quote?, opened with
    | some _, _ => .error .unterminatedText
    | none, o :: _ => .error (.unmatched o)
    | none, [] => .ok ([], [])
  | c :: cs =>
    let after (n : Nat) (opened : List Char) (quote? : Option (Char × Bool)) :=
      (expressionPart opened quote? (cs.drop n)).map fun r => (c :: cs.take n ++ r.1, r.2)
    if c = '\\' then .error .backslash
    else
      match quote? with
      | some (q, isLong) =>
        if c ≠ q then after 0 opened quote?
        else if !isLong then after 0 opened none
        else if cs.take 2 = [q, q] then after 2 opened none
        else after 0 opened quote?
      | none =>
        if c = '\'' ∨ c = '"' then
          if cs.take 2 = [c, c] then after 2 opened (some (c, true))
          else after 0 opened (some (c, false))
        else if (closingOf? c).isSome then
          if 200 ≤ opened.length then .error .tooNested else after 0 (c :: opened) none
        else if c = '#' then .error .comment
        else if opened.isEmpty ∧ comparingSigns.contains c ∧ cs.head? = some '=' then
          after 1 opened none
        else if opened.isEmpty ∧ endingSigns.contains c then .ok ([], c :: cs)
        else if c = ')' ∨ c = ']' ∨ c = '\x7d' then
          match opened with
          | [] => .error (.unmatched c)
          | o :: others =>
            if closingOf? o = some c then after 0 others none else .error (.mismatched c o)
        else after 0 opened none
termination_by cs => cs.length

/-- The blanks that an expression may consist of. -/
def blanks : List Char := [' ', '\t', '\n', '\x0c']

/-- What follows the mark of a conversion, if there is one. -/
def afterConversion : List Char → Except Fault (List Char)
  | ['!'] => .error .unclosed
  | '!' :: c :: rest => if ['s', 'r', 'a'].contains c then .ok rest else .error .conversion
  | rest => .ok rest

/-- The fault as one of a text. -/
def Fault.inText (f : Fault) : TextFault := .formatting f.message

/-! ## Faults -/

/-- The fault of an expression, if there is one.  `judge` looks into the texts in it.  A
mistake says that it is one within a text; a token that is none does not. -/
def expressionFault? (judge : Token → Token) (cs : List Char) : Option TextFault :=
  let (ts, fault?) := tokens ('(' :: cs ++ [')'])
  match fault?.filter (·.isFinal), readWhole (ts.map fun t => judge t.token) with
  | some fault, _ => some (.expression fault.message)
  | none, .ok _ | none, .error .notLiteral => none
  | none, .error (.told message) => some (.expression message)
  | none, .error (.mistake message) => some (.expression s!"f-string: {message}")
  | none, .error _ => some (.expression "f-string: invalid syntax")

mutual

/-- Looks into the parts of a text, or of a form, and gives what follows them.  `level`
is the number of expressions that they stand in. -/
def parts (judge : Token → Token) (isRaw : Bool) :
    Nat → Nat → List Char → Except TextFault (List Char)
  | 0, _, cs => .ok cs
  | fuel + 1, level, cs => do
    let (part, doubled, rest) ← (literalPart isRaw (level = 0) cs).mapError Fault.inText
    match textFault? .formatted isRaw part, doubled, rest with
    | some fault, _, _ => .error fault
    | none, true, rest => parts judge isRaw fuel level rest
    | none, false, '\x7b' :: rest => do
      let rest ← field judge isRaw fuel level rest
      parts judge isRaw fuel level rest
    | none, false, rest => return rest

/-- Looks into an expression behind its opening brace, and gives what follows its
closing one. -/
def field (judge : Token → Token) (isRaw : Bool) :
    Nat → Nat → List Char → Except TextFault (List Char)
  | 0, _, cs => .ok cs
  | fuel + 1, level, cs => do
    if 2 ≤ level then .error Fault.tooDeep.inText
    let (given, rest) ← (expressionPart [] none cs).mapError Fault.inText
    let some c := rest.head? | .error Fault.unclosed.inText
    if given.all blanks.contains then
      .error (if c = '\x7d' then Fault.emptyExpression else .missingBefore c).inText
    if let some fault := expressionFault? judge given then .error fault
    let rest := if c = '=' then (rest.drop 1).dropWhile ('\x0b' :: blanks).contains else rest
    let rest ← (afterConversion rest).mapError Fault.inText
    let rest ← match rest with
      | [':'] => .error Fault.unclosed.inText
      | ':' :: form => parts judge isRaw fuel (level + 1) form
      | rest => .ok rest
    match rest with
    | '\x7d' :: rest => return rest
    | _ => .error Fault.unclosed.inText

end

/-- The fault of a formatted text, if there is one. -/
def fault? (judge : Token → Token) (isRaw : Bool) (body : List Char) : Option TextFault :=
  match parts judge isRaw (body.length + 1) 0 body with
  | .error fault => some fault
  | .ok _ => none

/-- Looks into a token that is a formatted text, and into those within it down to the
given depth. -/
def judge : Nat → Token → Token
  | depth + 1, .formatted isRaw body => .text .formatted (fault? (judge depth) isRaw body)
  | _, t => t

end ResourceSymbols.Console.Handler.Formatted
