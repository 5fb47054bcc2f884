/-!
# Terms of parameters

What the parameters of a handler say, as far as it matters: whether they are a
literal, and whether a value that has to be found again is one that changes.

## Main results

* `unhashable?_ofConstants` — a tuple of constants can be found again.
-/

namespace ResourceSymbols.Console.Handler

/-- A term in the parameters of a handler. -/
inductive Term
  | name (s : String)
  /-- A text, or one of the words and marks for a value. -/
  | constant (described : String)
  | number (imaginary : Bool)
  /-- A number after its sign. -/
  | signed (imaginary : Bool)
  /-- A real number and an imaginary one. -/
  | complex
  | tuple (items : List Term)
  | list (items : List Term)
  /-- A set; an empty one is the result of a call. -/
  | set (items : List Term)
  /-- Keys and values; a term without a key stands for the members of another
  dictionary. -/
  | dict (members : List (Option Term × Term))
  /-- A term that is no literal. -/
  | other (described : String)

/-- Why a term has no value. -/
inductive NoValue
  /-- The term is no literal. -/
  | notLiteral
  /-- The members of another dictionary are asked for. -/
  | noKey
  /-- A value of the kind is to be found again. -/
  | unhashable (kind : String)
deriving DecidableEq, Repr

/-- The cause in words. -/
def NoValue.message : NoValue → String
  | notLiteral => "malformed node or string"
  | noKey => "malformed node or string: None"
  | unhashable kind => s!"unhashable type: '{kind}'"

namespace Term

/-- The term in words. -/
def describe : Term → String
  | name _ => "name"
  | constant described => described
  | number _ => "literal"
  | signed _ => "expression"
  | complex => "expression"
  | tuple _ => "tuple"
  | list _ => "list"
  | set [] => "function call"
  | set _ => "set display"
  | dict _ => "dict literal"
  | other described => described

mutual

/-- The first part of the term that takes no value, if there is one. -/
def unfit? : Term → Option Term
  | name _ => none
  | tuple items => unfitOf? items
  | list items => unfitOf? items
  | other "attribute" => none
  | other "subscript" => none
  | other "comparison" => none
  | t => some t

/-- The first part of the terms that takes no value. -/
def unfitOf? : List Term → Option Term
  | [] => none
  | t :: ts => (unfit? t).or (unfitOf? ts)

end

mutual

/-- The kind that a value of the term cannot be found again by, if there is one. -/
def unhashable? : Term → Option String
  | list _ => some "list"
  | set _ => some "set"
  | dict _ => some "dict"
  | tuple items => unhashableOf? items
  | _ => none

/-- The first such kind among the values. -/
def unhashableOf? : List Term → Option String
  | [] => none
  | t :: ts => (unhashable? t).or (unhashableOf? ts)

end

theorem unhashable?_ofConstants (words : List String) :
    unhashable? (tuple (words.map constant)) = none := by
  have (ws : List String) : unhashableOf? (ws.map constant) = none := by
    induction ws with
    | nil => rfl
    | cons w ws ih => simp [unhashableOf?, unhashable?, ih]
  simpa [unhashable?] using this words

/-- Checks that a value of the term can be found again. -/
def checkHashable (t : Term) : Except NoValue Unit :=
  match t.unhashable? with
  | some kind => .error (.unhashable kind)
  | none => .ok ()

mutual

/-- Checks that the term has a value. -/
def checkValue : Term → Except NoValue Unit
  | name _ => .error .notLiteral
  | other _ => .error .notLiteral
  | tuple items => checkValues items
  | list items => checkValues items
  | set items => checkItems items
  | dict members => checkMembers members
  | _ => .ok ()

/-- Checks that the terms have values. -/
def checkValues : List Term → Except NoValue Unit
  | [] => .ok ()
  | t :: ts => do
    checkValue t
    checkValues ts

/-- Checks that the terms have values that can be found again. -/
def checkItems : List Term → Except NoValue Unit
  | [] => .ok ()
  | t :: ts => do
    checkValue t
    checkHashable t
    checkItems ts

/-- Checks that the keys and the values have values, and that the keys can be found
again. -/
def checkMembers : List (Option Term × Term) → Except NoValue Unit
  | [] => .ok ()
  | (none, _) :: _ => .error .noKey
  | (some k, v) :: ms => do
    checkValue k
    checkValue v
    checkHashable k
    checkMembers ms

end

end Term

end ResourceSymbols.Console.Handler
