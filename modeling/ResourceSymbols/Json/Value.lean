import ResourceSymbols.Number.Binary64

/-!
# JSON values

A document is a tree of values.  An object keeps its members in the order in
which they were first given.
-/

namespace ResourceSymbols.Json

/-- A JSON value. -/
inductive Value
  | null
  | bool (b : Bool)
  | int (n : Int)
  | real (x : Number.Binary64)
  | text (s : String)
  | list (items : List Value)
  | object (members : List (String × Value))
deriving Inhabited, Repr

/-- The members of an object. -/
abbrev Members := List (String × Value)

namespace Value

/-- Whether the value counts as given: neither null, false, zero nor empty. -/
def isTruthy : Value → Bool
  | null => false
  | bool b => b
  | int n => decide (n ≠ 0)
  | real x => !x.isZero
  | text s => !s.isEmpty
  | list items => !items.isEmpty
  | object members => !members.isEmpty

/-- The kind of the value, as messages name it. -/
def kindName : Value → String
  | null => "NoneType"
  | bool _ => "bool"
  | int _ => "int"
  | real _ => "float"
  | text _ => "str"
  | list _ => "list"
  | object _ => "dict"

/-- The text that the value is, if it is one. -/
def text? : Value → Option String
  | text s => some s
  | _ => none

theorem eq_text_of_text? {v : Value} {s : String} (hText : v.text? = some s) : v = text s := by
  cases v <;> cases hText
  rfl

/-- A text, or null where there is none. -/
def ofText? : Option String → Value
  | some s => text s
  | none => null

end Value

end ResourceSymbols.Json
