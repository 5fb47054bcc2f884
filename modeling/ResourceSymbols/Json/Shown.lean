import ResourceSymbols.Json.Value
import ResourceSymbols.Number.Decimal
import ResourceSymbols.Number.Shortest
import ResourceSymbols.Text.Quoted

/-!
# Values in messages

A message shows a value in literal form: texts in quotes, lists and objects in
their brackets.  `shown?` differs from it for a text alone, which stands as it
is.  A value with an integer beyond the limit on digits has neither form.
-/

namespace ResourceSymbols.Json

/-- The words for reals without digits, as messages spell them. -/
def shownWords : Number.RealWords := { nan := "nan", infinity := "inf" }

namespace Value

mutual

/-- The value in literal form.  It has one however deep it is: the stack that a value too
deep for it would overflow is left out, and no value that was read is so deep. -/
def literal? : Value → Option String
  | null => some "None"
  | bool b => some (if b then "True" else "False")
  | int n => Number.decimal? n
  | real x => some (x.text shownWords)
  | text s => some (Text.quoted s)
  | list items => (literals? items).map fun ts => "[" ++ ", ".intercalate ts ++ "]"
  | object members =>
    (memberLiterals? members).map fun ts => "\x7b" ++ ", ".intercalate ts ++ "\x7d"

/-- The values in literal form, one after the other. -/
def literals? : List Value → Option (List String)
  | [] => some []
  | v :: vs =>
    match literal? v, literals? vs with
    | some t, some ts => some (t :: ts)
    | _, _ => none

/-- The members in literal form, one after the other. -/
def memberLiterals? : List (String × Value) → Option (List String)
  | [] => some []
  | (name, v) :: members =>
    match literal? v, memberLiterals? members with
    | some t, some ts => some (s!"{Text.quoted name}: {t}" :: ts)
    | _, _ => none

end

/-- The value as it stands within a message.  Here too the depth is left out. -/
def shown? : Value → Option String
  | text s => some s
  | v => v.literal?

end Value

end ResourceSymbols.Json
