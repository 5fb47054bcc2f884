import ResourceSymbols.Text.CodePoint
import ResourceSymbols.Text.Hex
import ResourceSymbols.Text.Printable

/-!
# Quoted text

A text is quoted in single quotes, or in double quotes when it holds single
quotes and no double ones.  Inside, the backslash and the quote in use stand
after a backslash, and so does every character without a visible form: the three
usual ones by a letter, all others by their code point.
-/

namespace ResourceSymbols.Text

/-- The quote that the text is written in. -/
def quoteFor (cs : List Char) : Char :=
  if cs.contains '\'' && !cs.contains '"' then '"' else '\''

/-- One character between the quotes. -/
def escapeChar (quote c : Char) : List Char :=
  if c = quote ∨ c = '\\' then ['\\', c]
  else if c = '\n' then ['\\', 'n']
  else if c = '\r' then ['\\', 'r']
  else if c = '\t' then ['\\', 't']
  else if isPrintable c then [c]
  else if c.toNat < 0x100 then '\\' :: 'x' :: hexDigits 2 c.toNat
  else if c.toNat < 0x10000 then '\\' :: 'u' :: hexDigits 4 c.toNat
  else '\\' :: 'U' :: hexDigits 8 c.toNat

/-- One code point between the quotes. -/
def escapePoint (quote : Char) : CodePoint → List Char
  | .char c => escapeChar quote c
  | .half n => '\\' :: 'u' :: hexDigits 4 n

/-- The text in quotes. -/
def quoted (s : String) : String :=
  let cs := s.toList
  let quote := quoteFor cs
  String.ofList (quote :: (codePoints cs).flatMap (escapePoint quote) ++ [quote])

end ResourceSymbols.Text
