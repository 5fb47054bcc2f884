/-!
# Words of symbols

A symbol is named after a resource.  Resource names may hold points and hyphens,
which a symbol may not, so these become underscores.
-/

namespace ResourceSymbols.Symbol

/-- A character of a symbol in place of one of a resource name. -/
def replaceChar (c : Char) : Char := if c = '.' ∨ c = '-' then '_' else c

/-- The resource name with its points and hyphens replaced. -/
def transform (name : String) : String := String.ofList (name.toList.map replaceChar)

/-- The parts, each with its points and hyphens replaced, with underscores
between them. -/
def join (parts : List String) : String := "_".intercalate (parts.map transform)

end ResourceSymbols.Symbol
