/-!
# Reserved words

The words that Java keeps for itself: its keywords, and the literals for truth
and for the null reference.  None of them may name a symbol.
-/

namespace ResourceSymbols.Symbol

/-- The keywords and literals of Java. -/
def reservedWords : List String := [
  "abstract", "assert", "boolean", "break", "byte", "case", "catch", "char", "class", "const",
  "continue", "default", "do", "double", "else", "enum", "extends", "final", "finally", "float",
  "for", "goto", "if", "implements", "import", "instanceof", "int", "interface", "long", "native",
  "new", "package", "private", "protected", "public", "return", "short", "static", "strictfp",
  "super", "switch", "synchronized", "this", "throw", "throws", "transient", "try", "void",
  "volatile", "while", "true", "false", "null"]

/-- Whether Java keeps the word for itself. -/
def isReserved (word : String) : Bool := reservedWords.contains word

end ResourceSymbols.Symbol
