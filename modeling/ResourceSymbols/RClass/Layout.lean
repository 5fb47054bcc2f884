import ResourceSymbols.RClass.Declaration

/-!
# The text of a class

The class is written piece by piece: a header, the opening of the class, a nested
class for each kind with a line for each constant, and the closing.  An array
holds four identifiers a line.
-/

namespace ResourceSymbols.RClass

open Resource (Attribute Id)

/-- Whether the constants are written as final. -/
structure Style where
  isFinal : Bool
deriving DecidableEq, Repr

/-- The text through the line of the package. -/
def headerText (package : String) : String :=
  "/* AUTO-GENERATED FILE. DO NOT MODIFY.\n" ++
  " *\n" ++
  " * This class was automatically generated by the\n" ++
  " * resgen tool from the resource data it found. It\n" ++
  " * should not be modified by hand.\n" ++
  " */\n" ++
  "\n" ++
  "package " ++ package ++ ";\n" ++
  "\n"

/-- The line that opens the class. -/
def openingText : String := "public final class R \x7b\n"

/-- The line that closes the class. -/
def closingText : String := "\x7d\n"

/-- The line that opens the class of a kind. -/
def groupOpeningText (tag : String) : String :=
  "    public static final class " ++ tag ++ " \x7b\n"

/-- The line that closes the class of a kind. -/
def groupClosingText : String := "    \x7d\n"

/-- The line of a constant. -/
def constantText (style : Style) (name value : String) : String :=
  "        public static" ++ (if style.isFinal then " final" else "") ++ " int " ++
    Symbol.transform name ++ " = " ++ value ++ ";\n"

/-- How many identifiers stand on a line of an array. -/
def idsPerLine : Nat := 4

/-- What starts a line of an array. -/
def itemBreak : String := "\n            "

/-- The identifiers of an array, `index` being the position of the first. -/
def itemPieces (index : Nat) : List Id → List String
  | [] => []
  | id :: ids =>
    (if index % idsPerLine = 0 then [itemBreak] else []) ++ id.text ::
      ((if ids.isEmpty then [] else [", "]) ++ itemPieces (index + 1) ids)

/-- The declaration of an array. -/
def arrayPieces (name : String) (ids : List Id) : List String :=
  ("        public static final int[] " ++ Symbol.transform name ++ " = \x7b") ::
    (itemPieces 0 ids ++ ["\n        \x7d;\n"])

/-- The name of the constant for the index of an attribute.  The package of the
attribute is part of it unless it is the own package of the table. -/
def indexName (own owner : String) (a : Attribute) : String :=
  if a.name.package ≠ own then Symbol.join [owner, a.name.package, a.name.entry]
  else Symbol.join [owner, a.name.entry]

/-- The constants for the indices of the attributes, `index` being that of the
first. -/
def indexPieces (style : Style) (own owner : String) (index : Nat) :
    List Attribute → List String
  | [] => []
  | a :: as =>
    constantText style (indexName own owner a) (toString index) ::
      indexPieces style own owner (index + 1) as

/-- What is written for an entry. -/
def Fate.pieces (style : Style) (own : String) : Fate → List String
  | skipped => []
  | silent _ => []
  | constant name id => [constantText style name id.text]
  | array name attributes =>
    arrayPieces name (attributes.map Attribute.id) ++ indexPieces style own name 0 attributes

end ResourceSymbols.RClass
