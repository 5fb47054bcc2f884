import ResourceSymbols.Symbol.Reserved
import ResourceSymbols.Text.Cut
import ResourceSymbols.Text.Identifier

/-!
# Package names

A package name is a row of segments with points between them.  Each segment is
an identifier and no reserved word.
-/

namespace ResourceSymbols.Symbol

/-- What is wrong with a package name. -/
inductive PackageProblem
  | empty
  | notAnIdentifier (segment : String)
  | reserved (segment : String)
deriving DecidableEq, Repr

/-- The problem of the package name in words. -/
def PackageProblem.message (name : String) : PackageProblem → String
  | empty => "Package name cannot be empty"
  | notAnIdentifier segment => s!"'{segment}' is not a valid Java identifier in '{name}'"
  | reserved segment => s!"'{segment}' is a Java reserved word in '{name}'"

/-- What is wrong with one segment. -/
def segmentProblem? (segment : String) : Option PackageProblem :=
  if !Text.isIdentifier segment then some (.notAnIdentifier segment)
  else if isReserved segment then some (.reserved segment)
  else none

/-- What is wrong with a package name, segment by segment. -/
def packageProblems (name : String) : List PackageProblem :=
  if name.isEmpty then [.empty] else (Text.splitText '.' name).filterMap segmentProblem?

/-- The problems of a package name in words. -/
def packageWarnings (name : String) : List String :=
  (packageProblems name).map (PackageProblem.message name)

end ResourceSymbols.Symbol
