import ResourceSymbols.Text.Cut

/-!
# Paths

A path is a root and the names below it.  A path without a root starts where it
is used.  Empty names and single points are dropped; a pair of points is kept,
for it means the directory above only when the path is followed.
-/

namespace ResourceSymbols.Files

/-- A path. -/
structure Path where
  /-- Empty, a slash, or two slashes. -/
  root : String
  /-- The names below the root. -/
  names : List String
deriving DecidableEq, Repr

namespace Path

/-- Whether a name says anything about where the path leads. -/
def isName (s : String) : Bool := !s.isEmpty && s ≠ "."

/-- The path that a text describes.  Exactly two slashes at the start are a root
of their own. -/
def ofText (s : String) : Path :=
  let slashes := (s.toList.takeWhile (· = '/')).length
  { root := if slashes = 0 then "" else if slashes = 2 then "//" else "/"
    names := (Text.splitText '/' s).filter isName }

/-- The path as text. -/
def text (p : Path) : String :=
  if p.root.isEmpty && p.names.isEmpty then "." else p.root ++ "/".intercalate p.names

/-- The second path, started from the first. -/
def join (p q : Path) : Path :=
  if q.root.isEmpty then { p with names := p.names ++ q.names } else q

/-- The directory that the path lies in. -/
def parent (p : Path) : Path := { p with names := p.names.dropLast }

/-- The last name. -/
def lastName (p : Path) : String := p.names.getLastD ""

/-- The last name from its last point on, if there is something on both sides of
it. -/
def extension (p : Path) : String :=
  let name := p.lastName.toList
  let tail := (name.reverse.takeWhile (· ≠ '.')).reverse
  if tail.isEmpty || name.length ≤ tail.length + 1 then ""
  else String.ofList ('.' :: tail)

/-- Whether the path names a JSON file, by its extension in any case. -/
def isJson (p : Path) : Bool :=
  p.extension.toList.map Char.toLower = ".json".toList

end Path

end ResourceSymbols.Files
