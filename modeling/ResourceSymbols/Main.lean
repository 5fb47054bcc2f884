import ResourceSymbols.Command.Program

/-!
# The program

The command is run on a picture of the files that its arguments name, and what it
changed in the picture is then done to the files.  No request is ever made, so a
table cannot be read from the web.
-/

namespace ResourceSymbols.Main

open Files (Location Node Tree)

/-- The characters as a text. -/
def textOf (s : String) : String := String.ofList (Text.spelled s.toList)

/-- The characters of a text, without its halves of surrogate pairs. -/
def charactersOf (s : String) : String := String.ofList (Text.characters s.toList)

/-- The characters of a location. -/
def pathText (l : Location) : String := charactersOf ("/" ++ "/".intercalate l)

/-- Adds what stands at the location to the picture.  The octets of a file are
read only where they matter. -/
def addNode (reads : Bool) (t : Tree) (l : Location) : IO Tree := do
  let path := (← IO.currentDir) / pathText l
  if ← path.isDir then return t.put l .directory
  else if ← path.pathExists then
    let octets ← if reads then do pure (← IO.FS.readBinFile path).toList else pure []
    return t.put l (.file octets)
  else return t

/-- Adds what stands on the way to the location. -/
def addWay (reads : Bool) (t : Tree) (l : Location) : IO Tree :=
  (List.range l.length).foldlM (fun t n => addNode reads t (l.take (n + 1))) t

/-- Adds all that stands below the location. -/
partial def addBelow (t : Tree) (l : Location) : IO Tree := do
  let path := (← IO.currentDir) / pathText l
  if ← path.isDir then
    (← path.readDir).foldlM (fun t e => addBelow t (l ++ [textOf e.fileName])) (← addNode false t l)
  else addNode false t l

/-- The location that a path leads to from the working directory, as far as its
names tell. -/
def locationOf (home : Location) (text : String) : Location :=
  let p := Files.Path.ofText text
  (if p.root.isEmpty then home else []) ++ p.names

/-- A picture of the files that the arguments name. -/
def picture (home : Location) (a : Command.Arguments) : IO Tree := do
  let t ← addWay false { home, nodes := [] } home
  let t ← [a.file, a.config, a.output].foldlM (fun t path =>
    match path with
    | some path => addWay true t (locationOf home path)
    | none => pure t) t
  match a.outputDir with
  | some path => do
    let l := locationOf home path
    addBelow (← addWay false t l) l
  | none => pure t

/-- Does to the files what was done to the picture. -/
def carryOut (edits : List Files.Edit) : IO Unit :=
  edits.forM fun
    | .makeDirectory l => IO.FS.createDirAll (pathText l)
    | .write l octets => IO.FS.writeBinFile (pathText l) ⟨octets.toArray⟩
    | .remove l => IO.FS.removeFile (pathText l)

/-- All octets of a stream. -/
partial def readAll (s : IO.FS.Stream) (before : List UInt8) : IO (List UInt8) := do
  let octets ← s.read 65536
  if octets.isEmpty then return before else readAll s (before ++ octets.toList)

/-- The surroundings of the command. -/
def surroundings (words : List String) : IO Command.Surroundings := do
  let home := (Files.Path.ofText (textOf (← IO.currentDir).toString)).names
  let exchange : Web.Exchange := .trouble .connection "requests are not made"
  match Command.Arguments.read words with
  | .error _ => return { tree := { home, nodes := [] }, stdin := [], exchange }
  | .ok a =>
    let stdin ← if a.stdin then readAll (← IO.getStdin) [] else pure []
    return { tree := ← picture home a, stdin, exchange }

end ResourceSymbols.Main

open ResourceSymbols in
/-- Runs the command with the words of the command line. -/
def main (words : List String) : IO UInt32 := do
  let words := words.map Main.textOf
  let w ← Main.surroundings words
  let o := Command.run w words
  Main.carryOut (Files.Tree.edits w.tree o.state.tree)
  (← IO.getStdout).putStr (Main.charactersOf o.state.stdout)
  let stderr ← IO.getStderr
  o.state.log.forM fun r =>
    stderr.putStrLn (Main.charactersOf (r.severity.name ++ " " ++ r.message))
  stderr.putStr (Main.charactersOf o.state.stderr)
  match o.status with
  | .ok 2 =>
    stderr.putStrLn ""
    return 2
  | .ok status => return status.toUInt32
  | .error failure =>
    stderr.putStrLn (Main.charactersOf failure.message)
    return 1
