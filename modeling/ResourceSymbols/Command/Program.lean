import ResourceSymbols.Command.Arguments
import ResourceSymbols.Command.Failure
import ResourceSymbols.Console.Sheet
import ResourceSymbols.RClass.Report
import ResourceSymbols.Resource.Packages
import ResourceSymbols.Settings.Review
import ResourceSymbols.Settings.Store

/-!
# The command

The command reads a table, merges the settings, and writes the class of one
package or of all of them: to the standard output, to a file, or below a source
root.  It ends with status 0 when everything was written, with 1 after a failure
that it reports, and with 2 when its words are no arguments.
-/

namespace ResourceSymbols.Command

open Resource (Table)

/-- What surrounds the command: files, the standard input, and what comes of a
request. -/
structure Surroundings where
  tree : Files.Tree
  stdin : List UInt8
  exchange : Web.Exchange

/-- What the command did so far. -/
structure State where
  tree : Files.Tree
  stdout : String := ""
  stderr : String := ""
  log : List Log.Record := []
  requests : List Web.Request := []

/-- A step of the command.  What it did stays done when it fails. -/
abbrev Act := ExceptT Failure (StateM State)

/-! ## Steps -/

/-- Adds records to the log. -/
def record (records : List Log.Record) : Act Unit :=
  modify fun s => { s with log := s.log ++ records }

/-- Prints a text with tags. -/
def say (markup : String) : Act Unit :=
  match Console.printed markup with
  | .ok text => modify fun s => { s with stderr := s.stderr ++ text }
  | .error e => throw (.console e)

/-- The result, or the failure that it is. -/
def orFail {ε α : Type} (failure : ε → Failure) (x : Except ε α) : Act α :=
  match x with
  | .ok a => pure a
  | .error e => throw (failure e)

/-- The text of an argument that is given and not empty. -/
def given (argument : Option String) : Option String := argument.filter fun s => !s.isEmpty

/-! ## Input -/

/-- The document on the standard input. -/
def readStdin (octets : List UInt8) : Act Json.Value := do
  let text ← orFail .undecodable (Text.Utf8.decode octets)
  match Json.Value.read (Text.foldLineEnds text) with
  | .ok v => pure v
  | .error (.malformed defect place) => throw (.request (.badInput defect place))
  | .error (.excess e) => throw (.excess e)

/-- The document that the arguments ask for. -/
def readDocument (w : Surroundings) (a : Arguments) : Act Json.Value := do
  if (given a.file).isSome || (given a.url).isSome then
    let found := Resource.Source.find { tree := w.tree, exchange := w.exchange }
      (.ofText? a.file) (.ofText? a.url) (.int 30)
    modify fun s => { s with requests := s.requests ++ found.requests }
    record found.log
    return (← orFail .source found.outcome).document
  else if a.stdin then readStdin w.stdin
  else throw (.request .noInput)

/-- The table that the arguments ask for. -/
def readTable (w : Surroundings) (a : Arguments) : Act Table := do
  let t ← orFail .document (Table.ofDocument (← readDocument w a))
  record
    [⟨.info, s!"Loaded table {t.package}: {t.groups.length} types, {t.entryCount} entries"⟩]
  return t

/-! ## Settings -/

/-- The settings that the arguments make. -/
def overrides (a : Arguments) : Json.Members :=
  (match given a.package with
    | some name => [("package_name", .text name)]
    | none => []) ++
  (if a.noFinal then [("use_final", .bool false)] else [])

/-- The settings in force.  Doubts about them are printed. -/
def readSettings (w : Surroundings) (a : Arguments) : Act Settings := do
  let s ← orFail .settings
    (Settings.load w.tree (.object (overrides a)) (.ofText? a.config))
  let warnings ← orFail .misuse (s.warnings true)
  warnings.forM fun warning => say s!"[yellow]⚠️  {warning}[/yellow]"
  return s

/-! ## Output -/

/-- A name in words, each with a capital. -/
def titled (name : String) : String :=
  " ".intercalate ((Text.splitText '_' name).map fun word =>
    match word.toList with
    | [] => ""
    | c :: cs => String.ofList (c.toUpper :: cs))

/-- The rows that show what is known about a generation. -/
def rowsOf (fields : Json.Members) : Option (List Console.Row) :=
  fields.mapM fun m => m.2.shown?.map fun value => { property := titled m.1, value }

/-- Prints what is known about a generation. -/
def printFields (fields : Json.Members) : Act Unit := do
  let some rows := rowsOf fields | throw (.misuse .digitLimit)
  say ""
  let text ← orFail .console
    (Console.sheet "📊 Generation Metadata" { property := "Property", value := "Value" } rows)
  modify fun s => { s with stderr := s.stderr ++ text }

/-- The path that the class is written to, unless it goes to the standard
output. -/
def outputPath (a : Arguments) (s : Settings) : Act (Option Files.Path) :=
  match given a.output with
  | some path => pure (some (.ofText path))
  | none =>
    if s.outputFile.isTruthy then
      match s.outputFile with
      | .text path => pure (some (.ofText path))
      | v => throw (.misuse (.notAPath v.kindName))
    else pure none

/-- Writes the class to a file, which is emptied first.  Whether it could be written. -/
def writeFile (p : Files.Path) (code : String) : Act Bool := do
  match (← get).tree.write p [] with
  | .error (.noPath fault) => throw (.file (.noPath fault))
  | .error e =>
    say s!"[red]✗ Failed to write to {p.text}:[/red] {e.message}"
    return false
  | .ok opened =>
    modify fun s => { s with tree := opened }
    let octets ← orFail .unencodable (Text.Utf8.encode code)
    let tree ← orFail .file (opened.write p octets)
    modify fun s => { s with tree }
    say s!"[green]✓[/green] R class saved to [cyan]{p.text}[/cyan]"
    return true

/-- Writes the class to the standard output, which takes it whole or not at all. -/
def writeStdout (code : String) : Act Unit := do
  let _ ← orFail .unencodable (Text.Utf8.encode code)
  modify fun s => { s with stdout := s.stdout ++ code }

/-- Reports a generation that is not complete. -/
def sayFailed (r : RClass.Result) : Act Unit :=
  let message := r.message?.getD ""
  say s!"[red]✗ Error:[/red] {message}"

/-- Writes the class of a package below the source root. -/
def outputBelow (t : Table) (s : Settings) (root package : String) : Act (Option RClass.Result) := do
  let w := RClass.toFile t (.ofText root) (.text package) s (← get).tree
  modify fun st => { st with tree := w.tree }
  record w.log
  let r ← orFail .output w.outcome
  if r.isComplete then
    let path := ((r.fields.get? "output_file").bind Json.Value.text?).getD ""
    say s!"[green]✓[/green] {package}: wrote [cyan]{path}[/cyan]"
    return some r
  else
    sayFailed r
    return none

/-- Writes the class of a package to a file or to the standard output. -/
def outputOne (a : Arguments) (t : Table) (s : Settings) (target : Json.Value) :
    Act (Option RClass.Result) := do
  let (outcome, log) := RClass.toSource t target s
  record log
  let source ← orFail .output outcome
  if source.result.isComplete then
    match ← outputPath a s with
    | some p => return if ← writeFile p source.code then some source.result else none
    | none => do
      writeStdout source.code
      return some source.result
  else
    sayFailed source.result
    return none

/-- Writes the classes of the packages until one cannot be written.  The status of
the command. -/
def outputAll (a : Arguments) (t : Table) (s : Settings) : List String → Act Nat
  | [] => pure 0
  | package :: packages => do
    let written ← match given a.outputDir with
      | some root => outputBelow t s root package
      | none => outputOne a t s (.text package)
    match written with
    | none => pure 1
    | some r => do
      if a.verbose then printFields r.fields
      outputAll a t s packages

/-- The packages whose classes are asked for. -/
def packagesOf (a : Arguments) (t : Table) (s : Settings) : List String :=
  if a.allPackages then t.packages
  else [(given s.packageName.text?).getD t.package]

/-! ## The whole command -/

/-- Checks that the outputs that are asked for go together. -/
def checkOutputs (a : Arguments) : Act Unit :=
  if a.allPackages && (given a.outputDir).isNone then throw (.request .noDirectory)
  else if (given a.output).isSome && (given a.outputDir).isSome then throw (.request .twoOutputs)
  else pure ()

/-- What the command does with its arguments.  Its status. -/
def perform (w : Surroundings) (a : Arguments) : Act Nat := do
  checkOutputs a
  let t ← readTable w a
  let s ← readSettings w a
  outputAll a t s (packagesOf a t s)

/-- Reports a failure, if it is one to report. -/
def report (f : Failure) : Act Nat := do
  if f.isReported then
    say s!"[red]✗ Error:[/red] {f.message}"
    if !f.isOfRequest then record [⟨.debug, "Failure details"⟩]
    return 1
  else throw f

/-- What came of running the command: its status, or the failure that ended it. -/
structure Outcome where
  status : Except Failure Nat
  state : State

/-- Runs the command with the arguments. -/
def runWith (w : Surroundings) (a : Arguments) : Outcome :=
  match a.logLevel with
  | none => { status := .error (.level (.notALevel "[]")), state := { tree := w.tree } }
  | some level =>
    let (status, s) := (tryCatch (perform w a) report).run.run { tree := w.tree }
    { status, state := { s with log := Log.atLeast level s.log } }

/-- Runs the command with the words of a command line. -/
def run (w : Surroundings) (words : List String) : Outcome :=
  match Arguments.read words with
  | .ok a => runWith w a
  | .error .help => { status := .ok 0, state := { tree := w.tree } }
  | .error (.usage e) =>
    { status := .ok 2, state := { tree := w.tree, stderr := s!"resgen: error: {e.message}" } }

end ResourceSymbols.Command
