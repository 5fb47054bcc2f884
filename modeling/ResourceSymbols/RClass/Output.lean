import ResourceSymbols.Files.Tree
import ResourceSymbols.RClass.Generation
import ResourceSymbols.Settings.Merge
import ResourceSymbols.Text.Utf8

/-!
# Classes as texts and as files

The class of a package is generated into a text, or into a file below a source
root that lies where the package says.  A generation that is not complete leaves
no file behind.
-/

namespace ResourceSymbols.RClass

open Resource (Table)

/-- Why there is no result. -/
inductive Error
  | settings (e : Settings.Error)
  | misuse (m : Json.Misuse)
  | file (e : Files.Error)
  | interrupted (i : Interruption)
deriving DecidableEq, Repr

/-- The error in words. -/
def Error.message : Error → String
  | settings e => e.message
  | misuse m => m.message
  | file e => e.message
  | interrupted i => i.message

/-- The settings that a value gives as overrides; null gives none. -/
def settingsOf (v : Json.Value) : Except Error Settings :=
  match v with
  | .null | .object _ => (Settings.ofOverrides v).mapError .settings
  | v => .error (.settings (.refused (.notSettings v.kindName)))

/-- What a caller gives for the settings: settings as they are, or a value that
gives them. -/
inductive Given
  | settings (s : Settings)
  | value (v : Json.Value)

/-- The settings that are given. -/
def Given.resolve : Given → Except Error Settings
  | settings s => .ok s
  | value v => settingsOf v

/-- The style that a value asks for in place of settings.  A value that counts as
given has no settings to ask. -/
def styleOfValue (v : Json.Value) : Except Json.Misuse Style :=
  if v.isTruthy then .error (.noOperation v.kindName "use_final") else .ok (styleOf {})

/-- The target of a generation: what is asked for, else what the settings name,
else the own package of the table. -/
def targetOf (asked : Json.Value) (s : Settings) (t : Table) : Json.Value :=
  if asked.isTruthy then asked
  else if s.packageName.isTruthy then s.packageName
  else .text t.package

/-- The class as a text, with what came of the generation. -/
structure Source where
  code : String
  result : Result

/-- Generates the class into a text. -/
def toSource (t : Table) (asked : Json.Value) (s : Settings) :
    Except Error Source × List Log.Record :=
  let g := generateGuarded (styleOf s) t (targetOf asked s t) {}
  match g.outcome with
  | .error i => (.error (.interrupted i), g.log)
  | .ok result => (.ok { code := g.written, result }, g.log)

/-- Generates the class into a text, with settings as they are given. -/
def toSourceGiven (t : Table) (asked : Json.Value) (given : Given) :
    Except Error Source × List Log.Record :=
  match given.resolve with
  | .error e => (.error e, [])
  | .ok s => toSource t asked s

/-- Where the class of a package lies below a source root. -/
def path (root : Files.Path) (package : String) : Files.Path :=
  let directory := (Text.splitText '.' package).foldl (fun p s => p.join (.ofText s)) root
  directory.join { root := "", names := ["R.java"] }

/-- A generation into a file: the tree after it, what came of it, and its log. -/
structure Writing where
  tree : Files.Tree
  outcome : Except Error Result
  log : List Log.Record

/-- What is logged when a file is taken back. -/
def removalRecord (p : Files.Path) : Log.Record :=
  ⟨.warning, s!"Removing partial output {p.text}"⟩

/-- The tree and the error after a file could not be opened: what may have been
left there is removed. -/
def afterFailedOpening (tree : Files.Tree) (p : Files.Path) (e : Files.Error) :
    Files.Tree × Files.Error :=
  match tree.unlink p with
  | .ok tree' => (tree', e)
  | .error (.refused .notFound _) => (tree, e)
  | .error e' => (tree, e')

/-- The tree without the file, or the error of removing it. -/
def takenBack (tree : Files.Tree) (p : Files.Path) (outcome : Except Error Result)
    (log : List Log.Record) : Writing :=
  match tree.unlink p with
  | .ok tree' => { tree := tree', outcome, log := log ++ [removalRecord p] }
  | .error e => { tree, outcome := .error (.file e), log := log ++ [removalRecord p] }

/-- Generates the class into the file at the path, whose directory is there. -/
def writeAt (t : Table) (target : Json.Value) (style : Style) (tree : Files.Tree)
    (p : Files.Path) : Writing :=
  match tree.write p [] with
  | .error e =>
    let (tree', e') := afterFailedOpening tree p e
    { tree := tree', outcome := .error (.file e'), log := [removalRecord p] }
  | .ok opened =>
    let g := generateGuarded style t target { isEncoded := true }
    -- A sink that encodes takes nothing without octets, so what is written has them.
    match opened.write p ((Text.Utf8.encode g.written).toOption.getD []) with
    | .error e => { tree := opened, outcome := .error (.file e), log := g.log }
    | .ok filled =>
      match g.outcome with
      | .error i => takenBack filled p (.error (.interrupted i)) g.log
      | .ok result =>
        if result.isComplete then
          { tree := filled, outcome := .ok (result.writtenTo p.text)
            log := g.log ++ [⟨.info, s!"Wrote {p.text}"⟩] }
        else takenBack filled p (.ok result) g.log

/-- Generates the class into its file below the source root. -/
def toFile (t : Table) (root : Files.Path) (asked : Json.Value) (s : Settings)
    (tree : Files.Tree) : Writing :=
  let target := targetOf asked s t
  match target.text? with
  | none =>
    { tree, outcome := .error (.misuse (.noOperation target.kindName "split")), log := [] }
  | some package =>
    let p := path root package
    match tree.makeDirectories p.parent with
    | (tree', some e) => { tree := tree', outcome := .error (.file e), log := [] }
    | (tree', none) => writeAt t target (styleOf s) tree' p

/-- Generates the class into its file, with settings as they are given. -/
def toFileGiven (t : Table) (root : Files.Path) (asked : Json.Value) (given : Given)
    (tree : Files.Tree) : Writing :=
  match given.resolve with
  | .error e => { tree, outcome := .error e, log := [] }
  | .ok s => toFile t root asked s tree

end ResourceSymbols.RClass
