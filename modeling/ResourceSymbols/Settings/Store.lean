import ResourceSymbols.Json.Printer
import ResourceSymbols.Settings.Merge
import ResourceSymbols.Text.Lines

/-!
# Settings in files
-/

namespace ResourceSymbols.Settings

/-- The path that a value gives. -/
def pathOf : Json.Value → Except Error Files.Path
  | .text s => .ok (.ofText s)
  | v => .error (.misuse (.notAPath v.kindName))

/-- The members in the file. -/
def readFile (t : Files.Tree) (p : Files.Path) : Except Error Json.Members := do
  let isThere ← (t.isThere p).mapError .file
  if !isThere then .error (.refused (.notFound p.text))
  else if !p.isJson then .error (.refused (.notJson p.text))
  else
    let octets ← (t.read p).mapError fun e => .refused (.unreadable p.text e)
    let text ← (Text.Utf8.decode octets).mapError .undecodable
    match Json.Value.read (Text.foldLineEnds text) with
    | .error (.malformed defect place) => .error (.refused (.malformed p.text defect place))
    | .error (.excess e) => .error (.excess e)
    | .ok (.object members) => .ok members
    | .ok _ => .error (.refused (.notAnObject p.text))

/-- The settings from the defaults, the file and the overrides, each if it is
given. -/
def load (t : Files.Tree) (overrides file : Json.Value) : Except Error Settings := do
  let base ←
    if file.isTruthy then do
      let members ← readFile t (← pathOf file)
      pure (defaults.update (.ofMembers members))
    else pure defaults
  ofDictionary (← addLayer base overrides)

/-- What came of saving settings, and the tree after it. -/
structure Saving where
  tree : Files.Tree
  outcome : Except Error Unit

/-- The octets of the pieces up to the first that cannot be written. -/
def written : List (Option String) → List UInt8 × Except Error Unit
  | [] => ([], .ok ())
  | none :: _ => ([], .error (.misuse .digitLimit))
  | some piece :: pieces =>
    match Text.Utf8.encode piece with
    | .error u => ([], .error (.unencodable u))
    | .ok octets =>
      let (rest, outcome) := written pieces
      (octets ++ rest, outcome)

/-- Why the file cannot be written.  A text that is no path is told of as it is. -/
def unwritable (p : Files.Path) : Files.Error → Error
  | .noPath fault => .file (.noPath fault)
  | e => .refused (.unwritable p.text e)

/-- Saves the settings in the file.  What was written of them stays when the rest cannot
be. -/
def save (s : Settings) (t : Files.Tree) (p : Files.Path) : Saving :=
  match t.write p [] with
  | .error e => { tree := t, outcome := .error (unwritable p e) }
  | .ok opened =>
    match s.toDictionary with
    | .error m => { tree := opened, outcome := .error (.misuse m) }
    | .ok d =>
      let (octets, outcome) := written d.pieces
      match opened.write p octets with
      | .error e => { tree := opened, outcome := .error (unwritable p e) }
      | .ok tree => { tree, outcome }

end ResourceSymbols.Settings
