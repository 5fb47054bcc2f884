import ResourceSymbols.Settings.Basic
import ResourceSymbols.Symbol.PackageName

/-!
# Reviewing settings

Settings that are used may still be doubtful: a package name that is none, and
custom settings, which nothing asks for.
-/

namespace ResourceSymbols.Settings

/-- The warnings about a package name.  Null asks for none. -/
def nameWarnings (v : Json.Value) : Except Json.Misuse (List String) :=
  match v with
  | .null => .ok []
  | .text s => .ok (Symbol.packageWarnings s)
  | v =>
    if v.isTruthy then .error (.noOperation v.kindName "split") else .ok (Symbol.packageWarnings "")

/-- The warning about a custom setting. -/
def keyWarning (key : Json.Value) : Except Json.Misuse String :=
  match key.shown? with
  | some t => .ok s!"Unknown configuration key: {t}"
  | none => .error .digitLimit

/-- The warnings about the settings.  Package names are looked at only where
`checksNames` says so. -/
def warnings (checksNames : Bool) (s : Settings) : Except Json.Misuse (List String) := do
  let names ← if checksNames then nameWarnings s.packageName else .ok []
  let keys ← s.custom.keys
  return names ++ (← keys.mapM keyWarning)

end ResourceSymbols.Settings
