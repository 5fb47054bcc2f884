import ResourceSymbols.Files.Tree
import ResourceSymbols.Json.Misuse
import ResourceSymbols.Json.Reader
import ResourceSymbols.Text.Utf8

/-!
# Errors of settings
-/

namespace ResourceSymbols.Settings

/-- Why settings were refused. -/
inductive Refusal
  | notFound (path : String)
  | notJson (path : String)
  | malformed (path : String) (defect : Json.Defect) (place : Text.Place)
  | unreadable (path : String) (cause : Files.Error)
  | notAnObject (path : String)
  | notBoolean (shown : String)
  | unwritable (path : String) (cause : Files.Error)
  | notSettings (kind : String)
deriving DecidableEq, Repr

/-- The refusal in words. -/
def Refusal.message : Refusal → String
  | notFound path => s!"Configuration file not found: {path}"
  | notJson path => s!"Configuration file must be JSON: {path}"
  | malformed path defect place =>
    s!"Invalid JSON in configuration file {path}: {(Json.ReadError.malformed defect place).message}"
  | unreadable path cause => s!"Failed to load configuration file {path}: {cause.message}"
  | notAnObject path => s!"Configuration file must contain a JSON object: {path}"
  | notBoolean shown => s!"use_final must be a boolean, got {shown}"
  | unwritable path cause => s!"Failed to save configuration to {path}: {cause.message}"
  | notSettings kind => s!"Invalid config type: <class '{kind}'>"

/-- Why settings were not read or written. -/
inductive Error
  | refused (r : Refusal)
  /-- A value is not of the kind that it is used as. -/
  | misuse (m : Json.Misuse)
  /-- The file goes beyond the limits on documents. -/
  | excess (e : Json.Excess)
  /-- The file is not in UTF-8. -/
  | undecodable (fault : Text.Utf8.Fault)
  /-- What is to be written has no octets. -/
  | unencodable (u : Text.Utf8.Unencodable)
  /-- The path is none, or the system does not say whether the file is there. -/
  | file (cause : Files.Error)
deriving DecidableEq, Repr

/-- The error in words. -/
def Error.message : Error → String
  | refused r => r.message
  | misuse m => m.message
  | excess e => e.message
  | undecodable fault => fault.message
  | unencodable u => u.message
  | file cause => cause.message

end ResourceSymbols.Settings
