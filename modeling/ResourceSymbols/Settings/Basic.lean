import ResourceSymbols.Json.Dictionary

/-!
# Settings

What may be set for a generation.  The values come from documents and are kept as
they are, whatever their kind; what is not known by name is custom.
-/

namespace ResourceSymbols

/-- The custom settings. -/
inductive Settings.Custom
  /-- Keys and their values. -/
  | dictionary (d : Json.Dictionary)
  /-- A value that is no object, kept as it was given. -/
  | other (v : Json.Value)
deriving Repr, Inhabited

/-- The settings of a generation. -/
structure Settings where
  /-- Whether constants are final. -/
  useFinal : Json.Value := .bool true
  /-- The package to generate; null stands for the own package of the table. -/
  packageName : Json.Value := .null
  /-- The file to write. -/
  outputFile : Json.Value := .null
  /-- All that is not known by name. -/
  custom : Settings.Custom := .dictionary []
deriving Repr, Inhabited

namespace Settings

namespace Custom

/-- The custom settings that a value gives. -/
def ofValue : Json.Value → Custom
  | .object members => .dictionary (.ofMembers members)
  | v => .other v

/-- The custom settings as keys and values. -/
def pairs : Custom → Except Json.Misuse Json.Dictionary
  | dictionary d => .ok d
  | other v => v.pairs

/-- What is gone through for the custom settings: their keys, or the items of the
value. -/
def keys : Custom → Except Json.Misuse (List Json.Value)
  | dictionary d => .ok (d.map fun m => m.1.toValue)
  | other v => v.items

end Custom

/-- The names of the settings. -/
def names : List String := ["use_final", "package_name", "output_file", "custom"]

/-- Whether the key names a setting. -/
def isKnown : Json.Key → Bool
  | .text s => names.contains s
  | _ => false

/-- The settings with the value of one of them replaced. -/
def set (s : Settings) (name : String) (v : Json.Value) : Settings :=
  match name with
  | "use_final" => { s with useFinal := v }
  | "package_name" => { s with packageName := v }
  | "output_file" => { s with outputFile := v }
  | "custom" => { s with custom := .ofValue v }
  | _ => s

/-- The settings that the members give, or the first name that is no setting. -/
def ofFields (members : Json.Members) : Except String Settings :=
  match members.find? fun m => m.1 ∉ names with
  | some m => .error m.1
  | none => .ok (members.foldl (fun s m => s.set m.1 m.2) {})

/-- The settings as keys and values: those known by name, and the custom ones
beside them. -/
def toDictionary (s : Settings) : Except Json.Misuse Json.Dictionary :=
  s.custom.pairs.map fun custom =>
    Json.Dictionary.update
      [(.text "use_final", s.useFinal), (.text "package_name", s.packageName),
        (.text "output_file", s.outputFile)]
      custom

end Settings

end ResourceSymbols
