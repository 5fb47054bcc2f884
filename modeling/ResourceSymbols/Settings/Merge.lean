import ResourceSymbols.Settings.Basic
import ResourceSymbols.Settings.Error

/-!
# Merging settings

Settings are merged from defaults, a file and overrides; what comes later wins.
Names that are no settings join the custom ones and win over what is set for them
there.
-/

namespace ResourceSymbols.Settings

/-- What is in force without any other. -/
def defaults : Json.Dictionary := [(.text "use_final", .bool true), (.text "package_name", .null)]

/-- The keys that name no setting, and their values. -/
def unknownOf (d : Json.Dictionary) : Json.Dictionary := d.filter fun m => !isKnown m.1

/-- The custom settings: those given as such, and all unknown keys. -/
def customOf (d : Json.Dictionary) : Except Json.Misuse Custom :=
  let given := ((d.get? (.text "custom")).map Custom.ofValue).getD (.dictionary [])
  match unknownOf d with
  | [] => .ok given
  | unknown =>
    given.pairs.map fun ps => .dictionary ((Json.Dictionary.update [] ps).update unknown)

/-- Whether a value may say that constants are final. -/
def checkFinal (v : Json.Value) : Except Error Unit :=
  match v with
  | .bool _ => .ok ()
  | _ =>
    match v.literal? with
    | some shown => .error (.refused (.notBoolean shown))
    | none => .error (.misuse .digitLimit)

/-- The settings that the merged dictionary gives. -/
def ofDictionary (d : Json.Dictionary) : Except Error Settings := do
  checkFinal ((d.get? (.text "use_final")).getD (.bool true))
  let custom ← (customOf d).mapError .misuse
  return {
    useFinal := (d.get? (.text "use_final")).getD (.bool true)
    packageName := (d.get? (.text "package_name")).getD .null
    outputFile := (d.get? (.text "output_file")).getD .null
    custom }

/-- A layer of settings over those before it.  A layer that is not given changes
nothing. -/
def addLayer (d : Json.Dictionary) (layer : Json.Value) : Except Error Json.Dictionary :=
  if layer.isTruthy then
    (layer.pairs.mapError Error.misuse).map d.update
  else .ok d

/-- An empty layer is not looked at, and would change nothing. -/
theorem addLayer_object (d : Json.Dictionary) (layer : Json.Members) :
    addLayer d (.object layer) = .ok (d.update (.ofMembers layer)) := by
  cases layer with
  | nil => rfl
  | cons m ms => rfl

/-- The settings with the overrides over the defaults. -/
def ofOverrides (overrides : Json.Value) : Except Error Settings :=
  (addLayer defaults overrides).bind ofDictionary

end ResourceSymbols.Settings
