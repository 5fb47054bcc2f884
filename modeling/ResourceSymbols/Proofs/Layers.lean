import ResourceSymbols.Proofs.Encoding
import ResourceSymbols.Proofs.ReadDocuments
import ResourceSymbols.Settings.Store

/-!
# Layers of settings

A file and overrides are layers over the defaults.  A layer sets a custom setting at its top,
or else in the object that it gives for the custom settings.  The layers are merged member
by member, and that object is a member like any other: the one of the overrides hides the
one of the file, and only what the layers set at their top is put over it afterwards.  So a
layer does not win by its rank alone.

## Main results

* `load_object`, `load_null` — settings are made of all members that the layers give.
* `exists_customOf` — where a custom setting is found.
* `load_layers` — what settings come to, and for which names the overrides come before
  the file.
-/

namespace ResourceSymbols.Settings

open Json (Dictionary Key Members Value)
open Outcome

/-! ## What a layer sets -/

/-- The custom settings that a layer gives as such. -/
def customMembers (layer : Members) : Members :=
  match layer.get? "custom" with
  | some (.object members) => members
  | _ => []

/-- What a layer sets the name to: at its top, or else in its custom settings. -/
def given? (layer : Members) (name : String) : Option Value :=
  (layer.get? name).or ((customMembers layer).get? name)

/-- A layer of which settings can be made. -/
structure Sound (layer : Members) : Prop where
  final : ∀ v, layer.get? "use_final" = some v → ∃ b, v = .bool b
  custom : ∀ v, layer.get? "custom" = some v → ∃ members, v = .object members

/-- The custom settings of the overrides, or of the file if the overrides have none. -/
def nearestMembers (overrides file : Members) : Members :=
  if (overrides.get? "custom").isSome then customMembers overrides else customMembers file

/-- Where the overrides do not come before the file. -/
inductive Strays (overrides file : Members) (name : String) : Prop
  /-- The custom settings of the overrides set the name, and the top of the file wins. -/
  | overruled {v w : Value} (hTop : overrides.get? name = none)
      (hGiven : given? overrides name = some v) (hFile : file.get? name = some w) (hOther : w ≠ v)
  /-- Only the custom settings of the file set the name, and the overrides have others. -/
  | hidden {v : Value} (hOverrides : given? overrides name = none)
      (hFile : file.get? name = none) (hGiven : given? file name = some v)
      (hCustom : (overrides.get? "custom").isSome)

/-! ## Merged layers -/

/-- The keys and values of the layers over the defaults. -/
def layered (overrides file : Members) : Dictionary :=
  (defaults.update (.ofMembers file)).update (.ofMembers overrides)

theorem keyed_layered (overrides file : Members) : (layered overrides file).Keyed := by
  have hNames : (([("use_final", .bool true), ("package_name", .null)] : Members).map
      Prod.fst).Nodup := by decide
  have hDefaults : Dictionary.Keyed defaults := Dictionary.keyed_ofMembers hNames
  exact (hDefaults.update _).update _

variable {overrides file : Members}

theorem get?_layered (hOverrides : (overrides.map Prod.fst).Nodup)
    (hFile : (file.map Prod.fst).Nodup) (name : String) :
    (layered overrides file).get? (.text name) =
      (overrides.get? name).or ((file.get? name).or (defaults.get? (.text name))) := by
  unfold layered
  rw [Dictionary.get?_update_ofMembers _ hOverrides, Dictionary.get?_update_ofMembers _ hFile]

/-- No file is read where no path is given. -/
theorem ne_empty_of_readFile {t : Files.Tree} {path : String}
    (hFile : readFile t (.ofText path) = .ok file) : path ≠ "" := by
  rintro rfl
  unfold readFile at hFile
  obtain ⟨isThere, -, hFile⟩ := bind_eq_ok_iff.1 hFile
  have hName : (Files.Path.ofText "").isJson = false := by decide
  rw [hName] at hFile
  cases isThere <;> cases hFile

/-- The members of the file are put over the defaults, and then the overrides. -/
theorem load_eq {t : Files.Tree} {path : String} (hFile : readFile t (.ofText path) = .ok file)
    (v : Value) : load t v (.text path) =
      (addLayer (defaults.update (.ofMembers file)) v >>= ofDictionary) := by
  have hPath : (Value.text path).isTruthy = true := by
    simp [Value.isTruthy, ne_empty_of_readFile hFile]
  have hOf : pathOf (.text path) = pure (.ofText path) := rfl
  have hRead : readFile t (.ofText path) = pure file := hFile
  unfold load
  simp only [hPath, if_true, hOf, hRead, pure_bind]

/-- Settings are made of all members that the layers give. -/
theorem load_object {t : Files.Tree} {path : String}
    (hFile : readFile t (.ofText path) = .ok file) :
    load t (.object overrides) (.text path) = ofDictionary (layered overrides file) := by
  rw [load_eq hFile, addLayer_object]
  rfl

/-- Without overrides they are made of the members of the file. -/
theorem load_null {t : Files.Tree} {path : String}
    (hFile : readFile t (.ofText path) = .ok file) :
    load t .null (.text path) = ofDictionary (layered [] file) := by
  rw [load_eq hFile]
  rfl

/-- A file with an object gives its members. -/
theorem readFile_eq_ok {t : Files.Tree} {p : Files.Path} {octets : List UInt8} {text : List Char}
    (hThere : t.isThere p = .ok true) (hName : p.isJson = true) (hOctets : t.read p = .ok octets)
    (hText : Text.Utf8.decode octets = .ok text)
    (hRead : Value.read (Text.foldLineEnds text) = .ok (.object file)) :
    readFile t p = .ok file := by
  have hIsThere : (t.isThere p).mapError Error.file = pure true := by
    rw [hThere]
    rfl
  have hHeld : ((t.read p).mapError fun e => Error.refused (.unreadable p.text e)) =
      pure octets := by
    rw [hOctets]
    rfl
  have hDecoded : (Text.Utf8.decode octets).mapError Error.undecodable = pure text := by
    rw [hText]
    rfl
  unfold readFile
  simp only [hIsThere, hName, hHeld, hDecoded, hRead, pure_bind]
  rfl

/-- A file that was written for an object gives its members. -/
theorem readFile_written {t : Files.Tree} {p : Files.Path} {text : String} {octets : List UInt8}
    (hThere : t.isThere p = .ok true) (hName : p.isJson = true) (hOctets : t.read p = .ok octets)
    (hEncoded : Text.Utf8.encode text = .ok octets)
    (hText : (Value.object file).indented? = some text)
    (hRead : Value.read text.toList = .ok (.object file)) : readFile t p = .ok file := by
  have hFold : Text.foldLineEnds text.toList = text.toList :=
    Text.foldLineEnds_eq_self (Value.return_not_mem_indented? hText)
  exact readFile_eq_ok hThere hName hOctets (Text.Utf8.decode_encode hEncoded)
    (by rw [hFold, hRead])

/-- The members of a file give no name twice. -/
theorem keyed_of_readFile {t : Files.Tree} {p : Files.Path} (hFile : readFile t p = .ok file) :
    (Value.object file).Keyed := by
  unfold readFile at hFile
  obtain ⟨isThere, -, hFile⟩ := bind_eq_ok_iff.1 hFile
  split at hFile
  · cases hFile
  · split at hFile
    · cases hFile
    · obtain ⟨octets, -, hFile⟩ := bind_eq_ok_iff.1 hFile
      obtain ⟨text, -, hFile⟩ := bind_eq_ok_iff.1 hFile
      split at hFile
      · cases hFile
      · cases hFile
      · rename_i hRead
        cases hFile
        exact Value.keyed_of_read hRead
      · cases hFile

/-! ## Custom settings -/

/-- Unknown names find among the unknown keys what they found among all. -/
theorem get?_unknownOf (d : Dictionary) {name : String} (hName : name ∉ names) :
    (unknownOf d).get? (.text name) = d.get? (.text name) := by
  refine Json.Association.get?_filter fun m _ hKey => ?_
  have hText := (Key.identity_eq_text_iff m.1 name).1 hKey
  simpa [hText, isKnown] using hName

theorem get?_defaults {name : String} (hName : name ∉ names) :
    defaults.get? (.text name) = none := by
  obtain ⟨hFinal, hPackage, -⟩ : name ≠ "use_final" ∧ name ≠ "package_name" ∧
      name ∉ ["output_file", "custom"] := by
    simpa [names] using hName
  simp [defaults, Dictionary.get?, Json.Association.get?, Key.identity, hFinal, hPackage]

/-- A custom setting is found among the unknown keys, and then among those that are given as
such. -/
theorem exists_customOf {d : Dictionary} (hKeyed : d.Keyed) {given : Members}
    (hGiven : ((d.get? (.text "custom")).map Custom.ofValue).getD (.dictionary []) =
      .dictionary (.ofMembers given)) (hNames : (given.map Prod.fst).Nodup) :
    ∃ custom, customOf d = .ok (.dictionary custom) ∧ ∀ name, name ∉ names →
      custom.get? (.text name) = (d.get? (.text name)).or (given.get? name) := by
  unfold customOf
  dsimp only
  rw [hGiven]
  split
  · rename_i hNone
    refine ⟨_, rfl, fun name hName => ?_⟩
    rw [← get?_unknownOf d hName, hNone, Dictionary.get?_ofMembers]
    rfl
  · have hUnknown : (unknownOf d).Keyed := hKeyed.filter _
    refine ⟨_, rfl, fun name hName => ?_⟩
    rw [Dictionary.get?_update, hUnknown.get?_reverse, get?_unknownOf d hName,
      Dictionary.get?_update_ofMembers [] hNames]
    exact congrArg _ Option.or_none

theorem ofDictionary_eq {d : Dictionary} {b : Bool} {custom : Custom}
    (hFinal : (d.get? (.text "use_final")).getD (.bool true) = .bool b)
    (hCustom : customOf d = .ok custom) :
    ofDictionary d = .ok {
      useFinal := .bool b
      packageName := (d.get? (.text "package_name")).getD .null
      outputFile := (d.get? (.text "output_file")).getD .null
      custom } := by
  unfold ofDictionary
  rw [hFinal, hCustom]
  rfl

/-- The custom settings that are given as such are those of one layer. -/
theorem custom_layered (hOverrides : (overrides.map Prod.fst).Nodup)
    (hFile : (file.map Prod.fst).Nodup) (hSound : Sound overrides) (hSoundFile : Sound file) :
    (((layered overrides file).get? (.text "custom")).map Custom.ofValue).getD (.dictionary []) =
      .dictionary (.ofMembers (nearestMembers overrides file)) := by
  have hDefaults : defaults.get? (.text "custom") = none := by decide
  rw [get?_layered hOverrides hFile, hDefaults, Option.or_none, nearestMembers]
  cases hTop : overrides.get? "custom" with
  | some v =>
      obtain ⟨members, rfl⟩ := hSound.custom v hTop
      simp [customMembers, hTop, Custom.ofValue]
  | none =>
      cases hBelow : file.get? "custom" with
      | some v =>
          obtain ⟨members, rfl⟩ := hSoundFile.custom v hBelow
          simp [customMembers, hBelow, Custom.ofValue]
      | none => simp [customMembers, hBelow, Dictionary.ofMembers]

theorem nodup_customMembers {layer : Members} (hKeyed : (Value.object layer).Keyed) :
    ((customMembers layer).map Prod.fst).Nodup := by
  unfold customMembers
  split
  · rename_i members hGiven
    exact hKeyed members (Value.within_of_get? hGiven)
  · exact List.nodup_nil

/-- A setting that is known by name is the one of the overrides, of the file, or the default. -/
theorem getD_layered (hOverrides : (overrides.map Prod.fst).Nodup)
    (hFile : (file.map Prod.fst).Nodup) {name : String} {v : Value}
    (hDefault : (defaults.get? (.text name)).getD v = v) :
    ((layered overrides file).get? (.text name)).getD v =
      ((overrides.get? name).or (file.get? name)).getD v := by
  rw [get?_layered hOverrides hFile]
  cases overrides.get? name with
  | some w => rfl
  | none =>
      cases file.get? name with
      | some w => rfl
      | none => exact hDefault

theorem Sound.exists_final (hSound : Sound overrides) (hSoundFile : Sound file) :
    ∃ b, ((overrides.get? "use_final").or (file.get? "use_final")).getD (.bool true) = .bool b := by
  cases hTop : overrides.get? "use_final" with
  | some v => exact hSound.final v hTop
  | none =>
      cases hBelow : file.get? "use_final" with
      | some v => exact hSoundFile.final v hBelow
      | none => exact ⟨true, rfl⟩

/-! ## The order of precedence -/

/-- What is found under a name is what the overrides give and then the file, unless the name
strays. -/
theorem found_eq_iff {name : String} :
    ((overrides.get? name).or (file.get? name)).or ((nearestMembers overrides file).get? name) =
        (given? overrides name).or (given? file name) ↔
      ¬ Strays overrides file name := by
  constructor
  · intro hSame hStrays
    cases hStrays with
    | overruled hTop hGiven hFile hOther =>
        rw [hTop, hFile, hGiven] at hSame
        exact hOther (Option.some.inj hSame)
    | hidden hOverrides hFile hGiven hCustom =>
        obtain ⟨hTop, hNone⟩ := Option.or_eq_none_iff.1 hOverrides
        rw [hTop, hFile, nearestMembers, if_pos hCustom, hNone, hOverrides, hGiven] at hSame
        cases hSame
  · intro hNot
    cases hTop : overrides.get? name with
    | some v => rw [given?, hTop]; rfl
    | none =>
        cases hFile : file.get? name with
        | some w =>
            cases hGiven : given? overrides name with
            | none => rw [given?, hFile]; rfl
            | some v =>
                have hSame : w = v := by
                  by_contra hOther
                  exact hNot (.overruled hTop hGiven hFile hOther)
                rw [hSame]
                rfl
        | none =>
            by_cases hCustom : (overrides.get? "custom").isSome
            · have hGiven : given? overrides name = (customMembers overrides).get? name := by
                rw [given?, hTop, Option.none_or]
              rw [nearestMembers, if_pos hCustom, ← hGiven]
              cases hFound : given? overrides name with
              | some v => rfl
              | none =>
                  cases hBelow : given? file name with
                  | none => rfl
                  | some v => exact absurd (.hidden hFound hFile hBelow hCustom) hNot
            · have hNone : customMembers overrides = [] := by
                rw [customMembers, Option.not_isSome_iff_eq_none.1 hCustom]
              rw [nearestMembers, if_neg hCustom, given?, hTop, hNone, given?, hFile]
              rfl

/-- What a file and overrides come to.  The settings that are known by name are those of the
overrides, then those of the file, then the defaults.  A custom setting is looked for at the
top of the overrides and of the file, and then in the custom settings of the overrides, or of
the file if the overrides have none; that is what the overrides give and then the file
exactly if the name does not stray. -/
theorem load_layers {t : Files.Tree} {path : String}
    (hFile : readFile t (.ofText path) = .ok file) (hKeyed : (Value.object overrides).Keyed)
    (hSound : Sound overrides) (hSoundFile : Sound file) :
    ∃ s custom, load t (.object overrides) (.text path) = .ok s ∧
      s.useFinal = ((overrides.get? "use_final").or (file.get? "use_final")).getD (.bool true) ∧
      s.packageName = ((overrides.get? "package_name").or (file.get? "package_name")).getD .null ∧
      s.outputFile = ((overrides.get? "output_file").or (file.get? "output_file")).getD .null ∧
      s.custom = .dictionary custom ∧
      ∀ name, name ∉ names →
        custom.get? (.text name) = ((overrides.get? name).or (file.get? name)).or
          ((nearestMembers overrides file).get? name) ∧
        (custom.get? (.text name) = (given? overrides name).or (given? file name) ↔
          ¬ Strays overrides file name) := by
  have hKeyedFile := keyed_of_readFile hFile
  have hTop := hKeyed _ (.self _)
  have hBelow := hKeyedFile _ (.self _)
  have hNames : ((nearestMembers overrides file).map Prod.fst).Nodup := by
    unfold nearestMembers
    split
    · exact nodup_customMembers hKeyed
    · exact nodup_customMembers hKeyedFile
  obtain ⟨custom, hCustom, hFound⟩ := exists_customOf (keyed_layered overrides file)
    (custom_layered hTop hBelow hSound hSoundFile) hNames
  obtain ⟨b, hFinal⟩ := hSound.exists_final hSoundFile
  have hMerged := (getD_layered hTop hBelow rfl).trans hFinal
  refine ⟨_, custom, (load_object hFile).trans (ofDictionary_eq hMerged hCustom), hFinal.symm,
    getD_layered hTop hBelow rfl, getD_layered hTop hBelow rfl, rfl, fun name hName => ?_⟩
  have hCome : custom.get? (.text name) = ((overrides.get? name).or (file.get? name)).or
      ((nearestMembers overrides file).get? name) := by
    rw [hFound name hName, get?_layered hTop hBelow, get?_defaults hName, Option.or_none]
  exact ⟨hCome, hCome ▸ found_eq_iff⟩

/-- Members that set one name at the top and another in the custom settings. -/
def strayFile : Members := [("a", .int 1), ("custom", .object [("b", .int 3)])]

/-- A file with these members. -/
def strayText : String :=
  "\x7b\n  \"a\": 1,\n  \"custom\": \x7b\n    \"b\": 3\n  \x7d\n\x7d"

/-- Overrides that set the first name in their custom settings. -/
def strayOverrides : Members := [("custom", .object [("a", .int 2)])]

def strayTree : Files.Tree :=
  { home := ["home"]
    nodes := [(["home"], .directory),
      (["home", "c.json"], .file (Text.Utf8.octetsOf strayText.toList))] }

theorem fits_strayFile : (Value.object strayFile).Fits 0 := by
  have hThree : (Value.int 3).Fits 2 := Value.fits_plain rfl (by decide +kernel) (by decide)
  have hInner : (Value.object [("b", .int 3)]).Fits 1 :=
    Value.fits_object (by decide) (List.forall_mem_singleton.2 hThree) (by decide)
  refine Value.fits_object (by decide) (List.forall_mem_cons.2 ⟨?_, ?_⟩) (by decide)
  · exact Value.fits_plain rfl (by decide +kernel) (by decide)
  · exact List.forall_mem_singleton.2 hInner

theorem readFile_strayTree : readFile strayTree (.ofText "c.json") = .ok strayFile := by
  have hWritten : (Value.object strayFile).indented? = some strayText := by decide +kernel
  have hRead := Value.read_indented? hWritten fits_strayFile
  have hPlain : Text.mark ∉ strayText.toList := by decide
  have hEncoded := Text.Utf8.encode_of_not_mem hPlain
  exact readFile_written rfl (by decide) rfl hEncoded hWritten hRead

theorem sound_strayFile : Sound strayFile where
  final := by rintro v ⟨⟩
  custom := fun _ hGet => ⟨_, (Option.some.inj hGet).symm⟩

theorem sound_strayOverrides : Sound strayOverrides where
  final := by rintro v ⟨⟩
  custom := fun _ hGet => ⟨_, (Option.some.inj hGet).symm⟩

theorem keyed_strayOverrides : (Value.object strayOverrides).Keyed := by
  have hInner : (Value.object [("a", .int 2)]).Keyed :=
    Value.keyed_object_iff.2 ⟨by decide, List.forall_mem_singleton.2 (Value.keyed_int 2)⟩
  exact Value.keyed_object_iff.2 ⟨by decide, List.forall_mem_singleton.2 hInner⟩

theorem load_layers_strayTree :
    readFile strayTree (.ofText "c.json") = .ok strayFile ∧
      (Value.object strayOverrides).Keyed ∧ Sound strayOverrides ∧ Sound strayFile ∧
      ∃ s custom, load strayTree (.object strayOverrides) (.text "c.json") = .ok s ∧
        s.custom = .dictionary custom ∧ s.useFinal = .bool true ∧
        custom.get? (.text "a") = some (.int 1) ∧ custom.get? (.text "b") = none := by
  obtain ⟨s, custom, hLoad, hFinal, -, -, hCustom, hFound⟩ := load_layers readFile_strayTree
    keyed_strayOverrides sound_strayOverrides sound_strayFile
  exact ⟨readFile_strayTree, keyed_strayOverrides, sound_strayOverrides, sound_strayFile, s,
    custom, hLoad, hCustom, hFinal, (hFound "a" (by decide)).1, (hFound "b" (by decide)).1⟩

/-- The overrides set the first name and do not win; the second is set by the file alone and
is lost. -/
theorem overrides_lose_strayTree :
    ∃ s custom, load strayTree (.object strayOverrides) (.text "c.json") = .ok s ∧
      s.custom = .dictionary custom ∧
      (custom.get? (.text "a") = some (.int 1) ∧ given? strayOverrides "a" = some (.int 2)) ∧
      custom.get? (.text "b") = none ∧ given? strayOverrides "b" = none ∧
      given? strayFile "b" = some (.int 3) :=
  ⟨_, [(.text "a", .int 1)], load_object readFile_strayTree, rfl, ⟨rfl, rfl⟩, rfl, rfl, rfl⟩

end ResourceSymbols.Settings
