import ResourceSymbols.Proofs.Directories
import ResourceSymbols.Proofs.DocumentPieces
import ResourceSymbols.Proofs.EqualValues
import ResourceSymbols.Proofs.Layers
import ResourceSymbols.Proofs.PrintedDocuments

/-!
# Settings that are saved and loaded

The custom settings are saved beside the settings that are known by name, in one object.
Half of a surrogate pair in them cannot be written.  Loaded again, a custom setting with a
known name is none any more.  The only way back to the custom settings is through what is
saved as `custom`, and what comes out of that is less deep than it: so none of the known names
is left among the custom settings, and the settings are other ones.

## Main results

* `save_whole`, `save_half` — what is saved is in the file, unless it holds half of a pair.
* `depth_lt_of_customOf` — where a known name among the custom settings comes from.
* `load_save` — when the settings that are loaded are those that were saved.
* `not_saved_halfSettings` — settings that are not saved.
-/

namespace ResourceSymbols

/-! ## Files that can be read -/

namespace Files.Tree

theorem isThere_of_read {t : Tree} {p : Path} {octets : List UInt8}
    (hOctets : t.read p = .ok octets) : t.isThere p = .ok true := by
  unfold read at hOctets
  unfold isThere check
  cases hStat : t.stat p with
  | error e => simp [hStat] at hOctets
  | ok n => rfl

end Files.Tree

namespace Settings

open Json (Dictionary Key Members Value)
open Outcome
open Text.Utf8 (Encodable)

/-! ## Equal settings -/

/-- Custom settings that compare as equal. -/
inductive Custom.Equal : Custom → Custom → Prop
  | dictionary {d e : Dictionary} (hKeys : ∀ key, (d.get? key).isSome = (e.get? key).isSome)
      (hValues : ∀ key v w, d.get? key = some v → e.get? key = some w → v.Equal w) :
      Custom.Equal (.dictionary d) (.dictionary e)
  | other {v w : Value} (h : v.Equal w) : Custom.Equal (.other v) (.other w)

/-- Settings that compare as equal. -/
structure Equal (s u : Settings) : Prop where
  useFinal : s.useFinal.Equal u.useFinal
  packageName : s.packageName.Equal u.packageName
  outputFile : s.outputFile.Equal u.outputFile
  custom : s.custom.Equal u.custom

theorem Custom.Equal.refl (c : Custom) : c.Equal c := by
  cases c with
  | dictionary d =>
      refine .dictionary (fun _ => rfl) fun key v w hv hw => ?_
      obtain rfl := Option.some.inj (hv.symm.trans hw)
      exact .refl v
  | other v => exact .other (.refl v)

theorem Equal.refl (s : Settings) : s.Equal s :=
  ⟨.refl _, .refl _, .refl _, .refl _⟩

/-! ## Saving -/

/-- The settings that are known by name, as members. -/
def knownMembers (s : Settings) : Members :=
  [("use_final", s.useFinal), ("package_name", s.packageName), ("output_file", s.outputFile)]

/-- What is saved of settings with the custom settings. -/
def savedMembers (s : Settings) (custom : Members) : Members := (knownMembers s).update custom

variable {s : Settings} {custom : Members}

theorem toDictionary_eq (hCustom : s.custom = .dictionary (.ofMembers custom)) :
    s.toDictionary = .ok (.ofMembers (savedMembers s custom)) := by
  unfold toDictionary
  rw [hCustom, savedMembers, Dictionary.ofMembers_update]
  rfl

/-- Pieces with octets are all written: the octets of the text that they make. -/
theorem exists_written {ts : List String} (hAll : ∀ t ∈ ts, Encodable t) :
    ∃ octets, written (ts.map some) = (octets, .ok ()) ∧
      Text.Utf8.encode (String.join ts) = .ok octets := by
  induction ts with
  | nil => exact ⟨[], rfl, rfl⟩
  | cons t ts ih =>
      rw [List.forall_mem_cons] at hAll
      obtain ⟨octets, hFirst⟩ := hAll.1
      obtain ⟨rest, hWritten, hRest⟩ := ih hAll.2
      refine ⟨octets ++ rest, ?_, ?_⟩
      · rw [List.map_cons, written, hFirst]
        dsimp only
        rw [hWritten]
      · rw [String.join_cons]
        exact Text.Utf8.encode_append hFirst hRest

/-- A piece without octets is the end of what is written. -/
theorem exists_written_error {ts : List String} (hSome : ¬ ∀ t ∈ ts, Encodable t) :
    ∃ octets u, written (ts.map some) = (octets, .error (.unencodable u)) := by
  induction ts with
  | nil => exact absurd (List.forall_mem_nil _) hSome
  | cons t ts ih =>
      rw [List.map_cons, written]
      cases hFirst : Text.Utf8.encode t with
      | error u => exact ⟨[], u, rfl⟩
      | ok octets =>
          have hRest : ¬ ∀ t ∈ ts, Encodable t := fun hAll =>
            hSome (List.forall_mem_cons.2 ⟨⟨octets, hFirst⟩, hAll⟩)
          obtain ⟨rest, u, hWritten⟩ := ih hRest
          rw [hWritten]
          exact ⟨octets ++ rest, u, rfl⟩

/-- What can be written of the settings is in the file. -/
theorem exists_save (hCustom : s.custom = .dictionary (.ofMembers custom)) {t opened : Files.Tree}
    {p : Files.Path} (hOpened : t.write p [] = .ok opened) {octets : List UInt8}
    {outcome : Except Error Unit}
    (hWritten : written (Value.object (savedMembers s custom)).pieces = (octets, outcome)) :
    ∃ saved, s.save t p = { tree := saved, outcome } ∧ saved.read p = .ok octets := by
  obtain ⟨saved, hSaved, hOctets⟩ := Files.Tree.exists_write_of_opened hOpened octets
  refine ⟨saved, ?_, hOctets⟩
  have hPieces : written (Dictionary.ofMembers (savedMembers s custom)).pieces =
      (octets, outcome) := by
    rw [Dictionary.pieces, Dictionary.members?_ofMembers]
    exact hWritten
  unfold save
  rw [hOpened]
  dsimp only
  rw [toDictionary_eq hCustom]
  dsimp only
  rw [hPieces]
  dsimp only
  rw [hSaved]

/-- Settings without halves are saved, and then they are in the file. -/
theorem save_whole (hCustom : s.custom = .dictionary (.ofMembers custom)) {t opened : Files.Tree}
    {p : Files.Path} (hName : p.isJson = true) (hOpened : t.write p [] = .ok opened)
    (hReturns : (Value.object (savedMembers s custom)).Returns)
    (hWhole : (Value.object (savedMembers s custom)).NoHalves) :
    (s.save t p).outcome = .ok () ∧
      readFile (s.save t p).tree p = .ok (savedMembers s custom) := by
  obtain ⟨text, hText, hRead⟩ := hReturns
  obtain ⟨ts, hPieces, rfl⟩ := Value.exists_pieces hText
  have hAll := (Value.encodable_pieces_iff hPieces).2 hWhole
  obtain ⟨octets, hWritten, hEncoded⟩ := exists_written hAll
  rw [← hPieces] at hWritten
  obtain ⟨saved, hSave, hOctets⟩ := exists_save hCustom hOpened hWritten
  rw [hSave]
  exact ⟨rfl, readFile_written (Files.Tree.isThere_of_read hOctets) hName hOctets hEncoded hText
    hRead⟩

/-- Half of a pair cannot be saved. -/
theorem save_half (hCustom : s.custom = .dictionary (.ofMembers custom)) {t opened : Files.Tree}
    {p : Files.Path} (hOpened : t.write p [] = .ok opened)
    (hReturns : (Value.object (savedMembers s custom)).Returns)
    (hHalf : ¬ (Value.object (savedMembers s custom)).NoHalves) :
    ∃ u, (s.save t p).outcome = .error (.unencodable u) := by
  obtain ⟨text, hText, -⟩ := hReturns
  obtain ⟨ts, hPieces, -⟩ := Value.exists_pieces hText
  obtain ⟨octets, u, hWritten⟩ :=
    exists_written_error fun hAll => hHalf ((Value.encodable_pieces_iff hPieces).1 hAll)
  rw [← hPieces] at hWritten
  obtain ⟨saved, hSave, -⟩ := exists_save hCustom hOpened hWritten
  rw [hSave]
  exact ⟨u, rfl⟩

/-! ## Custom settings that are loaded -/

theorem customOf_of_ofDictionary {d : Dictionary} {u : Settings}
    (hSettings : ofDictionary d = .ok u) : customOf d = .ok u.custom := by
  unfold ofDictionary at hSettings
  obtain ⟨-, -, hSettings⟩ := bind_eq_ok_iff.1 hSettings
  obtain ⟨custom, hCustom, hSettings⟩ := bind_eq_ok_iff.1 hSettings
  cases hSettings
  cases hOf : customOf d with
  | error m =>
      rw [hOf] at hCustom
      cases hCustom
  | ok c =>
      rw [hOf] at hCustom
      exact congrArg Except.ok (Except.ok.inj hCustom)

theorem pairs_ofValue (v : Value) : (Custom.ofValue v).pairs = v.pairs := by
  cases v <;> rfl

/-- The unknown keys are none that are known. -/
theorem get?_reverse_unknownOf (d : Dictionary) {name : String} (hName : name ∈ names) :
    Dictionary.get? (unknownOf d).reverse (.text name) = none := by
  cases hGet : Dictionary.get? (unknownOf d).reverse (.text name) with
  | none => rfl
  | some v =>
      obtain ⟨m, hMem, hKey, -⟩ := Json.Association.exists_mem_of_get? hGet
      have hUnknown := (List.mem_filter.1 (List.mem_reverse.1 hMem)).2
      rw [(Key.identity_eq_text_iff m.1 name).1 hKey] at hUnknown
      simp [isKnown, hName] at hUnknown

/-- The custom settings that are given as such are pairs of a deeper value. -/
theorem depth_lt_of_given {d ps : Dictionary}
    (hPairs : (((d.get? (.text "custom")).map Custom.ofValue).getD (.dictionary [])).pairs = .ok ps)
    {m : Key × Value} (hMem : m ∈ ps) :
    ∃ v, d.get? (.text "custom") = some v ∧ m.2.depth < v.depth := by
  cases hGiven : d.get? (.text "custom") with
  | none =>
      rw [hGiven] at hPairs
      cases hPairs
      cases hMem
  | some v =>
      rw [hGiven, Option.map_some, Option.getD_some, pairs_ofValue] at hPairs
      exact ⟨v, rfl, Value.depth_lt_of_mem_pairs hPairs hMem⟩

/-- A custom setting with a known name comes out of the value that is given for the custom
settings, and is less deep than it. -/
theorem depth_lt_of_customOf {d e : Dictionary} (hCustom : customOf d = .ok (.dictionary e))
    {name : String} (hName : name ∈ names) {w : Value} (hGet : e.get? (.text name) = some w) :
    ∃ v, d.get? (.text "custom") = some v ∧ w.depth < v.depth := by
  unfold customOf at hCustom
  dsimp only at hCustom
  split at hCustom
  · have hGiven := Except.ok.inj hCustom
    obtain ⟨m, hMem, -, rfl⟩ := Json.Association.exists_mem_of_get? hGet
    exact depth_lt_of_given (by rw [hGiven]; rfl) hMem
  · obtain ⟨ps, hPairs, hUpdated⟩ := map_eq_ok_iff.1 hCustom
    cases hUpdated
    have hNone : Dictionary.get? [] (.text name) = none := rfl
    rw [Dictionary.get?_update, get?_reverse_unknownOf d hName, Option.none_or,
      Dictionary.get?_update, hNone, Option.or_none] at hGet
    obtain ⟨m, hMem, -, rfl⟩ := Json.Association.exists_mem_of_get? hGet
    exact depth_lt_of_given hPairs (List.mem_reverse.1 hMem)

/-! ## Loading what was saved -/

theorem nodup_savedMembers (s : Settings) (custom : Members) :
    ((savedMembers s custom).map Prod.fst).Nodup := by
  have hKnown : (Json.Association.identities id (knownMembers s)).Nodup := by
    show ["use_final", "package_name", "output_file"].Nodup
    decide
  exact Json.Association.nodup_update hKnown custom

section

variable (hKeyed : (Value.object custom).Keyed)

include hKeyed

/-- What is found as the custom settings is what is saved as such. -/
theorem get?_custom_saved (s : Settings) :
    (layered [] (savedMembers s custom)).get? (.text "custom") = custom.get? "custom" := by
  have hDefault : defaults.get? (.text "custom") = none := by decide
  have hOverride : Members.get? [] "custom" = none := rfl
  have hKnown : (knownMembers s).get? "custom" = none := rfl
  have hNames : (Json.Association.identities id custom).Nodup := hKeyed _ (.self _)
  rw [get?_layered (by simp) (nodup_savedMembers s custom), hOverride, hDefault, Option.none_or,
    Option.or_none, savedMembers, Members.get?_update, hKnown, Option.or_none]
  exact Json.Association.get?_reverse hNames "custom"

/-- Settings that are loaded are other ones if a custom setting has a known name. -/
theorem not_equal_of_known (hCustom : s.custom = .dictionary (.ofMembers custom))
    {m : String × Value} (hMem : m ∈ custom) (hKnown : m.1 ∈ names) {u : Settings}
    (hLoad : ofDictionary (layered [] (savedMembers s custom)) = .ok u) : ¬ s.Equal u := by
  intro hEqual
  have hOf := customOf_of_ofDictionary hLoad
  have hSame := hEqual.custom
  rw [hCustom] at hSame
  generalize u.custom = c at hOf hSame
  cases hSame with
  | @dictionary _ e hKeys hValues =>
      have hFind : ∀ {name v}, custom.get? name = some v → ∃ w, e.get? (.text name) = some w := by
        intro name v hHere
        rw [← Option.isSome_iff_exists, ← hKeys, Dictionary.get?_ofMembers, hHere]
        rfl
      -- The known name is still there, so something is saved as the custom settings.
      obtain ⟨w, hThere⟩ := hFind (Members.get?_of_mem (hKeyed _ (.self _)) hMem)
      obtain ⟨v, hGiven, -⟩ := depth_lt_of_customOf hOf hKnown hThere
      rw [get?_custom_saved hKeyed] at hGiven
      -- That is a custom setting with a known name too, and it would be less deep than itself.
      obtain ⟨y, hy⟩ := hFind hGiven
      obtain ⟨v', hAgain, hLess⟩ := depth_lt_of_customOf hOf (by decide) hy
      rw [get?_custom_saved hKeyed, hGiven] at hAgain
      obtain rfl := Option.some.inj hAgain
      have hValue : v.Equal y :=
        hValues _ v y ((Dictionary.get?_ofMembers custom "custom").trans hGiven) hy
      have hDeep := hValue.depth_le (hKeyed.within (Value.within_of_get? hGiven))
      exact Nat.not_lt.2 hDeep hLess

/-- With unknown names only, the custom settings stand after those that are known by name,
saved and loaded. -/
theorem layered_saved (s : Settings) (hUnknown : ∀ m ∈ custom, m.1 ∉ names) :
    layered [] (savedMembers s custom) = .ofMembers (knownMembers s ++ custom) := by
  have hKnown : (knownMembers s).map Prod.fst = ["use_final", "package_name", "output_file"] := rfl
  have hNames : ((knownMembers s ++ custom).map Prod.fst).Nodup := by
    rw [List.map_append, hKnown]
    refine List.nodup_append.2 ⟨by decide, hKeyed _ (.self _), fun a ha b hb hSame => ?_⟩
    obtain ⟨m, hMem, rfl⟩ := List.mem_map.1 hb
    exact hUnknown m hMem (hSame ▸ List.mem_append_left ["custom"] ha)
  have hIdentities : (Json.Association.identities id (knownMembers s ++ custom)).Nodup := hNames
  have hSaved : savedMembers s custom = knownMembers s ++ custom :=
    Json.Association.update_eq_append hIdentities
  have hFirst : defaults.update (.ofMembers (knownMembers s)) = .ofMembers (knownMembers s) := rfl
  have hAppend : Dictionary.ofMembers (knownMembers s ++ custom) =
      .ofMembers (knownMembers s) ++ .ofMembers custom := List.map_append
  have hKeys := Dictionary.keyed_ofMembers hNames
  rw [hAppend] at hKeys
  calc layered [] (savedMembers s custom)
      = defaults.update (.ofMembers (knownMembers s ++ custom)) := by rw [hSaved]; rfl
    _ = (defaults.update (.ofMembers (knownMembers s))).update (.ofMembers custom) := by
        rw [hAppend]
        exact List.foldl_append
    _ = .ofMembers (knownMembers s ++ custom) := by
        rw [hFirst, hAppend]
        exact Json.Association.update_eq_append hKeys

omit hKeyed in
theorem unknownOf_ofMembers (members : Members) :
    unknownOf (.ofMembers members) = .ofMembers (members.filter fun m => !names.contains m.1) := by
  unfold unknownOf Dictionary.ofMembers
  rw [List.filter_map]
  rfl

omit hKeyed in
/-- Where no custom settings are given as such, they are the unknown keys. -/
theorem customOf_of_none {d : Dictionary} (hKeys : d.Keyed)
    (hNone : d.get? (.text "custom") = none) :
    customOf d = .ok (.dictionary (unknownOf d)) := by
  unfold customOf
  rw [hNone]
  dsimp only [Option.map_none, Option.getD_none]
  split
  · rename_i hUnknown
    rw [hUnknown]
  · have hSame : Dictionary.update [] (unknownOf d) = unknownOf d :=
      Json.Association.update_eq_append (hKeys.filter _)
    show Except.ok (Custom.dictionary (Dictionary.update [] (unknownOf d))) = _
    rw [hSame]

/-- Settings that are loaded are those that were saved if no custom setting has a known
name. -/
theorem ofDictionary_saved (hCustom : s.custom = .dictionary (.ofMembers custom)) {b : Bool}
    (hFinal : s.useFinal = .bool b) (hUnknown : ∀ m ∈ custom, m.1 ∉ names) :
    ofDictionary (layered [] (savedMembers s custom)) = .ok s := by
  have hNone : (layered [] (savedMembers s custom)).get? (.text "custom") = none := by
    rw [get?_custom_saved hKeyed]
    cases hGet : custom.get? "custom" with
    | none => rfl
    | some v =>
        have hNot : "custom" ∉ names := hUnknown _ (Members.mem_of_get? hGet)
        exact absurd (by decide) hNot
  have hOf := customOf_of_none (keyed_layered [] _) hNone
  have hLayered := layered_saved hKeyed s hUnknown
  have hKept : ∀ m ∈ custom, (!names.contains m.1) = true := by simpa using hUnknown
  have hRest : unknownOf (layered [] (savedMembers s custom)) = .ofMembers custom := by
    rw [hLayered, unknownOf_ofMembers, List.filter_append, List.filter_eq_self.2 hKept]
    rfl
  rw [hRest] at hOf
  have hValue : ((layered [] (savedMembers s custom)).get? (.text "use_final")).getD (.bool true) =
      .bool b := by
    rw [hLayered, ← hFinal]
    rfl
  rw [ofDictionary_eq hValue hOf, hLayered, ← hFinal, ← hCustom]
  rfl

end

/-- Settings whose custom settings are an object, and for which it is said whether constants
are final, are saved at a path that can be written if no text in them holds half of a surrogate
pair.  Loaded from there they are equal exactly if no custom setting has the name of a setting;
then they are the same ones.  With half of a pair they are not saved.  What is saved is to be
read as it was written, which it is if its values can be held in a document. -/
theorem load_save {t opened : Files.Tree} {path : String} {b : Bool}
    (hFinal : s.useFinal = .bool b) (hCustom : s.custom = .dictionary (.ofMembers custom))
    (hKeyed : (Value.object custom).Keyed) (hName : (Files.Path.ofText path).isJson = true)
    (hOpened : t.write (.ofText path) [] = .ok opened)
    (hReturns : (Value.object (savedMembers s custom)).Returns) :
    ((Value.object (savedMembers s custom)).NoHalves →
      (s.save t (.ofText path)).outcome = .ok () ∧
      ((∃ u, load (s.save t (.ofText path)).tree .null (.text path) = .ok u ∧ s.Equal u) ↔
        ∀ m ∈ custom, m.1 ∉ names) ∧
      ((∀ m ∈ custom, m.1 ∉ names) →
        load (s.save t (.ofText path)).tree .null (.text path) = .ok s)) ∧
    (¬ (Value.object (savedMembers s custom)).NoHalves →
      ∃ u, (s.save t (.ofText path)).outcome = .error (.unencodable u)) := by
  refine ⟨fun hWhole => ?_, save_half hCustom hOpened hReturns⟩
  obtain ⟨hSaved, hFile⟩ := save_whole hCustom hName hOpened hReturns hWhole
  have hLoad := load_null hFile
  have hSame : (∀ m ∈ custom, m.1 ∉ names) →
      load (s.save t (.ofText path)).tree .null (.text path) = .ok s :=
    fun hUnknown => hLoad.trans (ofDictionary_saved hKeyed hCustom hFinal hUnknown)
  refine ⟨hSaved, ⟨?_, fun hUnknown => ⟨s, hSame hUnknown, .refl s⟩⟩, hSame⟩
  rintro ⟨u, hu, hEqual⟩ m hMem hKnown
  exact not_equal_of_known hKeyed hCustom hMem hKnown (hLoad.symm.trans hu) hEqual

/-- Settings are saved as a document that fits into the reader if their values do. -/
theorem fits_saved {b : Bool} (hFinal : s.useFinal = .bool b) (hPackage : s.packageName.Fits 1)
    (hOutput : s.outputFile.Fits 1) (hValues : ∀ m ∈ custom, m.2.Fits 1) :
    (Value.object (savedMembers s custom)).Fits 0 := by
  refine Value.fits_object (nodup_savedMembers s custom) (fun m hMem => ?_) (by decide)
  rcases Json.Association.mem_update hMem with ⟨n, hCustom, hValue⟩ | hKnown
  · rw [hValue]
    exact hValues n hCustom
  · have hBool : s.useFinal.Fits 1 := by
      rw [hFinal]
      exact Value.fits_plain rfl rfl (by decide)
    simp only [knownMembers, List.mem_cons, List.not_mem_nil, or_false] at hKnown
    rcases hKnown with rfl | rfl | rfl
    · exact hBool
    · exact hPackage
    · exact hOutput

/-- Settings with one custom setting. -/
def bannerSettings : Settings :=
  { useFinal := .bool false
    packageName := .text "com.x"
    custom := .dictionary (.ofMembers [("banner", .text "x")]) }

theorem returns_bannerSettings :
    (Value.object (savedMembers bannerSettings [("banner", .text "x")])).Returns := by
  have hPlain : ∀ t : String, (Value.text t).Fits 1 := fun _ =>
    Value.fits_plain rfl rfl (by decide)
  have hNull : Value.null.Fits 1 := Value.fits_plain rfl rfl (by decide)
  exact Value.returns_of_fits
    (fits_saved rfl (hPlain _) hNull (List.forall_mem_singleton.2 (hPlain _)))

theorem keyed_banner : (Value.object [("banner", .text "x")]).Keyed :=
  Value.keyed_object_iff.2 ⟨by decide, List.forall_mem_singleton.2 (Value.keyed_text "x")⟩

theorem load_save_bannerSettings :
    (∀ m ∈ ([("banner", .text "x")] : Members), m.1 ∉ names) ∧
      (bannerSettings.save .empty (.ofText "saved.json")).outcome = .ok () ∧
      load (bannerSettings.save .empty (.ofText "saved.json")).tree .null (.text "saved.json") =
        .ok bannerSettings := by
  have hUnknown : ∀ m ∈ ([("banner", .text "x")] : Members), m.1 ∉ names :=
    List.forall_mem_singleton.2 (by decide)
  have hName : (Files.Path.ofText "saved.json").isJson = true := by decide
  have hOpened : Files.Tree.write .empty (.ofText "saved.json") [] =
      .ok (Files.Tree.empty.put ["home", "saved.json"] (.file [])) := rfl
  have hPlain : ∀ text ∈ (Value.object (savedMembers bannerSettings [("banner", .text "x")])).texts,
      Text.mark ∉ text.toList := by decide
  obtain ⟨hSaved, -, hLoad⟩ := (load_save (s := bannerSettings) (b := false) rfl rfl keyed_banner
    hName hOpened returns_bannerSettings).1 fun text hMem =>
      Text.whole_of_not_mem (hPlain text hMem)
  exact ⟨hUnknown, hSaved, hLoad hUnknown⟩

/-- Settings with half of a surrogate pair among the custom settings. -/
def halfSettings : Settings :=
  { custom := .dictionary (.ofMembers [("a", .text "\uE000\uE001")]) }

/-- No name is known, and still the settings are not saved, and what was written of them cannot
be loaded. -/
theorem not_saved_halfSettings :
    (∀ m ∈ ([("a", .text "\uE000\uE001")] : Members), m.1 ∉ names) ∧
      (halfSettings.save .empty (.ofText "saved.json")).outcome =
        .error (.unencodable { start := 1, count := 1, half := 0xD800 }) ∧
      (load (halfSettings.save .empty (.ofText "saved.json")).tree .null
        (.text "saved.json")).isOk = false := by
  refine ⟨List.forall_mem_singleton.2 (by decide), ?_, ?_⟩
  · rfl
  · decide +kernel

end Settings

end ResourceSymbols
