import ResourceSymbols.Command.Program
import ResourceSymbols.Proofs.Loading
import ResourceSymbols.Proofs.PathFaults
import ResourceSymbols.Proofs.Refusal

/-!
# Faults that are not reported

Sources and settings are refused with messages for whoever runs the command.  Some of
what goes wrong with them has no such message.  Here it is told which inputs it takes:
text that is not UTF-8, documents beyond the limits, locations that cannot be taken
apart, exchanges that fail in other ways than a request, and values that are not of the
kind they are used as.

## Main results

* `meets_find` — a document, a refusal, or a `SourceFault`.
* `meets_load` — settings, a refusal, or a `SettingsFault`.
* `meets_warnings` — what is said about settings, or a `ReviewFault`.
-/

namespace ResourceSymbols

open Outcome (Meets meets_of_error meets_bind meets_mapError)

namespace Command

/-! ## Documents -/

/-- The file at the path holds the text in UTF-8, with its line ends written in one way. -/
def HoldsText (t : Files.Tree) (path : String) (text : List Char) : Prop :=
  ∃ octets chars, t.read (.ofText path) = .ok octets ∧ Text.Utf8.decode octets = .ok chars ∧
    text = Text.foldLineEnds chars

variable {w : Surroundings} {a : Arguments}

/-- The document that the arguments ask for: in a file, in a response, or on the standard
input. -/
inductive Reads (w : Surroundings) (a : Arguments) : Json.Value → Prop
  | file {path : String} {text : List Char} {v : Json.Value} (hPath : given a.file = some path)
      (hText : HoldsText w.tree path text) (hRead : Json.Value.read text = .ok v) : Reads w a v
  | web {url : String} {status : Int} {body : List UInt8} {v : Json.Value}
      (hUrl : given a.url = some url) (hResponse : w.exchange = .response status body)
      (hRead : Web.document body = .ok v) : Reads w a v
  | stdin {text : List Char} {v : Json.Value} (hFile : given a.file = none)
      (hUrl : given a.url = none) (hStdin : a.stdin = true)
      (hText : Text.Utf8.decode w.stdin = .ok text)
      (hRead : Json.Value.read (Text.foldLineEnds text) = .ok v) : Reads w a v

/-- What goes wrong with a file or a response, and is no refusal. -/
inductive SourceFault (w : Surroundings) (a : Arguments) : Resource.Source.Error → Prop
  /-- The document in the file goes beyond the limits. -/
  | file {path : String} {text : List Char} {x : Json.Excess} (hPath : given a.file = some path)
      (hText : HoldsText w.tree path text) (hRead : Json.Value.read text = .error (.excess x)) :
      SourceFault w a (.excess x)
  /-- The location cannot be taken apart. -/
  | url {url : String} {x : Web.UrlError} (hUrl : given a.url = some url)
      (hParts : Web.Url.ofText url = .error x) : SourceFault w a (.url x)
  /-- A failure of the protocol comes without a response. -/
  | unanswered {url text : String} (hUrl : given a.url = some url)
      (hTrouble : w.exchange = .trouble .http text) : SourceFault w a .unanswered
  /-- The exchange fails with what is neither a failure of a request nor an error of the
  system. -/
  | passed {url name text : String} (hUrl : given a.url = some url)
      (hTrouble : w.exchange = .trouble (.other name) text) :
      SourceFault w a (.passed (.other name) text)
  /-- The document in the response is too deep. -/
  | body {url : String} {status : Int} {body : List UInt8} {isObject : Bool}
      (hUrl : given a.url = some url) (hResponse : w.exchange = .response status body)
      (hRead : Web.document body = .error (.excess (.depth isObject))) :
      SourceFault w a (.excess (.depth isObject))

/-- The error is reported as a failure, or it is such a fault. -/
def ReportedOr {ε : Type} (failure : ε → Failure) (fault : ε → Prop) (e : ε) : Prop :=
  (failure e).isReported = true ∨ fault e

section

open Resource.Source

/-- An argument that is given counts as a value, and any other does not. -/
theorem given_cases (argument : Option String) :
    (given argument = none ∧ (Json.Value.ofText? argument).isTruthy = false) ∨
      ∃ s, given argument = some s ∧ Json.Value.ofText? argument = .text s ∧
        (Json.Value.text s).isTruthy = true := by
  cases argument with
  | none => exact .inl ⟨rfl, rfl⟩
  | some s =>
      by_cases hEmpty : s = ""
      · subst hEmpty
        exact .inl ⟨rfl, rfl⟩
      · exact .inr ⟨s, by simp [given, hEmpty], rfl, by simp [Json.Value.isTruthy, hEmpty]⟩

theorem given_eq_some {argument : Option String} {s : String}
    (hText : Json.Value.ofText? argument = .text s)
    (hSome : (Json.Value.text s).isTruthy = true) : given argument = some s := by
  rcases given_cases argument with ⟨-, hNone⟩ | ⟨s', hGiven, hText', -⟩
  · rw [hText, hSome] at hNone
    cases hNone
  · cases hText.symm.trans hText'
    exact hGiven

theorem text?_of_isTruthy {argument : Option String}
    (hSome : (Json.Value.ofText? argument).isTruthy = true) :
    (Json.Value.ofText? argument).text? ≠ none := by
  cases argument with
  | none => cases hSome
  | some s => exact Option.some_ne_none s

theorem literal?_ofText? (argument : Option String) :
    (Json.Value.ofText? argument).literal? ≠ none := by
  cases argument with
  | none => exact Option.some_ne_none _
  | some s => exact Option.some_ne_none _

/-- What is loaded from a file is its document, or the file is refused, or it goes beyond the
limits. -/
theorem meets_of_fileLoads {path : String} (hPath : given a.file = some path)
    {r : Except Error Found} (hLoads : FileLoads w.tree (.ofText path) r) :
    Meets (fun f => Reads w a f.document) (ReportedOr .source (SourceFault w a)) r := by
  cases hLoads with
  | document hOctets hText hRead => exact .ok (.file hPath ⟨_, _, hOctets, hText, rfl⟩ hRead)
  | excess hOctets hText hRead =>
      exact .error (.inr (.file hPath ⟨_, _, hOctets, hText, rfl⟩ hRead))
  | @unchecked e hCheck =>
      -- The system refuses to tell whether the file is there.
      cases e with
      | noPath fault => exact absurd hCheck (Files.Tree.check_ne_noPath fault)
      | refused c p => exact .error (.inl rfl)

/-- What is loaded from the web is a document, or the location is at fault, or what comes of
the request is. -/
theorem meets_of_webLoads {url limit : String} (hUrl : given a.url = some url)
    {timeout : Json.Value} (hTimeout : timeout.shown? = some limit) {r : Except Error Found}
    (hLoads : WebLoads url timeout w.exchange r) :
    Meets (fun f => Reads w a f.document) (ReportedOr .source (SourceFault w a)) r := by
  generalize hCame : w.exchange = exchange at hLoads
  cases hLoads with
  | document _ _ hRead => exact .ok (.web hUrl hCame hRead)
  | unparsed hParts => exact .error (.inr (.url hUrl hParts))
  | unanswered => exact .error (.inr (.unanswered hUrl hCame))
  | @passed t =>
      cases t with
      | other name => exact .error (.inr (.passed hUrl hCame))
      | _ => exact .error (.inl rfl)
  | depth _ _ hRead => exact .error (.inr (.body hUrl hCame hRead))
  | limit _ _ hLimit => simp [hTimeout] at hLimit

/-- A document is found, or the source is refused, or it is at fault. -/
theorem meets_find :
    Meets (fun f => Reads w a f.document)
      (ReportedOr .source (SourceFault w a))
      (find { tree := w.tree, exchange := w.exchange } (.ofText? a.file) (.ofText? a.url)
        (.int 30)).outcome := by
  obtain ⟨limit, hLimit⟩ : ∃ limit, (Json.Value.int 30).shown? = some limit :=
    Option.isSome_iff_exists.1 (by decide +kernel)
  generalize hOutcome : (find _ _ _ _).outcome = r
  by_cases hRefuses : Refuses r
  · cases hRefuses with
    | refused => exact .error (.inl rfl)
    | missing => exact .error (.inl rfl)
  · have hLoads := (find_eq_iff hRefuses).1 hOutcome
    generalize hFile : Json.Value.ofText? a.file = file at hLoads
    generalize hUrl : Json.Value.ofText? a.url = url at hLoads
    generalize Json.Value.int 30 = timeout at hLimit hLoads
    cases hLoads with
    | file hSome _ hLoads => exact meets_of_fileLoads (given_eq_some hFile hSome) hLoads
    | web _ hSome hLoads => exact meets_of_webLoads (given_eq_some hUrl hSome) hLimit hLoads
    | noPath hSome _ hText =>
        subst hFile
        exact absurd hText (text?_of_isTruthy hSome)
    | noLocation _ hSome hText _ =>
        subst hUrl
        exact absurd hText (text?_of_isTruthy hSome)
    | longLocation _ hSome hText _ =>
        subst hUrl
        exact absurd hText (text?_of_isTruthy hSome)
    | long _ hLong =>
        subst hFile hUrl
        rcases hLong with hLong | hLong
        · exact absurd hLong (literal?_ofText? _)
        · exact absurd hLong (literal?_ofText? _)

end

/-! ## Settings -/

/-- An integer with too many digits to be shown stands in the value. -/
def HoldsUnshown (v : Json.Value) : Prop :=
  ∃ n, Json.Value.Within (.int n) v ∧ Number.decimal? n = none

/-- What the defaults, the members of a file and the arguments come to. -/
def merged (a : Arguments) (members : Json.Members) : Json.Dictionary :=
  (Settings.defaults.update (.ofMembers members)).update (.ofMembers (overrides a))

/-- Why no settings can be made of the keys and values. -/
inductive MergeFault (d : Json.Dictionary) : Json.Misuse → Prop
  /-- What stands for whether constants are final is refused, and cannot be shown. -/
  | final {v : Json.Value} (hValue : d.get? (.text "use_final") = some v)
      (hLong : HoldsUnshown v) : MergeFault d .digitLimit
  /-- Unknown keys are to join custom settings that are neither an object nor pairs. -/
  | custom {v : Json.Value} {m : Json.Misuse} (hValue : d.get? (.text "custom") = some v)
      (hUnknown : Settings.unknownOf d ≠ []) (hPairs : v.pairs = .error m) : MergeFault d m

/-- What goes wrong with a file of settings, and is no refusal. -/
inductive SettingsFault (w : Surroundings) (a : Arguments) : Settings.Error → Prop
  /-- The file is not in UTF-8. -/
  | undecodable {path : String} {octets : List UInt8} {fault : Text.Utf8.Fault}
      (hPath : given a.config = some path) (hOctets : w.tree.read (.ofText path) = .ok octets)
      (hText : Text.Utf8.decode octets = .error fault) : SettingsFault w a (.undecodable fault)
  /-- The file goes beyond the limits on documents. -/
  | excess {path : String} {text : List Char} {x : Json.Excess}
      (hPath : given a.config = some path) (hText : HoldsText w.tree path text)
      (hRead : Json.Value.read text = .error (.excess x)) : SettingsFault w a (.excess x)
  /-- The members of the file cannot be merged. -/
  | merge {path : String} {text : List Char} {members : Json.Members} {m : Json.Misuse}
      (hPath : given a.config = some path) (hText : HoldsText w.tree path text)
      (hRead : Json.Value.read text = .ok (.object members))
      (hMerge : MergeFault (merged a members) m) : SettingsFault w a (.misuse m)

section

open Settings

theorem meets_checkFinal (d : Json.Dictionary) :
    Meets (fun _ => True) (ReportedOr .settings fun e => ∃ m, e = .misuse m ∧ MergeFault d m)
      (checkFinal ((d.get? (.text "use_final")).getD (.bool true))) := by
  cases hValue : d.get? (.text "use_final") with
  | none => exact .ok trivial
  | some v =>
      rw [Option.getD_some]
      unfold checkFinal
      split
      · exact .ok trivial
      · split
        · exact .error (.inl rfl)
        · rename_i hUnshown
          have hLong := Json.Value.exists_of_literal?_eq_none v hUnshown
          exact .error (.inr ⟨_, rfl, .final hValue hLong⟩)

theorem meets_customOf (d : Json.Dictionary) :
    Meets (fun custom => customOf d = .ok custom) (MergeFault d) (customOf d) := by
  refine meets_of_error fun m hError => ?_
  unfold customOf at hError
  dsimp only at hError
  split at hError
  · cases hError
  · rename_i hUnknown
    rw [Outcome.map_eq_error_iff] at hError
    cases hValue : d.get? (.text "custom") with
    | none =>
        rw [hValue] at hError
        cases hError
    | some v =>
        rw [hValue] at hError
        cases v with
        | object members => cases hError
        | _ => exact .custom hValue hUnknown hError

theorem meets_ofDictionary (d : Json.Dictionary) :
    Meets (fun _ => True) (ReportedOr .settings fun e => ∃ m, e = .misuse m ∧ MergeFault d m)
      (ofDictionary d) := by
  have hCustom : Meets (fun custom => customOf d = .ok custom)
      (ReportedOr .settings fun e => ∃ m, e = .misuse m ∧ MergeFault d m)
      ((customOf d).mapError Error.misuse) :=
    meets_mapError ((meets_customOf d).mono fun m h => .inr ⟨m, rfl, h⟩)
  unfold ofDictionary
  refine meets_bind (meets_checkFinal d) fun _ _ => ?_
  exact meets_bind hCustom fun _ _ => .ok trivial

/-- The system tells whether a file is there, or refuses to. -/
theorem meets_isThere (path : String) :
    Meets (fun isThere => w.tree.isThere (.ofText path) = .ok isThere)
      (ReportedOr .settings (SettingsFault w a))
    ((w.tree.isThere (.ofText path)).mapError Error.file) := by
  refine meets_mapError (meets_of_error fun e hError => ?_)
  cases e with
  | noPath fault => exact absurd hError (Files.Tree.check_ne_noPath fault)
  | refused c p => exact .inl rfl

/-- The file of settings gives its members, or it is refused, or it is at fault. -/
theorem meets_readFile {path : String} (hPath : given a.config = some path) :
    Meets
      (fun members => ∃ text, HoldsText w.tree path text ∧
        Json.Value.read text = .ok (.object members))
      (ReportedOr .settings (SettingsFault w a))
      (readFile w.tree (.ofText path)) := by
  unfold readFile
  refine meets_bind (meets_isThere path) fun isThere _ => ?_
  generalize (Files.Path.ofText path).isJson = isJson
  cases isThere with
  | false => exact .error (.inl rfl)
  | true =>
      cases isJson with
      | false => exact .error (.inl rfl)
      | true =>
          rw [if_neg (by decide), if_neg (by decide)]
          have hOctets : Meets (fun octets => w.tree.read (.ofText path) = .ok octets)
              (ReportedOr .settings (SettingsFault w a))
              ((w.tree.read (.ofText path)).mapError fun e =>
                Settings.Error.refused (.unreadable (Files.Path.ofText path).text e)) :=
            meets_mapError (meets_of_error fun e _ => .inl rfl)
          refine meets_bind hOctets fun octets hOctets => ?_
          have hChars : Meets (fun chars => Text.Utf8.decode octets = .ok chars)
              (ReportedOr .settings (SettingsFault w a))
              ((Text.Utf8.decode octets).mapError Settings.Error.undecodable) :=
            meets_mapError (meets_of_error fun fault hFault =>
              .inr (.undecodable hPath hOctets hFault))
          refine meets_bind hChars fun chars hChars => ?_
          have hText : HoldsText w.tree path (Text.foldLineEnds chars) :=
            ⟨octets, chars, hOctets, hChars, rfl⟩
          split
          · exact .error (.inl rfl)
          · rename_i x hRead
            exact .error (.inr (.excess hPath hText hRead))
          · rename_i members hRead
            exact .ok ⟨_, hText, hRead⟩
          · exact .error (.inl rfl)

/-- Without a file there is nothing that cannot be merged. -/
theorem not_mergeFault (a : Arguments) (m : Json.Misuse) : ¬ MergeFault (merged a []) m := by
  have hFinal : ∃ b, (merged a []).get? (.text "use_final") = some (.bool b) := by
    unfold merged overrides
    cases given a.package <;> cases a.noFinal
    all_goals exact ⟨_, rfl⟩
  have hCustom : (merged a []).get? (.text "custom") = none := by
    unfold merged overrides
    cases given a.package <;> cases a.noFinal
    all_goals rfl
  intro hFault
  cases hFault with
  | final hValue hLong =>
      obtain ⟨b, hBool⟩ := hFinal
      obtain ⟨n, hWithin, -⟩ := hLong
      rw [hBool] at hValue
      cases hValue
      cases hWithin
  | custom hValue hUnknown hPairs =>
      rw [hCustom] at hValue
      cases hValue

/-- The settings are loaded, or their file is refused, or it is at fault. -/
theorem meets_load : Meets (fun _ => True) (ReportedOr .settings (SettingsFault w a))
    (load w.tree (.object (overrides a)) (.ofText? a.config)) := by
  have hRest : ∀ members, (∀ m, MergeFault (merged a members) m → SettingsFault w a (.misuse m)) →
      Meets (fun _ => True) (ReportedOr .settings (SettingsFault w a))
        (addLayer (defaults.update (.ofMembers members)) (.object (overrides a)) >>=
          ofDictionary) := by
    intro members hFault
    rw [addLayer_object]
    refine (meets_ofDictionary (merged a members)).mono ?_
    rintro e (hReported | ⟨m, rfl, hMerge⟩)
    · exact .inl hReported
    · exact .inr (hFault m hMerge)
  unfold load
  rcases given_cases a.config with ⟨-, hConfig⟩ | ⟨path, hPath, hConfig, hSome⟩
  · simp only [hConfig, Bool.false_eq_true, if_false]
    exact hRest [] fun m hMerge => absurd hMerge (not_mergeFault a m)
  · simp only [hConfig, hSome, if_true]
    have hPathOf : Meets (fun p => p = .ofText path) (ReportedOr .settings (SettingsFault w a))
        (pathOf (.text path)) := .ok rfl
    refine meets_bind hPathOf ?_
    rintro _ rfl
    refine meets_bind (meets_readFile hPath) ?_
    rintro members ⟨text, hText, hRead⟩
    exact hRest members fun m hMerge => .merge hPath hText hRead hMerge

end

/-! ## Doubts about settings -/

/-- Why nothing can be said about settings that are loaded. -/
inductive ReviewFault (s : Settings) : Json.Misuse → Prop
  /-- What stands for the name of the package is no text. -/
  | name (hText : s.packageName.text? = none) (hSome : s.packageName.isTruthy = true) :
      ReviewFault s (.noOperation s.packageName.kindName "split")
  /-- What stands for the custom settings has no keys. -/
  | custom {v : Json.Value} (hCustom : s.custom = .other v) {m : Json.Misuse}
      (hItems : v.items = .error m) : ReviewFault s m
  /-- A key has an integer with too many digits. -/
  | key {keys : List Json.Value} {key : Json.Value} (hKeys : s.custom.keys = .ok keys)
      (hKey : key ∈ keys) (hLong : HoldsUnshown key) : ReviewFault s .digitLimit

theorem meets_nameWarnings (s : Settings) :
    Meets (fun _ => s.packageName.isTruthy = true → s.packageName.text?.isSome = true)
      (ReviewFault s) (Settings.nameWarnings s.packageName) := by
  unfold Settings.nameWarnings
  split
  · rename_i hNull
    exact .ok fun hSome => absurd (hNull ▸ hSome) (by decide)
  · rename_i text hText
    exact .ok fun _ => by rw [hText]; rfl
  · rename_i v hNull hText
    have hNone : s.packageName.text? = none := by
      cases hValue : s.packageName with
      | text t => exact absurd hValue (hText t)
      | _ => rfl
    split
    · rename_i hSome
      exact .error (.name hNone hSome)
    · rename_i hSome
      exact .ok fun h => absurd h hSome

theorem meets_keys (s : Settings) :
    Meets (fun keys => s.custom.keys = .ok keys) (ReviewFault s) s.custom.keys := by
  refine meets_of_error fun m hError => ?_
  cases hCustom : s.custom with
  | dictionary d =>
      rw [hCustom] at hError
      cases hError
  | other v =>
      rw [hCustom] at hError
      exact .custom hCustom hError

theorem meets_keyWarnings {s : Settings} {keys : List Json.Value}
    (hKeys : s.custom.keys = .ok keys) :
    Meets (fun ws => keys.mapM Settings.keyWarning = .ok ws) (ReviewFault s)
      (keys.mapM Settings.keyWarning) := by
  refine meets_of_error fun m hError => ?_
  obtain ⟨key, hKey, hStop⟩ := Outcome.exists_of_mapM_eq_error hError
  unfold Settings.keyWarning at hStop
  split at hStop
  · cases hStop
  · rename_i hUnshown
    cases hStop
    have hLiteral := Resource.Document.literal?_of_shown? hUnshown
    exact .key hKeys hKey (Json.Value.exists_of_literal?_eq_none key hLiteral)

/-- The name of the package is a text or is not looked at, or nothing can be said. -/
theorem meets_warnings (s : Settings) :
    Meets (fun _ => s.packageName.isTruthy = true → s.packageName.text?.isSome = true)
      (ReviewFault s) (s.warnings true) := by
  unfold Settings.warnings
  refine meets_bind (meets_nameWarnings s) fun names hText => ?_
  refine meets_bind (meets_keys s) fun keys hKeys => ?_
  exact meets_bind (meets_keyWarnings hKeys) fun _ _ => .ok hText

end Command

end ResourceSymbols
