import Mathlib
import ResourceSymbols.Proofs.ExitStatus

/-!
# What a run delivers

A run without a source root delivers one class: on the standard output, or in the file that
the arguments or the settings name.  It is put out in one piece, and only when it is complete.
But a file is emptied before the class is turned into octets.  If the class has none, since it
holds half of a surrogate pair, the run fails and the file stays empty.  And what is said of
the class comes afterwards.  Where that cannot be printed, the run fails with the class
delivered.

## Main results

* `leaves_outputOne`, `leaves_outputAll` — the class of a package is put out, or nothing is.
* `run_delivers` — what a run leaves behind.
* `run_delivers_bracketRun`, `delivered_bracketRun` — a run that fails with the class in its
  file.
-/

namespace ResourceSymbols.Command

open Resource (Table)
open RClass (Result Source toSource targetOf)
open Files (Path)

/-- The file that the class goes into: the one that the arguments name, or else the one that
the settings name. -/
def fileOf (a : Arguments) (s : Settings) : Option String :=
  (given a.output).or (given s.outputFile.text?)

/-- The octets are in the file that is named, with every other place as it was, and nothing is
on the standard output: in the outputs, `tree` being the files before. -/
inductive Filled (a : Arguments) (s : Settings) (octets : List UInt8) (tree : Files.Tree) :
    Files.Tree × String → Prop
  | intro {path : String} {l : Files.Location} {tree' : Files.Tree} (hPath : fileOf a s = some path)
      (hPlace : tree.locate (.ofText path) = .ok l)
      (hRead : tree'.read (.ofText path) = .ok octets)
      (hOthers : ∀ k, k ≠ l → tree'.node? k = tree.node? k) : Filled a s octets tree (tree', "")

/-- The code is put out whole, and nothing else is. -/
inductive PutOut (a : Arguments) (s : Settings) (code : String) (tree : Files.Tree) :
    Files.Tree × String → Prop
  /-- On the standard output, where no file is named. -/
  | stdout (hArgument : given a.output = none) (hSetting : s.outputFile.isTruthy = false) :
      PutOut a s code tree (tree, code)
  /-- In the file that is named. -/
  | file {octets : List UInt8} {outputs : Files.Tree × String}
      (hOctets : Text.Utf8.encode code = .ok octets) (hFilled : Filled a s octets tree outputs) :
      PutOut a s code tree outputs

/-- Why something about the class cannot be said when it is put out. -/
inductive Unsaid (a : Arguments) (s : Settings) (source : Source) : Failure → Prop
  /-- A tag may start in the path of the file. -/
  | saved {path : String} {e : Console.Error} (hPath : fileOf a s = some path)
      (hTag : Console.MayTag (Path.ofText path).text.toList) : Unsaid a s source (.console e)
  /-- The findings about the class cannot be shown. -/
  | finding {f : Failure} (hVerbose : a.verbose = true)
      (hFault : FindingFault source.result.fields f) : Unsaid a s source f

/-- What comes of a step that puts out one of the classes that are `produced`, and what it
leaves behind.  It ends with what is `done` only if it puts out a class. -/
inductive Delivery {α : Type} (a : Arguments) (s : Settings) (tree : Files.Tree)
    (produced : Source → Prop) (done : Source → α) : Except Failure α → State → Prop
  | nothing {r : Except Failure α} {st : State} (hOutputs : st.outputs = (tree, ""))
      (hNot : ∀ source, r ≠ .ok (done source)) : Delivery a s tree produced done r st
  | delivered {source : Source} {st : State} (hSource : produced source)
      (hOut : PutOut a s source.code tree st.outputs) :
      Delivery a s tree produced done (.ok (done source)) st
  | unsaid {source : Source} {f : Failure} {st : State} (hSource : produced source)
      (hOut : PutOut a s source.code tree st.outputs) (hFault : Unsaid a s source f) :
      Delivery a s tree produced done (.error f) st
  | emptied {source : Source} {u : Text.Utf8.Unencodable} {st : State} (hSource : produced source)
      (hHalf : .half u.half ∈ Text.codePoints source.code.toList)
      (hFilled : Filled a s [] tree st.outputs) :
      Delivery a s tree produced done (.error (.unencodable u)) st

variable {w : Surroundings} {a : Arguments} {t : Table} {s : Settings} {tree : Files.Tree}

/-! ## Delivery -/

section

variable {α β : Type} {produced : Source → Prop} {done : Source → α} {st : State}

/-- A step that fails before anything is put out. -/
theorem Delivery.stop {f : Failure} (hOutputs : st.outputs = (tree, "")) :
    Delivery a s tree produced done (.error f) st := .nothing hOutputs (by simp)

theorem Delivery.mono {others : Source → Prop} {r : Except Failure α}
    (h : Delivery a s tree produced done r st)
    (hOthers : ∀ source, produced source → others source) :
    Delivery a s tree others done r st := by
  cases h with
  | nothing hOutputs hNot => exact .nothing hOutputs hNot
  | delivered hSource hOut => exact .delivered (hOthers _ hSource) hOut
  | unsaid hSource hOut hFault => exact .unsaid (hOthers _ hSource) hOut hFault
  | emptied hSource hHalf hFilled => exact .emptied (hOthers _ hSource) hHalf hFilled

/-- A failure is the same for the step that goes on from there. -/
theorem Delivery.of_error {done' : Source → β} {f : Failure}
    (h : Delivery a s tree produced done (.error f) st) :
    Delivery a s tree produced done' (.error f) st := by
  cases h with
  | nothing hOutputs _ => exact .stop hOutputs
  | unsaid hSource hOut hFault => exact .unsaid hSource hOut hFault
  | emptied hSource hHalf hFilled => exact .emptied hSource hHalf hFilled

/-- What is seen of the state are its outputs. -/
theorem Delivery.of_outputs {r : Except Failure α} {st' : State}
    (h : Delivery a s tree produced done r st) (hSame : st'.outputs = st.outputs) :
    Delivery a s tree produced done r st' := by
  cases h with
  | nothing hOutputs hNot => exact .nothing (hSame.trans hOutputs) hNot
  | delivered hSource hOut => exact .delivered hSource (hSame ▸ hOut)
  | unsaid hSource hOut hFault => exact .unsaid hSource (hSame ▸ hOut) hFault
  | emptied hSource hHalf hFilled => exact .emptied hSource hHalf (hSame ▸ hFilled)

/-- Nothing is put out by a step that changes no output, and then the next step may do so. -/
theorem leaves_next {x : Act β} {g : β → Act α} (hStart : st.outputs = (tree, ""))
    (hKeeps : Keeps State.outputs x)
    (hNext : ∀ b st', Ends x st b st' → st'.outputs = (tree, "") →
      Leaves (g b) st' (Delivery a s tree produced done)) :
    Leaves (x >>= g) st (Delivery a s tree produced done) :=
  leaves_bind_keeps hKeeps (fun _ _ hSame => .stop (hSame.trans hStart))
    fun b st' hEnds hSame => hNext b st' hEnds (hSame.trans hStart)

/-! ## One class -/

/-- The class goes into the file that is named, or else no file is. -/
theorem ends_outputPath {p : Option Path} {st' : State} (hEnds : Ends (outputPath a s) st p st') :
    (∃ path, fileOf a s = some path ∧ p = some (.ofText path)) ∨
      given a.output = none ∧ s.outputFile.isTruthy = false ∧ p = none := by
  unfold outputPath at hEnds
  unfold fileOf
  cases hArgument : given a.output with
  | some path =>
      rw [hArgument] at hEnds
      exact .inl ⟨path, rfl, (ends_pure_iff.1 hEnds).1.symm⟩
  | none =>
      rw [hArgument] at hEnds
      cases hSetting : s.outputFile.isTruthy with
      | false =>
          simp only [hSetting, Bool.false_eq_true, if_false] at hEnds
          exact .inr ⟨rfl, rfl, (ends_pure_iff.1 hEnds).1.symm⟩
      | true =>
          simp only [hSetting, if_true] at hEnds
          cases hValue : s.outputFile with
          | text path =>
              rw [hValue] at hSetting hEnds
              have hSome : given (some path) = some path := by
                simpa [given, Json.Value.isTruthy] using hSetting
              exact .inl ⟨path, hSome, (ends_pure_iff.1 hEnds).1.symm⟩
          | _ =>
              rw [hValue] at hEnds
              exact absurd hEnds not_ends_throw

/-- What is put out in a file is put out, whether or not it can be said where. -/
theorem leaves_saySaved {path : String} (hPath : fileOf a s = some path) {source : Source}
    (hOut : PutOut a s source.code tree st.outputs) :
    Leaves (do
      say s!"[green]✓[/green] R class saved to [cyan]{(Path.ofText path).text}[/cyan]"
      return true) st (Delivery a s tree (fun made => made = source) fun _ => true) := by
  refine leaves_bind (fun f st' hFails => ?_) fun _ st' hSay => ?_
  · obtain ⟨e, hPrinted, rfl, rfl⟩ := fails_say_iff.1 hFails
    refine .unsaid rfl hOut (.saved hPath ?_)
    by_contra hPlain
    obtain ⟨line, hLine⟩ := Console.exists_printed_saved hPlain
    cases hPrinted.symm.trans hLine
  · have hSame := (keeps_say _).of_ends hSay
    exact leaves_pure (.delivered rfl (hSame ▸ hOut))

/-- A file is filled by the class, or it is left empty by one without octets, or nothing is
done.  Where it is filled, it may be that this cannot be said. -/
theorem leaves_writeFile {path : String} (hPath : fileOf a s = some path) (source : Source)
    (hStart : st.outputs = (tree, "")) :
    Leaves (writeFile (.ofText path) source.code) st
      (Delivery a s tree (fun made => made = source) fun _ => true) := by
  unfold writeFile
  refine leaves_next hStart keeps_get fun _ st₀ hGet hOutputs => ?_
  obtain ⟨rfl, rfl⟩ := ends_get_iff.1 hGet
  obtain rfl : st₀.tree = tree := congrArg Prod.fst hOutputs
  have hEmpty : st₀.stdout = "" := congrArg Prod.snd hOutputs
  cases hOpen : st₀.tree.write (.ofText path) [] with
  | error e =>
      cases e with
      | noPath fault => exact leaves_throw (.stop hOutputs)
      | refused cause path =>
          exact leaves_next hOutputs (keeps_say _) fun _ _ _ hNone =>
            leaves_pure (.nothing hNone (by simp))
  | ok opened =>
      obtain ⟨l, hPlace, hWritable, rfl⟩ := Files.Tree.write_eq_ok_iff.1 hOpen
      have hFree := hWritable.ne_directory
      have hFilled : ∀ octets, Filled a s octets st₀.tree
          (st₀.tree.put l (.file octets), st₀.stdout) := by
        intro octets
        rw [hEmpty]
        exact .intro hPath hPlace (Files.Tree.read_put hFree hPlace _)
          fun k hk => Files.Tree.node?_put_of_ne _ hk _
      refine leaves_of_ends (a := ()) (ends_modify_iff.2 rfl) ?_
      cases hOctets : Text.Utf8.encode source.code with
      | error u =>
          refine leaves_of_fails (fails_throw_iff.2 ⟨rfl, rfl⟩) ?_
          exact .emptied rfl (Text.Utf8.half_mem_of_encode_eq_error hOctets) (hFilled [])
      | ok octets =>
          have hFill := Files.Tree.write_put hFree hPlace [] octets
          refine leaves_of_ends (ends_orFail_iff.2 ⟨rfl, rfl⟩) ?_
          refine leaves_of_ends (ends_orFail_iff.2 ⟨hFill, rfl⟩) ?_
          refine leaves_of_ends (a := ()) (ends_modify_iff.2 rfl) ?_
          exact leaves_saySaved hPath (.file hOctets (hFilled octets))

/-- The standard output takes the class whole, or it takes nothing. -/
theorem leaves_writeStdout (hArgument : given a.output = none)
    (hSetting : s.outputFile.isTruthy = false) (source : Source)
    (hStart : st.outputs = (tree, "")) :
    Leaves (writeStdout source.code) st
      (Delivery a s tree (fun made => made = source) fun _ => ()) := by
  refine leaves_next hStart (keeps_orFail _ _) fun _ st₁ _ hStart => ?_
  obtain rfl : st₁.tree = tree := congrArg Prod.fst hStart
  have hEmpty : st₁.stdout = "" := congrArg Prod.snd hStart
  refine Delivery.delivered rfl ?_
  show PutOut a s source.code st₁.tree (st₁.tree, st₁.stdout ++ source.code)
  rw [hEmpty, String.empty_append]
  exact .stdout hArgument hSetting

/-- The class that the text of a target is, when it is complete. -/
def Made (t : Table) (target : Json.Value) (s : Settings) (source : Source) : Prop :=
  (toSource t target s).1 = .ok source ∧ source.result.isComplete = true

/-- A class that is complete is put out. -/
theorem leaves_outputOne {target : Json.Value} (hStart : st.outputs = (tree, "")) :
    Leaves (outputOne a t s target) st
      (Delivery a s tree (Made t target s) fun source => some source.result) := by
  unfold outputOne
  rcases hFirst : toSource t target s with ⟨outcome, log⟩
  refine leaves_next hStart (keeps_record _) fun _ st₁ _ hStart => ?_
  refine leaves_next hStart (keeps_orFail _ _) fun source st₂ hNow hStart => ?_
  have hSource : (toSource t target s).1 = .ok source := by
    rw [hFirst]
    exact (ends_orFail_iff.1 hNow).1
  cases hComplete : source.result.isComplete with
  | false =>
      exact leaves_next hStart (keeps_say _) fun _ _ _ hNone =>
        leaves_pure (.nothing hNone (by simp))
  | true =>
      refine leaves_next hStart (keeps_outputPath a s) fun p st₃ hPath hStart => ?_
      rcases ends_outputPath hPath with ⟨path, hFile, rfl⟩ | ⟨hArgument, hSetting, rfl⟩
      · have hWritten := leaves_writeFile hFile source hStart
        refine leaves_bind (fun f st₄ hFails => ?_) fun isWritten st₄ hEnds => ?_
        · refine (hWritten.of_fails hFails).of_error.mono ?_
          rintro _ rfl
          exact ⟨hSource, hComplete⟩
        · cases hWritten.of_ends hEnds with
          | nothing hOutputs hNot =>
              have hFalse : isWritten = false := by simpa using hNot source
              subst hFalse
              exact leaves_pure (.nothing hOutputs (by simp))
          | delivered hMade hOut =>
              subst hMade
              exact leaves_pure (.delivered ⟨hSource, hComplete⟩ hOut)
      · have hWritten := leaves_writeStdout hArgument hSetting source hStart
        refine leaves_bind (fun f st₄ hFails => ?_) fun _ st₄ hEnds => ?_
        · refine (hWritten.of_fails hFails).of_error.mono ?_
          rintro _ rfl
          exact ⟨hSource, hComplete⟩
        · cases hWritten.of_ends hEnds with
          | nothing _ hNot => exact absurd rfl (hNot source)
          | delivered hMade hOut =>
              subst hMade
              exact leaves_pure (.delivered ⟨hSource, hComplete⟩ hOut)

/-- The class of one package is put out, or nothing is. -/
theorem leaves_outputAll {package : String} (hRoot : given a.outputDir = none)
    (hStart : st.outputs = (tree, "")) :
    Leaves (outputAll a t s [package]) st
      (Delivery a s tree (Made t (.text package) s) fun _ => 0) := by
  have hOne : Leaves (outputOne a t s (.text package)) st
      (Delivery a s tree (Made t (.text package) s) fun source => some source.result) :=
    leaves_outputOne hStart
  rw [outputAll, hRoot]
  refine leaves_bind (fun f st₁ hFails => ?_) fun written st₁ hEnds => ?_
  · exact (hOne.of_fails hFails).of_error
  · cases hOne.of_ends hEnds with
    | nothing hOutputs hNot =>
        cases written with
        | none => exact leaves_pure (.nothing hOutputs (by simp))
        | some r => exact absurd rfl (hNot { code := "", result := r })
    | delivered hMade hOut =>
        dsimp only
        split
        · rename_i hVerbose
          refine leaves_bind (fun f st₂ hFails => ?_) fun _ st₂ hPrint => ?_
          · have hSame := (keeps_printFields _).of_fails hFails
            have hFault := (yields_findings _).of_fails hFails
            exact .unsaid hMade (hSame ▸ hOut) (.finding hVerbose hFault)
          · have hSame := (keeps_printFields _).of_ends hPrint
            exact leaves_pure (.delivered hMade (hSame ▸ hOut))
        · exact leaves_pure (.delivered hMade hOut)

/-- What the settings name, or else the package of the table, is what a class is made of when
nothing is asked for. -/
theorem targetOf_null (hNamed : s.packageName.isTruthy = true → s.packageName.text?.isSome = true) :
    targetOf (.text ((given s.packageName.text?).getD t.package)) s t = targetOf .null s t := by
  have hNull : Json.Value.isTruthy .null = false := rfl
  cases hName : given s.packageName.text? with
  | some name =>
      obtain ⟨hText, hSome⟩ := Option.filter_eq_some_iff.1 hName
      have hValue := Json.Value.eq_text_of_text? hText
      have hTruthy : (Json.Value.text name).isTruthy = true := hSome
      simp [targetOf, hNull, hValue, hTruthy]
  | none =>
      have hFalse : s.packageName.isTruthy = false := by
        by_contra hSome
        obtain ⟨name, hText⟩ := Option.isSome_iff_exists.1 (hNamed (by simpa using hSome))
        rw [Json.Value.eq_text_of_text? hText] at hSome
        rw [hText] at hName
        rcases given_cases (some name) with ⟨-, hNot⟩ | ⟨_, hGiven, -⟩
        · exact hSome hNot
        · rw [hName] at hGiven
          cases hGiven
      simp [targetOf, hNull, hFalse]

end

/-! ## Whole runs -/

/-- The table that a run reads and the settings that it loads make the class, with nothing
asked for. -/
def Produced (w : Surroundings) (a : Arguments) (s : Settings) (source : Source) : Prop :=
  ∃ t, ((readTable w a).run.run { tree := w.tree }).1 = .ok t ∧
    Settings.load w.tree (.object (overrides a)) (.ofText? a.config) = .ok s ∧
    Made t .null s source

/-- Until the settings are read nothing is put out, and the class is put out after that. -/
theorem leaves_perform (hRoot : given a.outputDir = none) :
    Leaves (perform w a) { tree := w.tree } fun r st =>
      ∃ s, Delivery a s w.tree (Produced w a s) (fun _ => 0) r st := by
  unfold perform
  refine leaves_bind_keeps (keeps_checkOutputs a) (fun _ _ hSame => ⟨{}, .stop hSame⟩) ?_
  intro _ st₁ hCheck _
  obtain ⟨hAll, -, rfl⟩ := ends_checkOutputs_iff.1 hCheck
  refine leaves_bind_keeps (keeps_readTable w a) (fun _ _ hSame => ⟨{}, .stop hSame⟩) ?_
  intro t st₂ hTable hSame₂
  refine leaves_bind_keeps (keeps_readSettings w a)
    (fun _ _ hSame => ⟨{}, .stop (hSame.trans hSame₂)⟩) ?_
  intro s st₃ hSettings hSame₃
  obtain ⟨hLoad, hNamed⟩ := yields_readSettings.of_ends hSettings
  have hOne : a.allPackages = false := by
    by_contra hMany
    simpa [hRoot] using hAll (by simpa using hMany)
  rw [packagesOf, hOne, if_neg Bool.false_ne_true]
  refine Leaves.mono (leaves_outputAll hRoot (hSame₃.trans hSame₂)) fun r st' hDelivery => ?_
  refine ⟨s, hDelivery.mono fun source hMade => ?_⟩
  refine ⟨t, congrArg Prod.fst hTable, hLoad, ?_⟩
  unfold Made toSource at hMade ⊢
  rwa [targetOf_null hNamed] at hMade

/-- What is not reported is left to fail. -/
theorem report_of_escapes {f : Failure} (hEscapes : f.isReported = false) :
    report f = throw f := by
  unfold report
  rw [hEscapes, if_neg Bool.false_ne_true]

/-- What comes of a run is what comes of its steps, with some of the log left out. -/
theorem exists_leaves_runWith {level : Log.Severity} {after : Except Failure Nat → State → Prop}
    (hLevel : a.logLevel = some level)
    (hLeaves : Leaves (tryCatch (perform w a) report) { tree := w.tree } after) :
    ∃ st, after (runWith w a).status st ∧ (runWith w a).state.outputs = st.outputs := by
  unfold runWith
  rw [hLevel]
  exact ⟨_, hLeaves, rfl⟩

/-- What came of putting the class out is told by the status, since only what fails before
is reported. -/
theorem delivery_runWith (hRoot : given a.outputDir = none) :
    ∃ s, Delivery a s w.tree (Produced w a s) (fun _ => 0) (runWith w a).status
      (runWith w a).state := by
  have hWhole : Leaves (tryCatch (perform w a) report) { tree := w.tree } fun r st =>
      ∃ s, Delivery a s w.tree (Produced w a s) (fun _ => 0) r st := by
    have hPerform := leaves_perform (w := w) hRoot
    refine leaves_tryCatch (fun n st hEnds => Leaves.of_ends hPerform hEnds) fun f st hFails => ?_
    obtain ⟨s, hDelivery⟩ := Leaves.of_fails hPerform hFails
    refine ⟨s, ?_⟩
    cases hDelivery with
    | nothing hOutputs _ =>
        refine .nothing ((keeps_report f st).trans hOutputs) fun _ hZero => ?_
        have hReport : Ends (report f) st 0 ((report f).run.run st).2 := Prod.ext hZero rfl
        cases eq_one_of_report hReport
    | unsaid hSource hOut hFault =>
        have hEscapes : f.isReported = false := by
          cases hFault with
          | saved => rfl
          | finding _ hFault => cases hFault <;> rfl
        rw [report_of_escapes hEscapes]
        exact .unsaid hSource hOut hFault
    | emptied hSource hHalf hFilled =>
        rw [report_of_escapes rfl]
        exact .emptied hSource hHalf hFilled
  cases hLevel : a.logLevel with
  | none =>
      unfold runWith
      rw [hLevel]
      exact ⟨{}, .stop rfl⟩
  | some level =>
      obtain ⟨st, ⟨s, hDelivery⟩, hOutputs⟩ := exists_leaves_runWith hLevel hWhole
      exact ⟨s, hDelivery.of_outputs hOutputs⟩

/-- A step that leaves the outputs as they are leaves the standard output as it is. -/
theorem keeps_stdout {α : Type} {x : Act α} (hKeeps : Keeps State.outputs x) :
    Keeps State.stdout x :=
  hKeeps.comp Prod.snd

theorem keeps_stdout_outputBelow {root package : String} :
    Keeps State.stdout (outputBelow t s root package) := by
  unfold outputBelow
  refine keeps_bind keeps_get fun _ => keeps_bind (keeps_modify fun _ => rfl) fun _ => ?_
  refine keeps_bind (keeps_stdout (keeps_record _)) fun _ => ?_
  refine keeps_bind (keeps_orFail _ _) fun r => ?_
  split
  · exact keeps_bind (keeps_stdout (keeps_say _)) fun _ => keeps_pure _
  · exact keeps_bind (keeps_stdout (keeps_say _)) fun _ => keeps_pure _

theorem keeps_stdout_outputAll {root : String} (hRoot : given a.outputDir = some root)
    (packages : List String) : Keeps State.stdout (outputAll a t s packages) := by
  induction packages with
  | nil => exact keeps_pure _
  | cons package packages ih =>
      rw [outputAll, hRoot]
      refine keeps_bind keeps_stdout_outputBelow fun written => ?_
      cases written with
      | none => exact keeps_pure _
      | some r =>
          dsimp only
          split
          · exact keeps_bind (keeps_stdout (keeps_printFields _)) fun _ => ih
          · exact ih

/-- A class that goes below a source root does not go to the standard output. -/
theorem keeps_stdout_perform {root : String} (hRoot : given a.outputDir = some root) :
    Keeps State.stdout (perform w a) := by
  unfold perform
  refine keeps_bind (keeps_stdout (keeps_checkOutputs a)) fun _ => ?_
  refine keeps_bind (keeps_stdout (keeps_readTable w a)) fun t => ?_
  exact keeps_bind (keeps_stdout (keeps_readSettings w a)) fun s =>
    keeps_stdout_outputAll hRoot _

/-- Below a source root nothing goes to the standard output.  Without one, the run leaves
every file as it was and the standard output empty, and its status is not 0; or else it puts
out the class that its table and its settings make, whole, and changes nothing else.  Then its
status is 0, unless what is to be said of the class cannot be printed.  Only a class that
holds half of a surrogate pair is not put out whole: its file is left empty, and the run
fails. -/
theorem run_delivers {words : List String} (hWords : Arguments.read words = .ok a) :
    (∀ root, given a.outputDir = some root → (run w words).state.stdout = "") ∧
      (given a.outputDir = none →
        ((run w words).state.outputs = (w.tree, "") ∧ (run w words).status ≠ .ok 0) ∨
          (∃ s source, Produced w a s source ∧
            PutOut a s source.code w.tree (run w words).state.outputs ∧
            ((run w words).status = .ok 0 ∨
              ∃ f, (run w words).status = .error f ∧ Unsaid a s source f)) ∨
          ∃ s source u, Produced w a s source ∧
            .half u.half ∈ Text.codePoints source.code.toList ∧
            Filled a s [] w.tree (run w words).state.outputs ∧
            (run w words).status = .error (.unencodable u)) := by
  have hRun : run w words = runWith w a := by rw [run, hWords]
  rw [hRun]
  constructor
  · intro root hRoot
    have hKeeps : Keeps State.stdout (tryCatch (perform w a) report) :=
      keeps_tryCatch (keeps_stdout_perform hRoot) fun f => keeps_stdout (keeps_report f)
    unfold runWith
    cases a.logLevel with
    | none => rfl
    | some level => exact hKeeps { tree := w.tree }
  · intro hRoot
    obtain ⟨s, hDelivery⟩ := delivery_runWith (w := w) hRoot
    generalize (runWith w a).status = status at hDelivery ⊢
    cases hDelivery with
    | nothing hOutputs hNot =>
        exact .inl ⟨hOutputs, hNot { code := "", result := .failed .unshown }⟩
    | delivered hSource hOut => exact .inr (.inl ⟨s, _, hSource, hOut, .inl rfl⟩)
    | unsaid hSource hOut hFault => exact .inr (.inl ⟨s, _, hSource, hOut, .inr ⟨_, rfl, hFault⟩⟩)
    | emptied hSource hHalf hFilled => exact .inr (.inr ⟨s, _, _, hSource, hHalf, hFilled, rfl⟩)

/-! ## A run that fails with the class in its file -/

/-- A document without groups. -/
def bracketText : String := "\x7b\"package\": \"app\", \"id\": 127, \"types\": []\x7d"

/-- A document on the standard input, and a directory whose name starts a tag. -/
def bracketRun : Surroundings :=
  { tree := { home := ["home"], nodes := [(["home"], .directory), (["home", "["], .directory)] }
    stdin := Text.Utf8.octetsOf bracketText.toList
    exchange := .trouble .connection "" }

/-- The path of a file in that directory. -/
def bracketPath : Path := .ofText "[/b]"

def bracketWords : List String := ["--stdin", "--output", "[/b]"]

def bracketArguments : Arguments := { stdin := true, output := some "[/b]" }

theorem read_bracketWords : Arguments.read bracketWords = .ok bracketArguments := by
  decide +kernel

/-- A file is written, but that it is cannot be printed. -/
theorem fails_writeFile {p : Path} {l : Files.Location} {code : String} {octets : List UInt8}
    {st : State} {e : Console.Error} (hPlace : st.tree.locate p = .ok l)
    (hNew : st.tree.Writable l) (hOctets : Text.Utf8.encode code = .ok octets)
    (hPrinted : Console.printed s!"[green]✓[/green] R class saved to [cyan]{p.text}[/cyan]" =
      .error e) :
    Fails (writeFile p code) st (.console e) { st with tree := st.tree.put l (.file octets) } := by
  have hOpen : st.tree.write p [] = .ok (st.tree.put l (.file [])) :=
    Files.Tree.write_eq_ok_iff.2 ⟨l, hPlace, hNew, rfl⟩
  have hFill := Files.Tree.write_put hNew.ne_directory hPlace [] octets
  have hLeaves : Leaves (writeFile p code) st fun r st' =>
      r = .error (.console e) ∧ st' = { st with tree := st.tree.put l (.file octets) } := by
    unfold writeFile
    refine leaves_of_ends (ends_get_iff.2 ⟨rfl, rfl⟩) ?_
    rw [hOpen]
    refine leaves_of_ends (a := ()) (ends_modify_iff.2 rfl) ?_
    refine leaves_of_ends (ends_orFail_iff.2 ⟨hOctets, rfl⟩) ?_
    refine leaves_of_ends (ends_orFail_iff.2 ⟨hFill, rfl⟩) ?_
    refine leaves_of_ends (a := ()) (ends_modify_iff.2 rfl) ?_
    exact leaves_of_fails (fails_say_iff.2 ⟨e, hPrinted, rfl, rfl⟩) ⟨rfl, rfl⟩
  exact Prod.ext hLeaves.1 hLeaves.2

/-- The tag that ends in the name of the file was never started. -/
theorem exists_printed_bracketPath : ∃ e, Console.printed
    s!"[green]✓[/green] R class saved to [cyan]{bracketPath.text}[/cyan]" = .error e := by
  have hNot : (Console.printed
      s!"[green]✓[/green] R class saved to [cyan]{bracketPath.text}[/cyan]").isOk = false := by
    decide +kernel
  cases hPrinted : Console.printed
      s!"[green]✓[/green] R class saved to [cyan]{bracketPath.text}[/cyan]" with
  | error e => exact ⟨e, rfl⟩
  | ok line =>
      rw [hPrinted] at hNot
      cases hNot

/-- The table of `bracketText`. -/
def bracketTable : Table := { package := "app", number := 0x7F, groups := [] }

theorem ends_readTable_bracketRun : ∃ st, Ends (readTable bracketRun bracketArguments)
    { tree := bracketRun.tree } bracketTable st := by
  have hText : Text.Utf8.decode bracketRun.stdin = .ok bracketText.toList := by
    decide +kernel
  have hRead : Json.Value.read (Text.foldLineEnds bracketText.toList) =
      .ok (.object [("package", .text "app"), ("id", .int 127), ("types", .list [])]) := by
    cbv
  exact exists_ends_readTable rfl rfl rfl hText hRead rfl

/-- The class of the table is complete, and it has octets. -/
theorem exists_source_bracketTable : ∃ source octets,
    (toSource bracketTable (.text "app") {}).1 = .ok source ∧
      source.result.isComplete = true ∧ Text.Utf8.encode source.code = .ok octets := by
  have hTest : (toSource bracketTable (.text "app") {}).1.map
      (fun source => source.result.isComplete && (Text.Utf8.encode source.code).isOk) =
        .ok true := by decide +kernel
  obtain ⟨source, hSource, hBoth⟩ := Outcome.map_eq_ok_iff.1 hTest
  obtain ⟨hComplete, hOk⟩ := Bool.and_eq_true_iff.1 hBoth
  cases hOctets : Text.Utf8.encode source.code with
  | ok octets => exact ⟨source, octets, hSource, hComplete, hOctets⟩
  | error u =>
      rw [hOctets] at hOk
      cases hOk

/-- The class of the table goes into the file, and then it cannot be said that it does. -/
theorem leaves_outputOne_bracketRun {st : State} (hTree : st.tree = bracketRun.tree) :
    ∃ e, Leaves (outputOne bracketArguments bracketTable {} (.text "app")) st fun r st' =>
      r = .error (.console e) ∧ st'.tree.isFile bracketPath = .ok true := by
  obtain ⟨source, octets, hSource, hComplete, hOctets⟩ := exists_source_bracketTable
  have hPlace : st.tree.locate bracketPath = .ok ["home", "[", "b]"] := hTree ▸ rfl
  have hNew : st.tree.Writable ["home", "[", "b]"] := .inr (hTree ▸ ⟨rfl, rfl⟩)
  have hFile := Files.Tree.isFile_of_read
    (Files.Tree.read_put hNew.ne_directory hPlace octets)
  obtain ⟨e, hPrinted⟩ := exists_printed_bracketPath
  refine ⟨e, ?_⟩
  unfold outputOne
  rcases hFirst : toSource bracketTable (.text "app") {} with ⟨outcome, log⟩
  rw [hFirst] at hSource
  dsimp only at hSource ⊢
  subst hSource
  refine leaves_of_ends (a := ()) (ends_record_iff.2 rfl) ?_
  refine leaves_of_ends (ends_orFail_iff.2 ⟨rfl, rfl⟩) ?_
  rw [hComplete, if_pos rfl]
  refine leaves_of_ends (a := some bracketPath) rfl ?_
  exact leaves_of_fails (fails_writeFile hPlace hNew hOctets hPrinted) ⟨rfl, hFile⟩

theorem leaves_perform_bracketRun : ∃ e, Leaves (perform bracketRun bracketArguments)
    { tree := bracketRun.tree } fun r st =>
      r = .error (.console e) ∧ st.tree.isFile bracketPath = .ok true := by
  obtain ⟨st₁, hTable⟩ := ends_readTable_bracketRun
  have hTree : st₁.tree = bracketRun.tree := State.tree_eq ((keeps_readTable _ _).of_ends hTable)
  have hSettings : Ends (readSettings bracketRun bracketArguments) st₁ {} st₁ := rfl
  obtain ⟨e, hOutput⟩ := leaves_outputOne_bracketRun hTree
  refine ⟨e, leaves_of_ends (a := ()) rfl (leaves_of_ends hTable (leaves_of_ends hSettings ?_))⟩
  refine leaves_bind (fun f st hFails => ?_) fun written st hEnds => ?_
  · obtain ⟨hSame, hFile⟩ := Leaves.of_fails hOutput hFails
    exact ⟨congrArg Except.error (Except.error.inj hSame), hFile⟩
  · cases (Leaves.of_ends hOutput hEnds).1

theorem isFile_bracketPath : bracketRun.tree.isFile bracketPath = .ok false := rfl

/-- The run fails at the console, and afterwards the file is there. -/
theorem run_bracketRun : ∃ e, (run bracketRun bracketWords).status = .error (.console e) ∧
    (run bracketRun bracketWords).state.tree.isFile bracketPath = .ok true := by
  obtain ⟨e, hPerform⟩ := leaves_perform_bracketRun
  have hRun : Leaves (tryCatch (perform bracketRun bracketArguments) report)
      { tree := bracketRun.tree }
      fun r st => r = .error (.console e) ∧ st.tree.isFile bracketPath = .ok true := by
    refine leaves_tryCatch (fun n st hEnds => ?_) fun f st hFails => ?_
    · cases (Leaves.of_ends hPerform hEnds).1
    · -- What the console cannot print is not reported.
      obtain ⟨hSame, hFile⟩ := Leaves.of_fails hPerform hFails
      cases hSame
      exact ⟨rfl, hFile⟩
  obtain ⟨st, ⟨hStatus, hFile⟩, hOutputs⟩ := exists_leaves_runWith rfl hRun
  have hReads : run bracketRun bracketWords = runWith bracketRun bracketArguments := by
    rw [run, read_bracketWords]
  rw [hReads, State.tree_eq hOutputs]
  exact ⟨e, hStatus, hFile⟩

/-- The run fails with the class in its file, since something about it cannot be said. -/
theorem run_delivers_bracketRun :
    Arguments.read bracketWords = .ok bracketArguments ∧ given bracketArguments.outputDir = none ∧
      ∃ s source f, Produced bracketRun bracketArguments s source ∧
        PutOut bracketArguments s source.code bracketRun.tree
          (run bracketRun bracketWords).state.outputs ∧
        (run bracketRun bracketWords).status = .error f ∧
        Unsaid bracketArguments s source f := by
  obtain ⟨e, hStatus, hFile⟩ := run_bracketRun
  refine ⟨read_bracketWords, rfl, ?_⟩
  rcases (run_delivers (w := bracketRun) read_bracketWords).2 rfl with
    ⟨hOutputs, -⟩ | ⟨s, source, hMade, hOut, hZero | ⟨f, hFails, hUnsaid⟩⟩ |
      ⟨s, source, u, -, -, -, hFails⟩
  · -- The file was not there before.
    let before : State := { tree := bracketRun.tree }
    have hTree : (run bracketRun bracketWords).state.tree = before.tree := State.tree_eq hOutputs
    rw [hTree, isFile_bracketPath] at hFile
    exact absurd (Except.ok.inj hFile) Bool.false_ne_true
  · cases hStatus.symm.trans hZero
  · exact ⟨s, source, f, hMade, hOut, hFails, hUnsaid⟩
  · cases hStatus.symm.trans hFails

/-- The file was not there before the run, the run fails, and afterwards the file is there. -/
theorem delivered_bracketRun :
    Arguments.read bracketWords = .ok bracketArguments ∧
      bracketRun.tree.isFile bracketPath = .ok false ∧
      (∃ e, (run bracketRun bracketWords).status = .error (.console e)) ∧
      (run bracketRun bracketWords).state.tree.isFile bracketPath = .ok true := by
  obtain ⟨e, hStatus, hFile⟩ := run_bracketRun
  exact ⟨read_bracketWords, isFile_bracketPath, ⟨e, hStatus⟩, hFile⟩

end ResourceSymbols.Command
