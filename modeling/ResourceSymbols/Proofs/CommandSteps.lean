import ResourceSymbols.Command.Program
import ResourceSymbols.Proofs.Outcome

/-!
# Steps of the command

A step of the command ends with a value or with a failure, and leaves a state in either
case.  Here a step that ends with a value is taken apart into its smaller steps, and what
the steps leave alone is told once for each of them: until the classes are written, a run
only prints messages, logs and makes requests.

## Main results

* `ends_bind_iff`, `keeps_bind`, `yields_bind` — one step after another.
* `leaves_bind`, `leaves_tryCatch` — whatever comes of one step after another.
* `keeps_readTable`, `keeps_readSettings`, `keeps_printFields` — steps that change no
  output.
* `exists_ends_readTable` — a table on the standard input.
* `status_runWith_eq_zero_iff`, `outputs_runWith` — a run with status 0 did what its
  arguments ask for.
-/

namespace ResourceSymbols.Command

open ResourceSymbols.Outcome (Meets run_bind run_tryCatch)

section

variable {α β γ : Type}

/-! ## Steps that end with a value -/

/-- From the first state the step ends with the value, in the second state. -/
def Ends (x : Act α) (st : State) (a : α) (st' : State) : Prop :=
  x.run.run st = (.ok a, st')

theorem ends_pure_iff {a b : α} {st st' : State} :
    Ends (pure a) st b st' ↔ a = b ∧ st' = st := by
  show ((Except.ok a, st) : Except Failure α × State) = (.ok b, st') ↔ _
  rw [Prod.mk.injEq, Except.ok.injEq, eq_comm (a := st)]

theorem not_ends_throw {f : Failure} {a : α} {st st' : State} :
    ¬ Ends (throw f : Act α) st a st' := by
  intro hEnds
  cases hEnds

theorem ends_bind_iff {x : Act α} {f : α → Act β} {b : β} {st st' : State} :
    Ends (x >>= f) st b st' ↔ ∃ a st₁, Ends x st a st₁ ∧ Ends (f a) st₁ b st' := by
  unfold Ends
  rw [run_bind]
  rcases x.run.run st with ⟨e | a, st₁⟩
  · constructor
    · intro hStop
      cases hStop
    · rintro ⟨a, st₂, hFirst, -⟩
      cases hFirst
  · constructor
    · exact fun hRest => ⟨a, st₁, rfl, hRest⟩
    · rintro ⟨_, _, hFirst, hRest⟩
      cases hFirst
      exact hRest

theorem ends_modify_iff {f : State → State} {u : Unit} {st st' : State} :
    Ends (modify f) st u st' ↔ st' = f st := by
  show ((Except.ok (), f st) : Except Failure Unit × State) = (.ok u, st') ↔ _
  rw [Prod.mk.injEq, eq_comm (a := f st)]
  exact and_iff_right rfl

theorem ends_get_iff {a st st' : State} : Ends get st a st' ↔ st = a ∧ st' = st := by
  show ((Except.ok st, st) : Except Failure State × State) = (.ok a, st') ↔ _
  rw [Prod.mk.injEq, Except.ok.injEq, eq_comm (a := st) (b := st')]

theorem ends_orFail_iff {ε : Type} {failure : ε → Failure} {x : Except ε α} {a : α}
    {st st' : State} : Ends (orFail failure x) st a st' ↔ x = .ok a ∧ st' = st := by
  unfold orFail
  cases x with
  | ok b => simp only [ends_pure_iff, Except.ok.injEq]
  | error e => simp only [not_ends_throw, reduceCtorEq, false_and]

theorem ends_record_iff {records : List Log.Record} {u : Unit} {st st' : State} :
    Ends (record records) st u st' ↔ st' = { st with log := st.log ++ records } :=
  ends_modify_iff

/-- A text is printed if its tags can be made out. -/
theorem ends_say_iff {markup : String} {u : Unit} {st st' : State} :
    Ends (say markup) st u st' ↔ ∃ text, Console.printed markup = .ok text ∧
      st' = { st with stderr := st.stderr ++ text } := by
  unfold say
  cases Console.printed markup with
  | ok text => simp only [ends_modify_iff, Except.ok.injEq, exists_eq_left']
  | error e => simp only [not_ends_throw, reduceCtorEq, false_and, exists_false]

/-! ## What a step leaves alone -/

/-- Whatever comes of the step, `view` shows the same afterwards. -/
def Keeps (view : State → γ) (x : Act α) : Prop := ∀ st, view (x.run.run st).2 = view st

variable {view : State → γ}

theorem Keeps.of_ends {x : Act α} (hKeeps : Keeps view x) {st st' : State} {a : α}
    (hEnds : Ends x st a st') : view st' = view st := by
  have hAfter := hKeeps st
  rwa [hEnds] at hAfter

theorem keeps_pure (a : α) : Keeps view (pure a : Act α) := fun _ => rfl

theorem keeps_throw (f : Failure) : Keeps view (throw f : Act α) := fun _ => rfl

theorem keeps_bind {x : Act α} {f : α → Act β} (hx : Keeps view x)
    (hf : ∀ a, Keeps view (f a)) : Keeps view (x >>= f) := by
  intro st
  have hFirst := hx st
  rw [run_bind]
  rcases hRun : x.run.run st with ⟨_ | a, st₁⟩
  · rw [hRun] at hFirst
    exact hFirst
  · rw [hRun] at hFirst
    exact (hf a st₁).trans hFirst

theorem keeps_modify {f : State → State} (hf : ∀ st, view (f st) = view st) :
    Keeps view (modify f) := hf

theorem keeps_orFail {ε : Type} (failure : ε → Failure) (x : Except ε α) :
    Keeps view (orFail failure x) := by
  unfold orFail
  cases x with
  | ok a => exact keeps_pure a
  | error e => exact keeps_throw (failure e)

theorem keeps_get : Keeps view get := fun _ => rfl

/-- What shows less stays the same as well. -/
theorem Keeps.comp {δ : Type} {x : Act α} (hKeeps : Keeps view x) (less : γ → δ) :
    Keeps (fun st => less (view st)) x := fun st => congrArg less (hKeeps st)

theorem keeps_forM {xs : List β} {f : β → Act PUnit} (hf : ∀ x, Keeps view (f x)) :
    Keeps view (xs.forM f) := by
  induction xs with
  | nil => exact keeps_pure _
  | cons x xs ih => exact keeps_bind (hf x) fun _ => ih

end

/-! ## Whatever comes of a step -/

section

variable {α β γ : Type}

/-- From the first state the step fails, in the second state. -/
def Fails (x : Act α) (st : State) (f : Failure) (st' : State) : Prop :=
  x.run.run st = (.error f, st')

/-- Whatever comes of the step from the state, `after` holds of it and of the state that it
leaves. -/
def Leaves (x : Act α) (st : State) (after : Except Failure α → State → Prop) : Prop :=
  after (x.run.run st).1 (x.run.run st).2

variable {x : Act α} {g : α → Act β} {st : State}

theorem Leaves.of_ends {after : Except Failure α → State → Prop} (hLeaves : Leaves x st after)
    {a : α} {st' : State} (hEnds : Ends x st a st') : after (.ok a) st' := by
  unfold Leaves at hLeaves
  rwa [hEnds] at hLeaves

theorem Leaves.of_fails {after : Except Failure α → State → Prop} (hLeaves : Leaves x st after)
    {f : Failure} {st' : State} (hFails : Fails x st f st') : after (.error f) st' := by
  unfold Leaves at hLeaves
  rwa [hFails] at hLeaves

theorem Leaves.mono {after others : Except Failure α → State → Prop} (hLeaves : Leaves x st after)
    (hOthers : ∀ r st', after r st' → others r st') : Leaves x st others :=
  hOthers _ _ hLeaves

theorem leaves_pure {after : Except Failure α → State → Prop} {a : α} (h : after (.ok a) st) :
    Leaves (pure a) st after := h

theorem leaves_throw {after : Except Failure α → State → Prop} {f : Failure}
    (h : after (.error f) st) : Leaves (throw f) st after := h

theorem not_fails_modify {change : State → State} {f : Failure} {st' : State} :
    ¬ Fails (modify change) st f st' := by
  intro hFails
  cases hFails

theorem fails_throw_iff {f f' : Failure} {st' : State} :
    Fails (throw f : Act α) st f' st' ↔ f' = f ∧ st' = st := by
  show ((Except.error f, st) : Except Failure α × State) = (.error f', st') ↔ _
  rw [Prod.mk.injEq, Except.error.injEq, eq_comm, eq_comm (a := st)]

/-- A text is not printed if its tags cannot be made out. -/
theorem fails_say_iff {markup : String} {f : Failure} {st' : State} :
    Fails (say markup) st f st' ↔
      ∃ e, Console.printed markup = .error e ∧ f = .console e ∧ st' = st := by
  unfold say
  cases Console.printed markup with
  | ok text => simp only [not_fails_modify, reduceCtorEq, false_and, exists_false]
  | error e => simp only [fails_throw_iff, Except.error.injEq, exists_eq_left']

/-- One step after another: the first one fails, or the second one starts from the state that
the first one leaves. -/
theorem leaves_bind {after : Except Failure β → State → Prop}
    (hStop : ∀ f st', Fails x st f st' → after (.error f) st')
    (hNext : ∀ a st', Ends x st a st' → Leaves (g a) st' after) : Leaves (x >>= g) st after := by
  unfold Leaves
  rw [run_bind]
  rcases hFirst : x.run.run st with ⟨f | a, st'⟩
  · exact hStop f st' hFirst
  · exact hNext a st' hFirst

theorem leaves_of_ends {after : Except Failure β → State → Prop} {a : α} {st' : State}
    (hEnds : Ends x st a st') (hNext : Leaves (g a) st' after) : Leaves (x >>= g) st after := by
  unfold Leaves
  rw [run_bind, hEnds]
  exact hNext

theorem leaves_of_fails {after : Except Failure β → State → Prop} {f : Failure} {st' : State}
    (hFails : Fails x st f st') (hStop : after (.error f) st') : Leaves (x >>= g) st after := by
  unfold Leaves
  rw [run_bind, hFails]
  exact hStop

/-- A failure is handled from the state in which the step fails. -/
theorem leaves_tryCatch {after : Except Failure α → State → Prop} {handler : Failure → Act α}
    (hEnd : ∀ a st', Ends x st a st' → after (.ok a) st')
    (hCatch : ∀ f st', Fails x st f st' → Leaves (handler f) st' after) :
    Leaves (tryCatch x handler) st after := by
  unfold Leaves
  rw [run_tryCatch]
  rcases hFirst : x.run.run st with ⟨f | a, st'⟩
  · exact hCatch f st' hFirst
  · exact hEnd a st' hFirst

theorem Keeps.of_fails {view : State → γ} (hKeeps : Keeps view x) {f : Failure} {st' : State}
    (hFails : Fails x st f st') : view st' = view st := by
  have hAfter := hKeeps st
  rwa [hFails] at hAfter

theorem keeps_tryCatch {view : State → γ} {handler : Failure → Act α} (hKeeps : Keeps view x)
    (hHandler : ∀ f, Keeps view (handler f)) : Keeps view (tryCatch x handler) := by
  intro st
  have hWhole : Leaves (tryCatch x handler) st fun _ st' => view st' = view st :=
    leaves_tryCatch (fun _ _ hEnds => hKeeps.of_ends hEnds) fun f st' hFails =>
      (hHandler f st').trans (hKeeps.of_fails hFails)
  exact hWhole

/-- After a step that changes nothing in sight there is nothing new to see. -/
theorem leaves_bind_keeps {view : State → γ} {after : Except Failure β → State → Prop}
    (hKeeps : Keeps view x) (hStop : ∀ f st', view st' = view st → after (.error f) st')
    (hNext : ∀ a st', Ends x st a st' → view st' = view st → Leaves (g a) st' after) :
    Leaves (x >>= g) st after :=
  leaves_bind (fun f st' hFails => hStop f st' (hKeeps.of_fails hFails))
    fun a st' hEnds => hNext a st' hEnds (hKeeps.of_ends hEnds)

end

/-! ## What a step comes to -/

section

variable {α β : Type} {good : α → Prop} {expected : Failure → Prop}

/-- Whatever state the step starts from, its value is good, or its failure is one that is
expected. -/
def Yields (good : α → Prop) (expected : Failure → Prop) (x : Act α) : Prop :=
  ∀ st, Meets good expected (x.run.run st).1

theorem Yields.of_ends {x : Act α} (h : Yields good expected x) {st st' : State} {a : α}
    (hEnds : Ends x st a st') : good a := by
  have hFirst := h st
  rw [hEnds] at hFirst
  cases hFirst with
  | ok h => exact h

theorem Yields.of_fails {x : Act α} (h : Yields good expected x) {st st' : State} {f : Failure}
    (hFails : Fails x st f st') : expected f := by
  have hFirst := h st
  rw [hFails] at hFirst
  cases hFirst with
  | error h => exact h

theorem yields_pure {a : α} (h : good a) : Yields good expected (pure a) := fun _ => .ok h

theorem yields_throw {f : Failure} (h : expected f) : Yields good expected (throw f : Act α) :=
  fun _ => .error h

theorem yields_bind {goal : β → Prop} {x : Act α} {f : α → Act β} (hx : Yields good expected x)
    (hf : ∀ a, good a → Yields goal expected (f a)) : Yields goal expected (x >>= f) := by
  intro st
  have hFirst := hx st
  rw [run_bind]
  rcases hRun : x.run.run st with ⟨_ | a, st₁⟩
  · rw [hRun] at hFirst
    cases hFirst with
    | error h => exact .error h
  · rw [hRun] at hFirst
    cases hFirst with
    | ok h => exact hf a h st₁

theorem Yields.mono {others : Failure → Prop} {x : Act α} (h : Yields good expected x)
    (hOthers : ∀ f, expected f → others f) : Yields good others x :=
  fun st => (h st).mono hOthers

theorem yields_modify (f : State → State) : Yields (fun _ => True) expected (modify f) :=
  fun _ => .ok trivial

theorem yields_get : Yields (fun _ => True) expected get := fun _ => .ok trivial

theorem yields_record (records : List Log.Record) :
    Yields (fun _ => True) expected (record records) := yields_modify _

theorem yields_orFail {ε : Type} {failure : ε → Failure} {x : Except ε α}
    (h : Meets good (fun e => expected (failure e)) x) :
    Yields good expected (orFail failure x) := by
  unfold orFail
  cases h with
  | ok h => exact yields_pure h
  | error h => exact yields_throw h

theorem yields_forM {xs : List β} {f : β → Act PUnit}
    (hf : ∀ x ∈ xs, Yields (fun _ => True) expected (f x)) :
    Yields (fun _ => True) expected (xs.forM f) := by
  induction xs with
  | nil => exact yields_pure trivial
  | cons x xs ih =>
      rw [List.forall_mem_cons] at hf
      exact yields_bind hf.1 fun _ _ => ih hf.2

end

/-! ## Steps that change no output -/

/-- What a run leaves behind, its messages and its log apart: the files and the standard
output. -/
def State.outputs (st : State) : Files.Tree × String := (st.tree, st.stdout)

theorem State.tree_eq {st st' : State} (hSame : st'.outputs = st.outputs) :
    st'.tree = st.tree := congrArg Prod.fst hSame

theorem keeps_record (records : List Log.Record) : Keeps State.outputs (record records) :=
  keeps_modify fun _ => rfl

theorem keeps_say (markup : String) : Keeps State.outputs (say markup) := by
  unfold say
  cases Console.printed markup with
  | ok text => exact keeps_modify fun _ => rfl
  | error e => exact keeps_throw _

theorem keeps_readStdin (octets : List UInt8) : Keeps State.outputs (readStdin octets) := by
  unfold readStdin
  refine keeps_bind (keeps_orFail _ _) fun text => ?_
  split
  · exact keeps_pure _
  · exact keeps_throw _
  · exact keeps_throw _

theorem keeps_readDocument (w : Surroundings) (a : Arguments) :
    Keeps State.outputs (readDocument w a) := by
  unfold readDocument
  split
  · refine keeps_bind (keeps_modify fun _ => rfl) fun _ => ?_
    refine keeps_bind (keeps_record _) fun _ => ?_
    exact keeps_bind (keeps_orFail _ _) fun _ => keeps_pure _
  · split
    · exact keeps_readStdin w.stdin
    · exact keeps_throw _

theorem keeps_readTable (w : Surroundings) (a : Arguments) :
    Keeps State.outputs (readTable w a) := by
  unfold readTable
  refine keeps_bind (keeps_readDocument w a) fun v => ?_
  refine keeps_bind (keeps_orFail _ _) fun t => ?_
  exact keeps_bind (keeps_record _) fun _ => keeps_pure _

theorem keeps_readSettings (w : Surroundings) (a : Arguments) :
    Keeps State.outputs (readSettings w a) := by
  unfold readSettings
  refine keeps_bind (keeps_orFail _ _) fun s => ?_
  refine keeps_bind (keeps_orFail _ _) fun warnings => ?_
  exact keeps_bind (keeps_forM fun _ => keeps_say _) fun _ => keeps_pure _

theorem keeps_printFields (fields : Json.Members) : Keeps State.outputs (printFields fields) := by
  unfold printFields
  split
  · refine keeps_bind (keeps_say _) fun _ => ?_
    exact keeps_bind (keeps_orFail _ _) fun _ => keeps_modify fun _ => rfl
  · exact keeps_throw _

theorem keeps_checkOutputs (a : Arguments) : Keeps State.outputs (checkOutputs a) := by
  unfold checkOutputs
  split
  · exact keeps_throw _
  · split
    · exact keeps_throw _
    · exact keeps_pure _

theorem keeps_outputPath (a : Arguments) (s : Settings) :
    Keeps State.outputs (outputPath a s) := by
  unfold outputPath
  split
  · exact keeps_pure _
  · split
    · split
      · exact keeps_pure _
      · exact keeps_throw _
    · exact keeps_pure _

theorem keeps_report (f : Failure) : Keeps State.outputs (report f) := by
  unfold report
  split
  · refine keeps_bind (keeps_say _) fun _ => ?_
    split
    · exact keeps_bind (keeps_record _) fun _ => keeps_pure _
    · exact keeps_pure _
  · exact keeps_throw _

/-! ## What is asked for -/

/-- Outputs go together unless all packages are asked for without a directory, or a file
is given beside the directory. -/
theorem ends_checkOutputs_iff {a : Arguments} {u : Unit} {st st' : State} :
    Ends (checkOutputs a) st u st' ↔
      (a.allPackages = true → (given a.outputDir).isSome = true) ∧
      ((given a.output).isSome = true → given a.outputDir = none) ∧ st' = st := by
  unfold checkOutputs
  cases a.allPackages <;> cases given a.output <;> cases given a.outputDir <;>
    simp [not_ends_throw, ends_pure_iff]

/-! ## What is read -/

section

variable {w : Surroundings} {a : Arguments} {st st' : State}

/-- The settings in force are those that are loaded. -/
theorem load_of_readSettings {s : Settings} (hEnds : Ends (readSettings w a) st s st') :
    Settings.load w.tree (.object (overrides a)) (.ofText? a.config) = .ok s := by
  unfold readSettings at hEnds
  obtain ⟨u, st₁, hLoad, hEnds⟩ := ends_bind_iff.1 hEnds
  obtain ⟨_, st₂, -, hEnds⟩ := ends_bind_iff.1 hEnds
  obtain ⟨_, st₃, -, hEnds⟩ := ends_bind_iff.1 hEnds
  obtain ⟨rfl, -⟩ := ends_pure_iff.1 hEnds
  exact (ends_orFail_iff.1 hLoad).1

/-- A table on the standard input is read. -/
theorem exists_ends_readTable {text : List Char} {v : Json.Value} {t : Resource.Table}
    (hFile : given a.file = none) (hUrl : given a.url = none) (hStdin : a.stdin = true)
    (hText : Text.Utf8.decode w.stdin = .ok text)
    (hRead : Json.Value.read (Text.foldLineEnds text) = .ok v)
    (hTable : Resource.Table.ofDocument v = .ok t) : ∃ st', Ends (readTable w a) st t st' := by
  have hDocument : Ends (readDocument w a) st v st := by
    unfold readDocument
    rw [if_neg (by simp [hFile, hUrl]), if_pos hStdin]
    refine ends_bind_iff.2 ⟨text, st, ends_orFail_iff.2 ⟨hText, rfl⟩, ?_⟩
    rw [hRead]
    exact ends_pure_iff.2 ⟨rfl, rfl⟩
  exact ⟨_, ends_bind_iff.2 ⟨v, st, hDocument,
    ends_bind_iff.2 ⟨t, st, ends_orFail_iff.2 ⟨hTable, rfl⟩,
      ends_bind_iff.2 ⟨(), _, ends_record_iff.2 rfl, ends_pure_iff.2 ⟨rfl, rfl⟩⟩⟩⟩⟩

/-! ## Whole runs -/

/-- A report ends with status 1. -/
theorem eq_one_of_report {f : Failure} {n : Nat} (hEnds : Ends (report f) st n st') : n = 1 := by
  unfold report at hEnds
  split at hEnds
  · obtain ⟨_, st₁, -, hEnds⟩ := ends_bind_iff.1 hEnds
    split at hEnds
    · obtain ⟨_, st₂, -, hEnds⟩ := ends_bind_iff.1 hEnds
      exact (ends_pure_iff.1 hEnds).1.symm
    · exact (ends_pure_iff.1 hEnds).1.symm
  · exact absurd hEnds not_ends_throw

/-- A run has status 0 exactly when everything that its arguments ask for was done. -/
theorem status_runWith_eq_zero_iff :
    (runWith w a).status = .ok 0 ↔
      a.logLevel.isSome = true ∧ ∃ st, Ends (perform w a) { tree := w.tree } 0 st := by
  unfold runWith
  cases a.logLevel with
  | none => simp
  | some level =>
      simp only [run_tryCatch, Option.isSome_some, true_and]
      unfold Ends
      rcases hPerform : (perform w a).run.run { tree := w.tree } with ⟨f | n, st⟩
      · -- What failed is reported, and so the status is not 0.
        constructor
        · intro hStatus
          have hReport : Ends (report f) st 0 ((report f).run.run st).2 :=
            Prod.ext hStatus rfl
          cases eq_one_of_report hReport
        · rintro ⟨st', hEnds⟩
          cases hEnds
      · constructor
        · intro hStatus
          exact ⟨st, Prod.ext hStatus rfl⟩
        · rintro ⟨st', hEnds⟩
          cases hEnds
          rfl

/-- What was done is what the run leaves behind. -/
theorem outputs_runWith {n : Nat} (hLevel : a.logLevel.isSome = true)
    (hEnds : Ends (perform w a) { tree := w.tree } n st) :
    (runWith w a).state.outputs = st.outputs := by
  unfold Ends at hEnds
  unfold runWith
  cases hValue : a.logLevel with
  | none => simp [hValue] at hLevel
  | some level =>
      simp only [run_tryCatch, hEnds]
      rfl

end

end ResourceSymbols.Command
