import ResourceSymbols.Log.Setup
import ResourceSymbols.Proofs.Outcome

/-!
# Calls that set up the log

A run of the program asks for loggers and sets up the log, any number of times and with any
arguments.  Here a set-up is told as its changes to the log, one after the other, and those
made before a failure stay.  The level comes first and is checked before it is set, so a
failure leaves no change behind.

## Main results

* `perform_setUp` — the changes one by one come to the set-up as a whole.
* `perform_cases` — what one call does to the log.
* `history_cases` — what any row of calls does to it.
* `loggerName_cases`, `loggerName_loggerName` — the names of loggers.
* `levelGiven_eq_ok_iff`, `setUp_succeeds_iff` — which arguments ask for a level, and for
  which one.
* `log_after_calls` — the log after any row of calls from the start.
-/

namespace ResourceSymbols.Log

open ResourceSymbols.Outcome (run_bind)

/-! ## Steps -/

/-- Why a call fails. -/
inductive CallError
  | level (e : LevelError)
  | misuse (m : Json.Misuse)

/-- A step on the log.  What it changed before it failed stays changed. -/
abbrev Step := ExceptT CallError (StateM Setup)

/-- The level that an argument asks for.  One that is left out asks for the usual level, and
null is no level where it is given. -/
def levelGiven : Option Json.Value → Except LevelError Level
  | none => levelOf .null
  | some .null => .error (.notALevel "None")
  | some v => levelOf v

/-- Checks the argument, and then sets the level. -/
def setLevel (argument : Option Json.Value) : Step Unit :=
  match levelGiven argument with
  | .ok level => modify fun s => { s with level }
  | .error e => throw (.level e)

/-- Adds a handler. -/
def addHandler : Step Unit := modify fun s => { s with handlers := s.handlers + 1 }

/-- Makes the log keep its records to itself. -/
def keepRecords : Step Unit := modify fun s => { s with propagates := false }

/-- Gives the log a handler of its own, if it has none. -/
def provideHandler : Step Unit := do
  if (← get).handlers = 0 then
    addHandler
    keepRecords

/-- Sets up the log and gives its name. -/
def setUp (argument : Option Json.Value) : Step String := do
  setLevel argument
  provideHandler
  return rootName

/-- Gives the name of a logger.  Only a text names one. -/
def getLogger : Json.Value → Step String
  | .text name => pure (loggerName name)
  | v => throw (.misuse (.noOperation v.kindName "startswith"))

theorem run_setLevel (argument : Option Json.Value) (s : Setup) :
    (setLevel argument).run.run s =
      match levelGiven argument with
      | .ok level => (.ok (), { s with level })
      | .error e => (.error (.level e), s) := by
  unfold setLevel
  cases levelGiven argument <;> rfl

theorem run_provideHandler (s : Setup) :
    provideHandler.run.run s =
      (.ok (), if s.handlers = 0 then { s with handlers := 1, propagates := false } else s) := by
  show (if s.handlers = 0 then do { addHandler; keepRecords } else pure () : Step Unit).run.run s
    = _
  by_cases hNone : s.handlers = 0
  · have hSteps : (do { addHandler; keepRecords } : Step Unit).run.run s =
        (.ok (), { s with handlers := s.handlers + 1, propagates := false }) := rfl
    rw [if_pos hNone, if_pos hNone, hSteps, hNone]
  · rw [if_neg hNone, if_neg hNone]
    rfl

theorem getLogger_keeps (name : Json.Value) (s : Setup) :
    ((getLogger name).run.run s).2 = s := by
  cases name <;> rfl

/-! ## Set-ups -/

/-- The log with that level, and with its handler. -/
def Setup.withLevel (s : Setup) (level : Level) : Setup :=
  if s.handlers = 0 then { level, handlers := 1, propagates := false } else { s with level }

/-- The level that was given last is the level. -/
theorem Setup.withLevel_withLevel (s : Setup) (first last : Level) :
    (s.withLevel first).withLevel last = s.withLevel last := by
  by_cases hNone : s.handlers = 0
  · simp [withLevel, hNone]
  · simp [withLevel, hNone]

/-- The set-up of a log as a whole, with an argument that may be left out. -/
def Setup.atGiven (s : Setup) : Option Json.Value → Except LevelError Setup
  | none => s.atLevel .null
  | some .null => .error (.notALevel "None")
  | some v => s.atLevel v

theorem Setup.atGiven_eq (s : Setup) (argument : Option Json.Value) :
    s.atGiven argument = (levelGiven argument).map s.withLevel := by
  cases argument with
  | none => rfl
  | some v => cases v <;> rfl

/-- A set-up succeeds as a whole, or it changes nothing. -/
theorem run_setUp (argument : Option Json.Value) (s : Setup) :
    (setUp argument).run.run s =
      match s.atGiven argument with
      | .ok s' => (.ok rootName, s')
      | .error e => (.error (.level e), s) := by
  rw [s.atGiven_eq, setUp, run_bind, run_setLevel]
  cases levelGiven argument with
  | error e => rfl
  | ok level =>
      show (provideHandler >>= fun _ => pure rootName : Step String).run.run { s with level } =
        (.ok rootName, s.withLevel level)
      rw [run_bind, run_provideHandler, Setup.withLevel]
      rfl

/-! ## Calls -/

/-- A call that concerns the log. -/
inductive Call
  | getLogger (name : Json.Value)
  | setUp (level : Option Json.Value)

/-- What the call does; it gives the name of a logger. -/
def Call.perform : Call → Step String
  | getLogger name => Log.getLogger name
  | setUp level => Log.setUp level

/-- A call and what came of it. -/
structure Event where
  call : Call
  outcome : Except CallError String

/-- The event is a set-up that succeeded. -/
def Event.IsSetUp (e : Event) : Prop := ∃ argument name, e = ⟨.setUp argument, .ok name⟩

/-- The last set-up among the events that succeeded had that argument. -/
def LastSetUp (events : List Event) (argument : Option Json.Value) : Prop :=
  ∃ before name after, events = before ++ ⟨.setUp argument, .ok name⟩ :: after ∧
    ∀ e ∈ after, ¬ e.IsSetUp

/-- Makes the calls one after the other, whatever comes of each. -/
def history : List Call → StateM Setup (List Event)
  | [] => pure []
  | call :: calls => do
    let outcome ← call.perform.run
    let events ← history calls
    return ⟨call, outcome⟩ :: events

/-- One call sets up the log and succeeds, or it leaves the log as it was. -/
theorem perform_cases (call : Call) (s : Setup) :
    let (outcome, s') := call.perform.run.run s
    (¬ Event.IsSetUp ⟨call, outcome⟩ ∧ s' = s) ∨
      ∃ argument name level, call = .setUp argument ∧ outcome = .ok name ∧
        levelGiven argument = .ok level ∧ s' = s.withLevel level := by
  cases call with
  | getLogger name =>
      refine .inl ⟨?_, getLogger_keeps name s⟩
      rintro ⟨argument, _, hEvent⟩
      cases hEvent
  | setUp argument =>
      rw [Call.perform, run_setUp, s.atGiven_eq]
      cases hLevel : levelGiven argument with
      | error e =>
          refine .inl ⟨?_, rfl⟩
          rintro ⟨_, name, hEvent⟩
          cases hEvent
      | ok level => exact .inr ⟨argument, rootName, level, rfl, rfl, hLevel, rfl⟩

/-- A call that fails leaves the log as it was. -/
theorem perform_error {call : Call} {s s' : Setup} {e : CallError}
    (hFails : call.perform.run.run s = (.error e, s')) : s' = s := by
  have hCases := perform_cases call s
  rw [hFails] at hCases
  rcases hCases with ⟨-, hSame⟩ | ⟨_, _, _, -, hNever, -⟩
  · exact hSame
  · cases hNever

/-- After any row of calls the log is as it was, if none of them set it up, and otherwise
has the level of the last that did. -/
theorem history_cases (calls : List Call) (s : Setup) :
    let (events, s') := (history calls).run s
    ((∀ e ∈ events, ¬ e.IsSetUp) ∧ s' = s) ∨
      ∃ argument level, LastSetUp events argument ∧ levelGiven argument = .ok level ∧
        s' = s.withLevel level := by
  induction calls generalizing s with
  | nil => exact .inl ⟨List.forall_mem_nil _, rfl⟩
  | cons call calls ih =>
      have hFirst := perform_cases call s
      have hRun : (history (call :: calls)).run s =
          (⟨call, (call.perform.run.run s).1⟩ ::
              ((history calls).run (call.perform.run.run s).2).1,
            ((history calls).run (call.perform.run.run s).2).2) := rfl
      rw [hRun]
      generalize call.perform.run.run s = first at hFirst
      obtain ⟨outcome, s₁⟩ := first
      have hRest := ih s₁
      generalize (history calls).run s₁ = rest at hRest
      obtain ⟨events, s₂⟩ := rest
      rcases hRest with ⟨hNone, rfl⟩ | ⟨argument, level, ⟨before, name, after, rfl, hLast⟩,
        hLevel, rfl⟩
      · -- The first call is the last that can have set up the log.
        rcases hFirst with ⟨hNot, rfl⟩ | ⟨argument, name, level, rfl, rfl, hLevel, rfl⟩
        · exact .inl ⟨List.forall_mem_cons.2 ⟨hNot, hNone⟩, rfl⟩
        · exact .inr ⟨argument, level, ⟨[], name, events, rfl, hNone⟩, hLevel, rfl⟩
      · -- A later call sets the level, whatever the first one did.
        refine .inr ⟨argument, level,
          ⟨⟨call, outcome⟩ :: before, name, after, rfl, hLast⟩, hLevel, ?_⟩
        rcases hFirst with ⟨-, rfl⟩ | ⟨_, _, earlier, -, -, -, rfl⟩
        · rfl
        · exact s.withLevel_withLevel earlier level

/-- There is an event for each call, in the same order. -/
theorem map_call_history (calls : List Call) (s : Setup) :
    ((history calls).run s).1.map Event.call = calls := by
  induction calls generalizing s with
  | nil => rfl
  | cons call calls ih =>
      show call :: _ = call :: calls
      rw [List.cons.injEq]
      exact ⟨rfl, ih _⟩

/-! ## Names of loggers -/

/-- A logger is called by the name that all start with, or has it and a point in front. -/
theorem loggerName_cases (name : String) :
    loggerName name = rootName ∨ ∃ rest, loggerName name = rootName ++ "." ++ rest := by
  unfold loggerName
  split
  · rename_i hOwn
    rw [Bool.or_eq_true, decide_eq_true_eq, List.isPrefixOf_iff_prefix] at hOwn
    rcases hOwn with hRoot | ⟨rest, hRest⟩
    · exact .inl hRoot
    · refine .inr ⟨String.ofList rest, String.toList_injective ?_⟩
      rw [String.toList_append, String.toList_ofList, hRest]
  · exact .inr ⟨name, rfl⟩

/-- The name of a logger is the name of the logger that it asks for. -/
theorem loggerName_loggerName (name : String) : loggerName (loggerName name) = loggerName name := by
  have hKept : (loggerName name = rootName ||
      (rootName ++ ".").toList.isPrefixOf (loggerName name).toList) = true := by
    rw [Bool.or_eq_true, decide_eq_true_eq, List.isPrefixOf_iff_prefix]
    rcases loggerName_cases name with hRoot | ⟨rest, hRest⟩
    · exact .inl hRoot
    · refine .inr ⟨rest.toList, ?_⟩
      rw [hRest]
      exact String.toList_append.symm
  generalize loggerName name = given at hKept ⊢
  rw [loggerName, if_pos hKept]

/-! ## Levels -/

/-- The names of levels, each with its number. -/
inductive Named : String → Int → Prop
  | critical : Named "CRITICAL" 50
  | fatal : Named "FATAL" 50
  | error : Named "ERROR" 40
  | warning : Named "WARNING" 30
  | warn : Named "WARN" 30
  | info : Named "INFO" 20
  | debug : Named "DEBUG" 10
  | notSet : Named "NOTSET" 0

/-- The argument of a set-up asks for the level.  A name may be in any case, and a
truth value stands for itself.  An argument that is left out asks for warnings. -/
inductive Asks : Option Json.Value → Level → Prop
  | leftOut : Asks none (.number 30)
  | number (n : Int) : Asks (some (.int n)) (.number n)
  | truth (b : Bool) : Asks (some (.bool b)) (.truth b)
  | named {s : String} {n : Int} (hNamed : Named (Text.upperCase s) n) :
      Asks (some (.text s)) (.number n)

theorem lookup_namedLevels_eq_some_iff {name : String} {n : Int} :
    namedLevels.lookup name = some n ↔ Named name n := by
  constructor
  · intro hLookup
    obtain ⟨before, after, hSplit, -⟩ := List.lookup_eq_some_iff.1 hLookup
    have hMem : (name, n) ∈ namedLevels := by simp [hSplit]
    simp only [namedLevels, List.mem_cons, List.not_mem_nil, or_false, Prod.mk.injEq] at hMem
    rcases hMem with ⟨rfl, rfl⟩ | ⟨rfl, rfl⟩ | ⟨rfl, rfl⟩ | ⟨rfl, rfl⟩ | ⟨rfl, rfl⟩ |
      ⟨rfl, rfl⟩ | ⟨rfl, rfl⟩ | ⟨rfl, rfl⟩ <;> constructor
  · intro hNamed
    cases hNamed <;> decide

/-- The levels that arguments ask for are those that they give. -/
theorem levelGiven_eq_ok_iff {argument : Option Json.Value} {level : Level} :
    levelGiven argument = .ok level ↔ Asks argument level := by
  constructor
  · intro hGiven
    match argument, hGiven with
    | none, hGiven =>
        obtain rfl := Except.ok.inj hGiven
        exact .leftOut
    | some (.int n), hGiven =>
        obtain rfl := Except.ok.inj hGiven
        exact .number n
    | some (.bool b), hGiven =>
        obtain rfl := Except.ok.inj hGiven
        exact .truth b
    | some (.text s), hGiven =>
        simp only [levelGiven, levelOf] at hGiven
        split at hGiven
        · rename_i n hLookup
          obtain rfl := Except.ok.inj hGiven
          exact .named (lookup_namedLevels_eq_some_iff.1 hLookup)
        · cases hGiven
    | some .null, hGiven => cases hGiven
    | some (.real x), hGiven | some (.list items), hGiven
    | some (.object members), hGiven =>
        simp only [levelGiven, levelOf] at hGiven
        split at hGiven <;> cases hGiven
  · intro hAsks
    cases hAsks with
    | leftOut => rfl
    | number n => rfl
    | truth b => rfl
    | named hNamed =>
        simp only [levelGiven, levelOf, lookup_namedLevels_eq_some_iff.2 hNamed]

/-- An argument asks for one level at most. -/
theorem Asks.unique {argument : Option Json.Value} {level level' : Level}
    (hAsks : Asks argument level) (hAsks' : Asks argument level') : level = level' :=
  Except.ok.inj ((levelGiven_eq_ok_iff.2 hAsks).symm.trans (levelGiven_eq_ok_iff.2 hAsks'))

/-- A set-up succeeds exactly if its argument asks for a level, whatever the log is
like. -/
theorem setUp_succeeds_iff (argument : Option Json.Value) (s : Setup) :
    (∃ name, ((Call.setUp argument).perform.run.run s).1 = .ok name) ↔
      ∃ level, Asks argument level := by
  rw [Call.perform, run_setUp, s.atGiven_eq]
  cases hGiven : levelGiven argument with
  | error e =>
      refine ⟨fun ⟨_, hName⟩ => (by cases hName), fun ⟨level, hAsks⟩ => ?_⟩
      rw [levelGiven_eq_ok_iff.2 hAsks] at hGiven
      cases hGiven
  | ok level => exact ⟨fun _ => ⟨level, levelGiven_eq_ok_iff.1 hGiven⟩, fun _ => ⟨rootName, rfl⟩⟩

/-- Of the calls of a row, the set-ups whose arguments ask for a level succeed, and no
others. -/
theorem isSetUp_of_mem_history {calls : List Call} {s : Setup} {e : Event}
    (hMem : e ∈ ((history calls).run s).1) :
    e.IsSetUp ↔ ∃ argument level, e.call = .setUp argument ∧ Asks argument level := by
  induction calls generalizing s with
  | nil => cases hMem
  | cons call calls ih =>
      have hRun : ((history (call :: calls)).run s).1 =
          ⟨call, (call.perform.run.run s).1⟩ ::
            ((history calls).run (call.perform.run.run s).2).1 := rfl
      rw [hRun, List.mem_cons] at hMem
      rcases hMem with rfl | hMem
      · constructor
        · rintro ⟨argument, name, hEvent⟩
          obtain ⟨rfl, hName⟩ := Event.mk.inj hEvent
          obtain ⟨level, hAsks⟩ := (setUp_succeeds_iff argument s).1 ⟨name, hName⟩
          exact ⟨argument, level, rfl, hAsks⟩
        · rintro ⟨argument, level, rfl, hAsks⟩
          obtain ⟨name, hName⟩ := (setUp_succeeds_iff argument s).2 ⟨level, hAsks⟩
          exact ⟨argument, name, Event.mk.injEq .. ▸ ⟨rfl, hName⟩⟩
      · exact ih hMem

/-! ## A run of calls -/

/-- After any row of calls from the start, the log has no handler, hands its records on and
has no level if no set-up succeeded.  Otherwise it has one handler, keeps its records and has
the level that the last set-up which succeeded asked for.  A set-up succeeds exactly if its
argument asks for a level.  A call that fails leaves the log as it was.  And a logger is
called by the common name or has it in front, and is found under its own. -/
theorem log_after_calls :
    (∀ calls : List Call,
      let (events, s) := (history calls).run {}
      events.map Event.call = calls ∧
        (∀ e ∈ events,
          e.IsSetUp ↔ ∃ argument level, e.call = .setUp argument ∧ Asks argument level) ∧
        (((∀ e ∈ events, ¬ e.IsSetUp) ∧
            s.handlers = 0 ∧ s.propagates = true ∧ s.level = .number 0) ∨
          ∃ argument, LastSetUp events argument ∧
            s.handlers = 1 ∧ s.propagates = false ∧
              ∀ level, Asks argument level ↔ s.level = level)) ∧
    (∀ (call : Call) (s s' : Setup) (e : CallError),
      call.perform.run.run s = (.error e, s') → s' = s) ∧
    ∀ name : String,
      (∀ s : Setup, (Call.getLogger (.text name)).perform.run.run s =
        (.ok (loggerName name), s)) ∧
      (loggerName name = rootName ∨ ∃ rest, loggerName name = rootName ++ "." ++ rest) ∧
      loggerName (loggerName name) = loggerName name := by
  refine ⟨?_, fun call s s' e => perform_error, ?_⟩
  · intro calls
    have hCalls := map_call_history calls {}
    have hCases := history_cases calls {}
    have hSetUps : ∀ e ∈ ((history calls).run {}).1,
        e.IsSetUp ↔ ∃ argument level, e.call = .setUp argument ∧ Asks argument level :=
      fun e hMem => isSetUp_of_mem_history hMem
    generalize (history calls).run {} = all at hCalls hCases hSetUps
    obtain ⟨events, s⟩ := all
    refine ⟨hCalls, hSetUps, ?_⟩
    rcases hCases with ⟨hNone, rfl⟩ | ⟨argument, level, hLast, hLevel, rfl⟩
    · exact .inl ⟨hNone, rfl, rfl, rfl⟩
    · have hAsks : Asks argument level := levelGiven_eq_ok_iff.1 hLevel
      refine .inr ⟨argument, hLast, rfl, rfl, fun asked => ⟨hAsks.unique, ?_⟩⟩
      rintro rfl
      exact hAsks
  · intro name
    exact ⟨fun _ => rfl, loggerName_cases name, loggerName_loggerName name⟩

/-- A set-up by name, and after it another one that fails for its level. -/
def failedSetUp : List Call := [.setUp (some (.text "debug")), .setUp (some (.text "loud"))]

/-- The first set-up succeeds and settles the log, which the second one leaves as it
is. -/
theorem log_after_calls_failedSetUp :
    ((history failedSetUp).run {}).2 =
        { level := .number 10, handlers := 1, propagates := false } ∧
      (Call.setUp (some (.text "loud"))).perform.run.run
          { level := .number 10, handlers := 1, propagates := false } =
        (.error (.level (.unknown "LOUD")), ((history failedSetUp).run {}).2) := by
  have hFails : (Call.setUp (some (.text "loud"))).perform.run.run
      { level := .number 10, handlers := 1, propagates := false } =
        (.error (.level (.unknown "LOUD")), ((history failedSetUp).run {}).2) := rfl
  exact ⟨log_after_calls.2.1 _ _ _ _ hFails, hFails⟩

end ResourceSymbols.Log
