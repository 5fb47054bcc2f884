import ResourceSymbols.Json.Shown
import ResourceSymbols.Log.Record
import ResourceSymbols.RClass.Run
import ResourceSymbols.Settings.Basic
import ResourceSymbols.Text.Utf8

/-!
# Generating a class

A class is generated for a target and written to a sink.  Three things may come of
it: the class is complete; it is aborted at a reserved name, which is reported as
a result; or the generation is interrupted, by a table that was built wrongly or
by the sink.  A guarded generation reports an interruption as a failed result as
well, unless it shows a mistake of whoever built the table.
-/

namespace ResourceSymbols.RClass

open Resource (Table)

/-- What a class is generated for: a value, which stands for a package if it is a
text, and how it is shown. -/
structure Target where
  value : Json.Value
  label : String

/-- The target that a value stands for, if it can be shown. -/
def Target.of? (v : Json.Value) : Option Target := v.shown?.map fun label => { value := v, label }

/-- The package that the target is. -/
def Target.package? (t : Target) : Option String := t.value.text?

/-- Where a class is written to.  It takes so many pieces and then fails, and it may fail at
a piece that has no octets. -/
structure Sink where
  room : Option Nat := none
  /-- What is said when it has no more room. -/
  failure : String := ""
  /-- Whether the pieces are encoded. -/
  isEncoded : Bool := false

/-- What a generation found. -/
structure Summary where
  target : Json.Value
  tablePackage : String
  groupCount : Nat
  tally : Tally
  /-- The file that the class was written to. -/
  path : Option String := none

/-- The findings by name. -/
def Summary.fields (s : Summary) : Json.Members :=
  [("language", .text "java"), ("file_extension", .text ".java"), ("package", s.target),
    ("table_package", .text s.tablePackage), ("type_count", .int s.groupCount),
    ("constants", .int s.tally.constants), ("styleables", .int s.tally.styleables),
    ("skipped", .int s.tally.skipped)] ++
  match s.path with
  | some p => [("output_file", .text p)]
  | none => []

/-- What interrupts a generation. -/
inductive Interruption
  /-- The target cannot be shown. -/
  | unshown
  /-- An entry offends, and not by a reserved name. -/
  | offence (o : Offence)
  /-- The sink takes no more. -/
  | sink (failure : String)
  /-- A piece has no octets. -/
  | unencodable (u : Text.Utf8.Unencodable)
deriving DecidableEq, Repr

/-- The interruption in words. -/
def Interruption.message : Interruption → String
  | unshown => Number.digitLimitText
  | offence o => o.message
  | sink failure => failure
  | unencodable u => u.message

namespace Sink

/-- Why the sink does not take the piece after so many others. -/
def refusal? (s : Sink) (count : Nat) (piece : String) : Option Interruption :=
  if s.room.any fun room => decide (room ≤ count) then some (.sink s.failure)
  else if s.isEncoded then
    match Text.Utf8.encode piece with
    | .ok _ => none
    | .error u => some (.unencodable u)
  else none

/-- What the sink takes of the pieces, after so many others, and why it takes no more. -/
def takeFrom (s : Sink) (count : Nat) : List String → List String × Option Interruption
  | [] => ([], none)
  | piece :: pieces =>
    match s.refusal? count piece with
    | some i => ([], some i)
    | none =>
      let (taken, refusal) := s.takeFrom (count + 1) pieces
      (piece :: taken, refusal)

variable {s : Sink} {count : Nat} {pieces : List String} {i : Interruption}

/-- What is taken are the first pieces. -/
theorem takeFrom_isPrefix (s : Sink) (count : Nat) (pieces : List String) :
    (s.takeFrom count pieces).1 <+: pieces := by
  fun_induction takeFrom s count pieces with
  | case1 => exact List.nil_prefix
  | case2 => exact List.nil_prefix
  | case3 count piece pieces hTakes taken refusal hRest ih =>
      rw [hRest] at ih
      exact (List.prefix_cons_inj piece).2 ih

/-- A sink that refuses nothing takes all pieces. -/
theorem takeFrom_of_none (hNone : (s.takeFrom count pieces).2 = none) :
    s.takeFrom count pieces = (pieces, none) := by
  fun_induction takeFrom s count pieces with
  | case1 => rfl
  | case2 => cases hNone
  | case3 count piece pieces hTakes taken refusal hRest ih =>
      rw [hRest] at ih
      obtain ⟨hTaken, hRefusal⟩ := Prod.mk.inj (ih hNone)
      rw [hTaken, hRefusal]

theorem takeFrom_append_of_none (hNone : (s.takeFrom count pieces).2 = none)
    (more : List String) :
    s.takeFrom count (pieces ++ more) =
      (pieces ++ (s.takeFrom (count + pieces.length) more).1,
        (s.takeFrom (count + pieces.length) more).2) := by
  induction pieces generalizing count with
  | nil => rfl
  | cons piece pieces ih =>
      rw [takeFrom] at hNone
      rw [List.cons_append, takeFrom]
      cases hFirst : s.refusal? count piece with
      | some i => simp [hFirst] at hNone
      | none =>
          simp only [hFirst] at hNone ⊢
          rw [ih hNone, List.length_cons, Nat.add_comm pieces.length, ← Nat.add_assoc]
          rfl

theorem takeFrom_append_of_some (hSome : (s.takeFrom count pieces).2 = some i)
    (more : List String) : s.takeFrom count (pieces ++ more) = s.takeFrom count pieces := by
  induction pieces generalizing count with
  | nil => cases hSome
  | cons piece pieces ih =>
      rw [takeFrom] at hSome
      rw [List.cons_append, takeFrom, takeFrom]
      cases hFirst : s.refusal? count piece with
      | some j => rfl
      | none =>
          simp only [hFirst] at hSome ⊢
          rw [ih hSome]

/-- A sink that does not encode takes as many pieces as it has room for. -/
theorem takeFrom_room (room : Nat) (failure : String) (count : Nat) (pieces : List String) :
    ({ room := some room, failure } : Sink).takeFrom count pieces =
      (pieces.take (room - count),
        if room < count + pieces.length ∧ pieces ≠ [] then some (.sink failure) else none) := by
  induction pieces generalizing count with
  | nil => simp [takeFrom]
  | cons piece pieces ih =>
      rw [takeFrom]
      by_cases hFull : room ≤ count
      · have hRefusal : ({ room := some room, failure } : Sink).refusal? count piece =
            some (.sink failure) := if_pos (decide_eq_true hFull)
        have hLess : room < count + (pieces.length + 1) := by omega
        simp [hRefusal, Nat.sub_eq_zero_of_le hFull, hLess]
      · have hRefusal : ({ room := some room, failure } : Sink).refusal? count piece = none := by
          simp [refusal?, hFull]
        have hRoom : room - count = room - (count + 1) + 1 := by omega
        have hSame : (room < count + 1 + pieces.length ∧ pieces ≠ []) ↔
            room < count + (pieces.length + 1) := by
          cases pieces with
          | nil => simp; omega
          | cons p ps => simp; omega
        simp only [hRefusal, ih, hRoom, List.take_succ_cons, List.length_cons, ne_eq,
          reduceCtorEq, not_false_eq_true, and_true, hSame]

end Sink

/-- What came of a generation. -/
inductive Result
  | complete (s : Summary)
  | aborted (s : Summary) (o : Offence)
  | failed (i : Interruption)

namespace Result

/-- Whether the class is complete. -/
def isComplete : Result → Bool
  | complete _ => true
  | _ => false

/-- Why the class is not complete. -/
def message? : Result → Option String
  | complete _ => none
  | aborted _ o => some o.message
  | failed i => some s!"Code generation failed: {i.message}"

/-- What is known about the generation. -/
def fields : Result → Json.Members
  | complete s => s.fields
  | aborted s _ => s.fields
  | failed _ => []

/-- The result with the file that the class was written to. -/
def writtenTo (path : String) : Result → Result
  | complete s => complete { s with path := some path }
  | r => r

end Result

/-- A generation: what the sink took, what came of it, and its log. -/
structure Generation where
  written : String
  outcome : Except Interruption Result
  log : List Log.Record

/-- The style that the settings ask for. -/
def styleOf (s : Settings) : Style := { isFinal := s.useFinal.isTruthy }

/-- The records of a run of which so many pieces are written: its start, and the styleables
without attributes. -/
def runRecords (t : Table) (label : String) (r : Run) (count : Nat) : List Log.Record :=
  ⟨.debug, s!"Generating R class for {label} from table {t.package}"⟩ ::
    (r.silent.filter fun s => s.1 ≤ count).map fun s =>
      ⟨.debug, s!"Styleable entry {s.2} holds a Item, nothing to emit"⟩

/-- Generates the class of a target. -/
def generate (style : Style) (t : Table) (target : Json.Value) (sink : Sink) : Generation :=
  match Target.of? target with
  | none => { written := "", outcome := .error .unshown, log := [] }
  | some tgt =>
    let r := run style t tgt.package? tgt.label
    let summary : Summary :=
      { target, tablePackage := t.package, groupCount := t.groups.length, tally := r.tally }
    let (taken, refusal) := sink.takeFrom 0 r.pieces
    let written := String.join taken
    let records := runRecords t tgt.label r taken.length
    match refusal with
    | some i => { written, outcome := .error i, log := records }
    | none =>
      match r.offence with
      | none =>
        { written, outcome := .ok (.complete summary)
          log := records ++
            [⟨.info, s!"Generated R class for {tgt.label}: {r.tally.constants} constants, " ++
              s!"{r.tally.styleables} styleables, {r.tally.skipped} skipped"⟩] }
      | some (.reserved name) =>
        let o := Offence.reserved name
        { written, outcome := .ok (.aborted summary o)
          log := records ++
            [⟨.error, s!"Generation of {tgt.label} aborted: {o.message}"⟩] }
      | some o =>
        { written, outcome := .error (.offence o), log := records }

/-- Whether a guard lets the interruption through. -/
def Interruption.escapes : Interruption → Bool
  | unshown => true
  | offence o => o.isMistake
  | sink _ | unencodable _ => false

/-- Generates the class of a target and reports an interruption as a failed
result where that is possible. -/
def generateGuarded (style : Style) (t : Table) (target : Json.Value) (sink : Sink) :
    Generation :=
  let g := generate style t target sink
  match g.outcome with
  | .ok _ => g
  | .error i =>
    let label := target.shown?.getD ""
    if i.escapes then g
    else
      { g with
        outcome := .ok (.failed i)
        log := g.log ++
          [⟨.error, s!"Code generation for {label} failed: {i.message}"⟩] }

end ResourceSymbols.RClass
