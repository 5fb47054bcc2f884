import ResourceSymbols.RClass.Output

/-!
# Reports

A report tells what came of a generation: the text, what is known about it by
name, and the message of a failure.
-/

namespace ResourceSymbols.RClass

/-- What is told of a generation. -/
structure Report where
  code : String := ""
  fields : Json.Members := []
  /-- The message of a failure. -/
  failure : Option String := none

namespace Report

/-- Whether nothing failed. -/
def isSuccess (r : Report) : Bool := r.failure.isNone

/-- The report of a result. -/
def ofResult (code : String) (r : Result) : Report :=
  { code, fields := r.fields, failure := r.message? }

/-- The report on one line, if what it names can be shown. -/
def describe? (r : Report) : Option String :=
  match r.failure with
  | none =>
    (Json.Value.object r.fields).literal?.map fun t =>
      s!"GenerationResult(success=True, metadata={t})"
  | some message =>
    some s!"GenerationResult(success=False, error_message={Text.quoted message})"

end Report

end ResourceSymbols.RClass
