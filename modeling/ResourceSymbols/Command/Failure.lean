import ResourceSymbols.Console.Markup
import ResourceSymbols.Log.Setup
import ResourceSymbols.RClass.Output
import ResourceSymbols.Resource.Source

/-!
# Failures of the command

Some failures are reported to whoever runs the command, who is to blame or can
help: a wrong combination of arguments, a document or settings that are refused,
and errors of the file system.  All others end the command as they are.
-/

namespace ResourceSymbols.Command

/-- What is wrong with the way the command was asked for. -/
inductive Request
  /-- All packages were asked for, and no directory to write them to. -/
  | noDirectory
  /-- A file and a directory were given to write to. -/
  | twoOutputs
  /-- No input was given. -/
  | noInput
  /-- The standard input is no JSON. -/
  | badInput (defect : Json.Defect) (place : Text.Place)
deriving DecidableEq, Repr

/-- The fault in words. -/
def Request.message : Request → String
  | noDirectory => "--all-packages requires --output-dir"
  | twoOutputs => "--output and --output-dir cannot be combined"
  | noInput => "Input source required (file, --url, or --stdin)"
  | badInput defect place =>
    s!"Invalid JSON input: {(Json.ReadError.malformed defect place).message}"

/-- Why the command failed. -/
inductive Failure
  | request (r : Request)
  | source (e : Resource.Source.Error)
  | document (e : Resource.Document.Error)
  | settings (e : Settings.Error)
  | output (e : RClass.Error)
  | file (e : Files.Error)
  /-- The standard input is not in UTF-8. -/
  | undecodable (fault : Text.Utf8.Fault)
  /-- The class has no octets in UTF-8. -/
  | unencodable (u : Text.Utf8.Unencodable)
  /-- The standard input goes beyond the limits on documents. -/
  | excess (e : Json.Excess)
  /-- A value is not of the kind that it is used as. -/
  | misuse (m : Json.Misuse)
  /-- The log cannot be set up. -/
  | level (e : Log.LevelError)
  /-- What is printed is not well formed. -/
  | console (e : Console.Error)

namespace Failure

/-- The failure in words. -/
def message : Failure → String
  | request r => r.message
  | source e => e.message
  | document e => e.message
  | settings e => e.message
  | output e => e.message
  | file e => e.message
  | undecodable fault => fault.message
  | unencodable u => u.message
  | excess e => e.message
  | misuse m => m.message
  | level e => e.message
  | console e => e.message

/-- Whether a file error comes from the system. -/
def comesFromSystem : Files.Error → Bool
  | .refused .. => true
  | .noPath _ => false

/-- Whether the failure is reported. -/
def isReported : Failure → Bool
  | request _ => true
  | source (.refused _) => true
  | source (.missing _) => true
  | source (.file e) => comesFromSystem e
  | source (.passed t _) => t.isOfSystem
  | source (.document (.malformed _)) => true
  | source _ => false
  | document (.malformed _) => true
  | document (.misuse _) => false
  | settings (.refused _) => true
  | settings (.file e) => comesFromSystem e
  | settings _ => false
  | output (.settings (.refused _)) => true
  | output (.settings (.file e)) => comesFromSystem e
  | output (.file e) => comesFromSystem e
  | output _ => false
  | file e => comesFromSystem e
  | undecodable _ | unencodable _ | excess _ | misuse _ | level _ | console _ => false

/-- Whether the way the command was asked for is at fault. -/
def isOfRequest : Failure → Bool
  | request _ => true
  | _ => false

end Failure

end ResourceSymbols.Command
