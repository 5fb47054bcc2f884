import ResourceSymbols.Json.Misuse
import ResourceSymbols.Json.Shown
import ResourceSymbols.Text.UpperCase

/-!
# Setting up the log

The log of the program starts without a level and hands its records on.  Setting
it up gives it a level and, the first time, a handler of its own, after which it
hands nothing on.
-/

namespace ResourceSymbols.Log

/-- The name that all loggers have or start with. -/
def rootName : String := "resgen"

/-- The name of the logger for a part of the program. -/
def loggerName (name : String) : String :=
  if name = rootName || (rootName ++ ".").toList.isPrefixOf name.toList then name
  else rootName ++ "." ++ name

/-- How severe a record has to be.  A truth value counts as one or zero and is kept as it
is. -/
inductive Level
  | number (n : Int)
  | truth (b : Bool)
deriving DecidableEq, Repr

/-- How the log is set up. -/
structure Setup where
  level : Level := .number 0
  handlers : Nat := 0
  propagates : Bool := true
deriving DecidableEq, Repr

/-- The levels that have a name. -/
def namedLevels : List (String × Int) :=
  [("CRITICAL", 50), ("FATAL", 50), ("ERROR", 40), ("WARN", 30), ("WARNING", 30), ("INFO", 20),
    ("DEBUG", 10), ("NOTSET", 0)]

/-- Why a value is no level. -/
inductive LevelError
  | unknown (name : String)
  | notALevel (shown : String)
  | misuse (m : Json.Misuse)
deriving DecidableEq, Repr

/-- The error in words. -/
def LevelError.message : LevelError → String
  | unknown name => s!"Unknown level: {Text.quoted name}"
  | notALevel shown => s!"Level not an integer or a valid string: {shown}"
  | misuse m => m.message

/-- The level that a value gives: a number, a truth value, or a name in any case.  Null
asks for the usual level. -/
def levelOf : Json.Value → Except LevelError Level
  | .null => .ok (.number 30)
  | .int n => .ok (.number n)
  | .bool b => .ok (.truth b)
  | .text s =>
    let name := Text.upperCase s
    match namedLevels.lookup name with
    | some level => .ok (.number level)
    | none => .error (.unknown name)
  | v =>
    match v.literal? with
    | some shown => .error (.notALevel shown)
    | none => .error (.misuse .digitLimit)

/-- Sets the level, and adds the handler if there is none. -/
def Setup.atLevel (s : Setup) (v : Json.Value) : Except LevelError Setup :=
  (levelOf v).map fun level =>
    if s.handlers = 0 then { level, handlers := 1, propagates := false } else { s with level }

end ResourceSymbols.Log
