/-!
# Log records

A record is a message with a severity.  A threshold lets through the records that
are at least as severe.
-/

namespace ResourceSymbols.Log

/-- How severe a record is. -/
inductive Severity
  | debug
  | info
  | warning
  | error
deriving DecidableEq, Repr

/-- The severity in words. -/
def Severity.name : Severity → String
  | debug => "DEBUG"
  | info => "INFO"
  | warning => "WARNING"
  | error => "ERROR"

/-- The severity as a number; what is more severe has a greater one. -/
def Severity.rank : Severity → Nat
  | debug => 10
  | info => 20
  | warning => 30
  | error => 40

/-- A message in a log. -/
structure Record where
  severity : Severity
  message : String
deriving DecidableEq, Repr

/-- The records that are at least as severe as the threshold. -/
def atLeast (threshold : Severity) (records : List Record) : List Record :=
  records.filter fun r => threshold.rank ≤ r.severity.rank

end ResourceSymbols.Log
