import ResourceSymbols.Json.Misuse
import ResourceSymbols.Json.Printer
import ResourceSymbols.Json.Shown

/-!
# Keys

A dictionary that is made from pairs may have any plain value for a key.  Numbers
that are equal are one key, whatever their kind: true is one and false is zero.

## Main results

* `identity_eq_text_iff` — a text is the same key as itself alone.
-/

namespace ResourceSymbols.Json

/-- The key of a value in a dictionary. -/
inductive Key
  | null
  | bool (b : Bool)
  | int (n : Int)
  | real (x : Number.Binary64)
  | text (s : String)
deriving DecidableEq, Repr, Inhabited

/-- What makes two keys the same. -/
inductive Identity
  | null
  | text (s : String)
  /-- A number, counted in units of the least positive real. -/
  | number (units : Int)
  | infinity (negative : Bool)
  /-- The real that is no number, which is the same as itself here. -/
  | noNumber
deriving DecidableEq, Repr

/-- The identity of an integer. -/
def Identity.ofInt (n : Int) : Identity := number (n * Nat.pow 2 1074)

/-- The identity of a real. -/
def Identity.ofReal (x : Number.Binary64) : Identity :=
  if x.isNaN then noNumber
  else if x.isFinite then
    let units : Int := x.significand * Nat.pow 2 (x.exponent + 1074).toNat
    number (if x.isNegative then -units else units)
  else infinity x.isNegative

namespace Key

/-- What makes the key the same as another. -/
def identity : Key → Identity
  | null => .null
  | bool b => .ofInt (if b then 1 else 0)
  | int n => .ofInt n
  | real x => .ofReal x
  | text s => .text s

theorem identity_eq_text_iff (k : Key) (s : String) :
    k.identity = .text s ↔ k = text s := by
  cases k with
  | null => simp only [identity, reduceCtorEq]
  | bool b => simp only [identity, Identity.ofInt, reduceCtorEq]
  | int n => simp only [identity, Identity.ofInt, reduceCtorEq]
  | real x =>
    simp only [identity, Identity.ofReal, reduceCtorEq, iff_false]
    split
    · simp
    · split <;> simp
  | text t => simp only [identity, Identity.text.injEq, text.injEq]

/-- The key as a value. -/
def toValue : Key → Value
  | null => .null
  | bool b => .bool b
  | int n => .int n
  | real x => .real x
  | text s => .text s

/-- The name of the member that is written for the key, if it can be written. -/
def memberName? : Key → Option String
  | text s => some s
  | k => k.toValue.indented?

end Key

/-- The key that a value is. -/
def Value.key : Value → Except Misuse Key
  | .null => .ok .null
  | .bool b => .ok (.bool b)
  | .int n => .ok (.int n)
  | .real x => .ok (.real x)
  | .text s => .ok (.text s)
  | v => .error (.unhashable v.kindName)

end ResourceSymbols.Json
