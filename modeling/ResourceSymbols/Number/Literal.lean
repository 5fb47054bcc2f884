import ResourceSymbols.Number.Decimal
import ResourceSymbols.Text.Blank
import ResourceSymbols.Text.DecimalDigit

/-!
# Integer literals

An integer literal is a sign, a base mark and digits, with blanks around it.  A
mark after a zero gives the base: `x` for 16, `o` for 8 and `b` for 2; without
one the base is 10.  One underscore may stand between two digits, and one after
the mark.  A decimal literal starts with a zero only if it is zero.  The digits
of every script count.
-/

namespace ResourceSymbols.Number.Literal

/-- Whether `c` may stand around a literal: white space, other than the four
separators of files, groups, records and units. -/
def isMargin (c : Char) : Bool :=
  Text.isBlank c && !(decide (0x1C ≤ c.toNat) && decide (c.toNat ≤ 0x1F))

/-- The digit of another script as the decimal digit of the same value. -/
def plainDigit (c : Char) : Char :=
  match Text.decimalDigit? c with
  | some d => Nat.digitChar d
  | none => c

/-- The value of a digit, a letter standing for ten and more. -/
def digitValue? (c : Char) : Option Nat :=
  if '0' ≤ c ∧ c ≤ '9' then some (c.toNat - '0'.toNat)
  else if 'a' ≤ c ∧ c ≤ 'f' then some (c.toNat - 'a'.toNat + 10)
  else if 'A' ≤ c ∧ c ≤ 'F' then some (c.toNat - 'A'.toNat + 10)
  else none

/-- The values of the digits, an underscore being skipped where it stands
between two of them.  `wanted` says that a digit has to come next. -/
def digitValues? (base : Nat) : (wanted : Bool) → List Char → Option (List Nat)
  | wanted, [] => if wanted then none else some []
  | wanted, c :: cs =>
    if c = '_' then if wanted then none else digitValues? base true cs
    else
      match digitValue? c with
      | some d => if d < base then (digitValues? base false cs).map (d :: ·) else none
      | none => none

/-- The number with the given digits, the most significant first. -/
def ofDigits (base : Nat) (digits : List Nat) : Nat :=
  digits.foldl (fun n d => n * base + d) 0

/-- The value of a literal without blanks and sign. -/
def magnitude? (cs : List Char) : Option Nat :=
  let marked (base : Nat) (rest : List Char) : Option Nat :=
    let digits := match rest with
      | '_' :: digits => digits
      | digits => digits
    (digitValues? base true digits).map (ofDigits base)
  match cs with
  | '0' :: 'x' :: rest | '0' :: 'X' :: rest => marked 16 rest
  | '0' :: 'o' :: rest | '0' :: 'O' :: rest => marked 8 rest
  | '0' :: 'b' :: rest | '0' :: 'B' :: rest => marked 2 rest
  | _ =>
    (digitValues? 10 true cs).bind fun digits =>
      let n := ofDigits 10 digits
      if digits.length ≤ digitLimit ∧ (digits.head? = some 0 → n = 0) then some n else none

/-- The value of an integer literal. -/
def int? (s : String) : Option Int :=
  match Text.trimBoth isMargin (s.toList.map plainDigit) with
  | '+' :: cs => (magnitude? cs).map Int.ofNat
  | '-' :: cs => (magnitude? cs).map fun n => -Int.ofNat n
  | cs => (magnitude? cs).map Int.ofNat

end ResourceSymbols.Number.Literal
