/-!
# Spelling by octets

A spelling says what the first octets of a run stand for and how many they are.  A text
is read from octets by taking its spelling again and again; where nothing is spelt, the
reading ends, or it passes over some octets and goes on.

## Main results

* `readSome_of_readAll` — passing over octets makes no difference to a text that reads.
-/

namespace ResourceSymbols.Text

/-- What the first of some octets spell. -/
inductive Spelt
  /-- Some characters, with so many octets after the very first one. -/
  | text (cs : List Char) (taken : Nat)
  /-- Nothing.  Who reads on passes over the first octet and so many after it. -/
  | nothing (passed : Nat)
deriving DecidableEq, Repr

/-- Some characters, if there are any, with so many octets after the first one; or else
nothing, so that only the first octet is passed over. -/
def Spelt.ofOption (taken : Nat) : Option (List Char) → Spelt
  | some cs => .text cs taken
  | none => .nothing 0

/-- What an octet and those after it spell. -/
abbrev Spelling := UInt8 → List UInt8 → Spelt

namespace Spelling

/-- The text that the octets spell. -/
def readAll (s : Spelling) : List UInt8 → Option (List Char)
  | [] => some []
  | a :: rest =>
    match s a rest with
    | .text cs n => (readAll s (rest.drop n)).map (cs ++ ·)
    | .nothing _ => none
termination_by octets => octets.length

/-- As much of a text as the octets spell. -/
def readSome (s : Spelling) : List UInt8 → List Char
  | [] => []
  | a :: rest =>
    match s a rest with
    | .text cs n => cs ++ readSome s (rest.drop n)
    | .nothing n => readSome s (rest.drop n)
termination_by octets => octets.length

/-- Passing over octets makes no difference to a text that reads. -/
theorem readSome_of_readAll {s : Spelling} {octets : List UInt8} {text : List Char}
    (h : s.readAll octets = some text) : s.readSome octets = text := by
  fun_induction readAll s octets generalizing text with
  | case1 => simp_all [readSome]
  | case2 a rest cs n hs ih =>
    obtain ⟨tail, htail, rfl⟩ := Option.map_eq_some_iff.1 h
    rw [readSome, hs]
    simp [ih htail]
  | case3 => simp at h

/-- A pair of octets that spells no more than one character. -/
def single (pair : Nat → Nat → Option Char) (a b : Nat) : Option (List Char) :=
  (pair a b).map fun c => [c]

/-- The spelling in which some octets stand for a character alone, and any other one
for some characters together with the octet after it. -/
def ofPairs (alone : Nat → Option Char) (pair : Nat → Nat → Option (List Char)) : Spelling :=
  fun a rest =>
    match alone a.toNat, rest with
    | some c, _ => .text [c] 0
    | none, b :: _ => .ofOption 1 (pair a.toNat b.toNat)
    | none, [] => .nothing 0

/-- The same spelling, but that of some pairs that spell nothing both octets are passed
over. -/
def passing (pair : Nat → Nat → Bool) (s : Spelling) : Spelling := fun a rest =>
  match s a rest, rest with
  | .nothing n, b :: _ => .nothing (if pair a.toNat b.toNat then 1 else n)
  | spelt, _ => spelt

end Spelling

end ResourceSymbols.Text
