import ResourceSymbols.Number.Decimal
import ResourceSymbols.Text.Hex

/-!
# Resource identifiers

An identifier has a package part of eight bits, a type part of eight bits and an
entry part of sixteen.  Packed, it is a number of 32 bits with the package part
on top, so that the order of the numbers is the order of the parts.

## Main results

* `ofNumber_number`, `number_of_ofNumber` — packing and taking apart are inverse.
* `before_iff` — the order of the parts is the order of the numbers.
-/

namespace ResourceSymbols.Resource

/-- The identifier of a resource. -/
structure Id where
  package : Fin 0x100
  type : Fin 0x100
  entry : Fin 0x10000
deriving DecidableEq, Repr

namespace Id

/-- What a number outside its range was meant to be. -/
inductive Part
  | package
  | type
  | entry
  | whole
deriving DecidableEq, Repr

/-- The part in words. -/
def Part.describe : Part → String
  | package => "package id"
  | type => "type id"
  | entry => "entry id"
  | whole => "resource id"

/-- A number outside the range of a part. -/
structure RangeError where
  part : Part
  value : Int
deriving DecidableEq, Repr

/-- The error in words.  A number beyond the limit on digits cannot be shown. -/
def RangeError.message (e : RangeError) : String :=
  match Number.decimal? e.value with
  | some n => s!"{e.part.describe} out of range: {n}"
  | none => Number.digitLimitText

/-- The number as a member of `Fin n`, if it is below `n`. -/
def below? (n : Nat) (value : Int) : Option (Fin n) :=
  if h : 0 ≤ value ∧ value < n then some ⟨value.toNat, by omega⟩ else none

/-- The identifier with the given parts.  The first part out of range is
reported. -/
def ofParts (package type entry : Int) : Except RangeError Id :=
  match below? 0x100 package, below? 0x100 type, below? 0x10000 entry with
  | some p, some t, some e => .ok ⟨p, t, e⟩
  | none, _, _ => .error ⟨.package, package⟩
  | _, none, _ => .error ⟨.type, type⟩
  | _, _, none => .error ⟨.entry, entry⟩

/-- The packed identifier. -/
def number (id : Id) : Nat :=
  id.package.val * 0x1000000 + id.type.val * 0x10000 + id.entry.val

/-- The identifier with the given packed form. -/
def ofNumber (n : Int) : Except RangeError Id :=
  if h : 0 ≤ n ∧ n < 0x100000000 then
    .ok { package := ⟨n.toNat / 0x1000000, by omega⟩
          type := ⟨n.toNat / 0x10000 % 0x100, Nat.mod_lt _ (by decide)⟩
          entry := ⟨n.toNat % 0x10000, Nat.mod_lt _ (by decide)⟩ }
  else .error ⟨.whole, n⟩

/-- Whether the package and the type are assigned; zero stands for neither. -/
def isAssigned (id : Id) : Bool := decide (id.package.val ≠ 0) && decide (id.type.val ≠ 0)

/-- The packed identifier in eight hexadecimal digits. -/
def text (id : Id) : String := "0x" ++ String.ofList (Text.hexDigits 8 id.number)

/-- Whether `a` comes before `b`: by package, then by type, then by entry. -/
def before (a b : Id) : Bool :=
  decide (a.package < b.package) ||
    (decide (a.package = b.package) &&
      (decide (a.type < b.type) || (decide (a.type = b.type) && decide (a.entry < b.entry))))

/-- The identifiers in ascending order. -/
def sort (ids : List Id) : List Id := ids.mergeSort fun a b => !b.before a

/-! ## Packing -/

theorem number_lt (id : Id) : id.number < 0x100000000 := by
  have := id.package.isLt
  have := id.type.isLt
  have := id.entry.isLt
  simp only [number]
  omega

theorem ofNumber_number (id : Id) : ofNumber id.number = .ok id := by
  have hlt := id.number_lt
  have hp := id.package.isLt
  have ht := id.type.isLt
  have he := id.entry.isLt
  have hn : id.number = id.package.val * 0x1000000 + id.type.val * 0x10000 + id.entry.val := rfl
  rw [ofNumber, dif_pos (by omega)]
  obtain ⟨p, t, e⟩ := id
  simp only [Except.ok.injEq, mk.injEq, Fin.ext_iff, Int.toNat_natCast]
  simp only at hn hp ht he
  omega

theorem number_of_ofNumber {n : Int} {id : Id} (h : ofNumber n = .ok id) :
    (id.number : Int) = n := by
  simp only [ofNumber] at h
  split at h
  · simp only [Except.ok.injEq] at h
    subst h
    simp only [number]
    omega
  · simp at h

theorem number_injective {a b : Id} (h : a.number = b.number) : a = b :=
  Except.ok.inj (by rw [← ofNumber_number a, h, ofNumber_number b])

theorem before_iff {a b : Id} : a.before b = true ↔ a.number < b.number := by
  obtain ⟨p, t, e⟩ := a
  obtain ⟨p', t', e'⟩ := b
  have := p.isLt
  have := t.isLt
  have := e.isLt
  have := p'.isLt
  have := t'.isLt
  have := e'.isLt
  simp only [before, number, Bool.or_eq_true, Bool.and_eq_true, decide_eq_true_eq, Fin.lt_def,
    Fin.ext_iff]
  omega

end Id

end ResourceSymbols.Resource
