import ResourceSymbols.Json.Key
import ResourceSymbols.Json.Members

/-!
# Dictionaries

A dictionary is made from an object, whose names are its keys, or from pairs of a
key and a value.

## Main results

* `get?_update` — looking up after a whole dictionary was put.
* `get?_ofMembers` — the names of an object are the keys.
-/

namespace ResourceSymbols.Json

/-- Keys and their values, in the order in which the keys were first given. -/
abbrev Dictionary := List (Key × Value)

namespace Dictionary

/-- The value of the first key that is the same as `key`. -/
def get? (d : Dictionary) (key : Key) : Option Value :=
  Association.get? Key.identity d key.identity

/-- Puts the new values, one after the other. -/
def update (d new : Dictionary) : Dictionary := Association.update Key.identity d new

/-- The dictionary with the names of an object for its keys. -/
def ofMembers (members : Members) : Dictionary := members.map fun m => (.text m.1, m.2)

/-- The members that are written for the dictionary, if they can be written.  Two
keys may give the same name. -/
def members? (d : Dictionary) : Option Members :=
  d.mapM fun m => m.1.memberName?.map (·, m.2)

/-- The pieces in which the dictionary is written over several lines.  A key that cannot be
written is missing, and so is all that comes after it. -/
def pieces (d : Dictionary) : List (Option String) :=
  match d.members? with
  | some members => (Value.object members).pieces
  | none =>
    let before := (d.map fun m => m.1.memberName?.map (·, m.2)).takeWhile Option.isSome
    some "\x7b" :: some (Value.newLine 1) :: Value.memberPieces 1 (before.filterMap id) ++ [none]

/-- The last of the new values for a key decides. -/
theorem get?_update (d new : Dictionary) (key : Key) :
    get? (update d new) key = (get? new.reverse key).or (get? d key) :=
  Association.get?_update Key.identity d new key.identity

theorem get?_ofMembers (members : Members) (name : String) :
    get? (ofMembers members) (.text name) = members.get? name := by
  induction members with
  | nil => rfl
  | cons m ms ih =>
    simp only [get?, ofMembers, List.map_cons, Association.get?, Members.get?, Key.identity,
      Identity.text.injEq, id] at ih ⊢
    rw [ih]

end Dictionary

namespace Value

/-- The pair that the item of that number is. -/
def pairAt (index : Nat) (item : Value) : Except Misuse (Key × Value) :=
  match item.items with
  | .error _ => .error (.notAPair index)
  | .ok [k, v] => k.key.map (·, v)
  | .ok items => .error (.pairLength index items.length)

/-- The pairs that the items are, `index` being the number of the first. -/
def pairsFrom (index : Nat) : List Value → Except Misuse Dictionary
  | [] => .ok []
  | item :: rest => do
    let m ← pairAt index item
    let ms ← pairsFrom (index + 1) rest
    return m :: ms

/-- The value as keys and values: an object gives its members, and any other value
its items, which have to be pairs. -/
def pairs : Value → Except Misuse Dictionary
  | .object members => .ok (.ofMembers members)
  | v => v.items.bind (pairsFrom 0)

end Value

end ResourceSymbols.Json
