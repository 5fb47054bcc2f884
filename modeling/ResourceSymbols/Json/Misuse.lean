import ResourceSymbols.Json.Value
import ResourceSymbols.Number.Decimal
import ResourceSymbols.Text.CodePoint

/-!
# Values of the wrong kind

What goes wrong when a value is used as if it were of another kind.
-/

namespace ResourceSymbols.Json

/-- A use that the kind of a value does not allow. -/
inductive Misuse
  /-- Only a text, a list or an object has items. -/
  | notIterable (kind : String)
  /-- Values of the kind have no such operation. -/
  | noOperation (kind operation : String)
  /-- A list or an object names no member. -/
  | unhashable (kind : String)
  /-- The item of that number is to be a pair, and has no items at all. -/
  | notAPair (index : Nat)
  /-- The item of that number is to be a pair, and has another number of items. -/
  | pairLength (index length : Nat)
  /-- Values of the kind name no file. -/
  | notAPath (kind : String)
  /-- An integer has too many digits to be shown. -/
  | digitLimit
deriving DecidableEq, Repr

/-- The misuse in words. -/
def Misuse.message : Misuse → String
  | notIterable kind => s!"'{kind}' object is not iterable"
  | noOperation kind operation => s!"'{kind}' object has no attribute '{operation}'"
  | unhashable kind => s!"unhashable type: '{kind}'"
  | notAPair index =>
    s!"cannot convert dictionary update sequence element #{index} to a sequence"
  | pairLength index length =>
    s!"dictionary update sequence element #{index} has length {length}; 2 is required"
  | notAPath kind => s!"expected str, bytes or os.PathLike object, not {kind}"
  | digitLimit => Number.digitLimitText

/-- The items of a value: the code points of a text, the items of a list, the
names in an object. -/
def Value.items : Value → Except Misuse (List Value)
  | .text s => .ok ((Text.codePoints s.toList).map fun p => .text (String.ofList p.spelling))
  | .list items => .ok items
  | .object members => .ok (members.map fun m => .text m.1)
  | v => .error (.notIterable v.kindName)

end ResourceSymbols.Json
