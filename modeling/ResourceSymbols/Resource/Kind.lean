import ResourceSymbols.Json.Shown

/-!
# Kinds of resources

Every resource is of one of a fixed set of kinds.  A kind has a tag, which stands
in documents and names the class that holds the symbols of that kind.

## Main results

* `ofTag?_eq_some_iff` — a tag belongs to one kind, and that kind is found.
-/

namespace ResourceSymbols.Resource

/-- The kind of a resource. -/
inductive Kind
  | anim
  | animator
  | array
  | attr
  | attrPrivate
  | bool
  | color
  | dimen
  | drawable
  | fraction
  | id
  | integer
  | interpolator
  | layout
  | menu
  | mipmap
  | plurals
  | raw
  | string
  | style
  | styleable
  | transition
  | xml
deriving DecidableEq, Repr

namespace Kind

/-- The tag of the kind. -/
def tag : Kind → String
  | anim => "anim"
  | animator => "animator"
  | array => "array"
  | attr => "attr"
  | attrPrivate => "^attr-private"
  | bool => "bool"
  | color => "color"
  | dimen => "dimen"
  | drawable => "drawable"
  | fraction => "fraction"
  | id => "id"
  | integer => "integer"
  | interpolator => "interpolator"
  | layout => "layout"
  | menu => "menu"
  | mipmap => "mipmap"
  | plurals => "plurals"
  | raw => "raw"
  | string => "string"
  | style => "style"
  | styleable => "styleable"
  | transition => "transition"
  | xml => "xml"

/-- All kinds. -/
def all : List Kind :=
  [anim, animator, array, attr, attrPrivate, bool, color, dimen, drawable, fraction, id, integer,
    interpolator, layout, menu, mipmap, plurals, raw, string, style, styleable, transition, xml]

/-- The kind with the given tag. -/
def ofTag? (tag : String) : Option Kind := all.find? fun k => k.tag = tag

@[simp] theorem ofTag?_tag (k : Kind) : ofTag? k.tag = some k := by cases k <;> rfl

theorem tag_injective {k l : Kind} (h : k.tag = l.tag) : k = l :=
  Option.some.inj (by rw [← ofTag?_tag k, h, ofTag?_tag l])

theorem ofTag?_eq_some_iff {t : String} {k : Kind} : ofTag? t = some k ↔ k.tag = t := by
  constructor
  · intro h
    simpa using List.find?_some h
  · rintro rfl
    exact ofTag?_tag k

/-- The kind as the name of a constant: the tag in capitals, with underscores for
its hyphens and without its caret. -/
def constantName (k : Kind) : String :=
  String.ofList ((k.tag.toList.filter (· ≠ '^')).map fun c => if c = '-' then '_' else c.toUpper)

/-- What is said of a value that is no tag. -/
def notATagText (v : Json.Value) : String :=
  match v.literal? with
  | some t => s!"{t} is not a valid ResourceType"
  | none => Number.digitLimitText

end Kind

end ResourceSymbols.Resource
