import ResourceSymbols.Charset.Label

/-!
# A charset that a text declares

A text may say in which charset it is: by a word such as "charset", some signs, and the
label of the charset, with or without quotes.
-/

namespace ResourceSymbols.Charset

/-- The words in front of a label. -/
def declaringWords : List (List Char) :=
  ["encoding".toList, "charset".toList, "coding".toList]

/-- Whether `c` stands between the word and the label. -/
def isDeclaringSign (c : Char) : Bool := c == ':' || c == '=' || c == ' '

/-- Whether `c` may stand around a label. -/
def isQuote (c : Char) : Bool := c == '"' || c == '\''

/-- Whether a label may have the character. -/
def isLabelChar (c : Char) : Bool := c.isAlphanum || c == '-' || c == '_'

/-- The label that some characters in small letters give, and how many characters that
takes. -/
def labelAt? (text : List Char) : Option (List Char × Nat) := do
  let word ← declaringWords.find? fun w => w.isPrefixOf text
  let rest := text.drop word.length
  let signs := (rest.takeWhile isDeclaringSign).length
  if signs = 0 ∨ 10 < signs then none
  else
    let rest := rest.drop signs
    let quote (rest : List Char) : Nat := if rest[0]?.any isQuote then 1 else 0
    let opening := quote rest
    let label := (rest.drop opening).takeWhile isLabelChar
    let closing := quote (rest.drop (opening + label.length))
    if label.isEmpty then none
    else some (label, word.length + signs + opening + label.length + closing)

/-- The labels that a text in small letters gives, in its order. -/
def labelsIn : List Char → List (List Char)
  | [] => []
  | c :: rest =>
    match labelAt? (c :: rest) with
    | some (label, n) => label :: labelsIn (rest.drop (n - 1))
    | none => labelsIn rest
termination_by text => text.length

/-- How many octets are looked at for a declaration. -/
def declaringSize : Nat := 8192

/-- The name of the charset that the octets declare by the first label that is known. -/
def declared? (octets : List UInt8) : Option String :=
  let text := ((octets.take declaringSize).filter (· < 0x80)).map fun o =>
    (Char.ofNat o.toNat).toLower
  let known := (labelsIn text).findSome? fun label =>
    labelled? (String.ofList (label.map fun c => if c = '-' then '_' else c))
  match known with
  | some (.charset name) => some name
  | _ => none

end ResourceSymbols.Charset
