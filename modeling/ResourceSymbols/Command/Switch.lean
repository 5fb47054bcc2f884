import ResourceSymbols.Text.Cut
import ResourceSymbols.Text.DecimalDigit
import ResourceSymbols.Text.Quoted

/-!
# Switches

A command line is a list of words.  A word that starts with a hyphen may be a
switch: spelt in full, abbreviated as far as it stays unique, or, for a switch of
one letter, with its value right after the letter.  A value may also follow after
an equals sign.
-/

namespace ResourceSymbols.Command

/-- What a switch is about. -/
inductive Switch
  | help
  | url
  | stdin
  | package
  | output
  | outputDir
  | allPackages
  | noFinal
  | config
  | verbose
  | logLevel
deriving DecidableEq, Repr

/-- All spellings of switches, in the order in which they are listed. -/
def spellings : List (String × Switch) :=
  [("-h", .help), ("--help", .help), ("--url", .url), ("--stdin", .stdin),
    ("--package", .package), ("--package-name", .package), ("--output", .output),
    ("-o", .output), ("--output-dir", .outputDir), ("--all-packages", .allPackages),
    ("--no-final", .noFinal), ("--config", .config), ("--verbose", .verbose),
    ("--log-level", .logLevel)]

namespace Switch

/-- Whether a value has to follow. -/
def takesValue : Switch → Bool
  | url | package | output | outputDir | config | logLevel => true
  | help | stdin | allPackages | noFinal | verbose => false

/-- The switch in messages: all of its spellings. -/
def label (s : Switch) : String :=
  "/".intercalate ((spellings.filter fun p => p.2 = s).map Prod.fst)

end Switch

/-- A switch as it was found in a word. -/
structure Match where
  switch : Switch
  /-- Whether it was spelt with a single hyphen. -/
  isShort : Bool
  /-- The value in the same word. -/
  value : Option String
deriving DecidableEq, Repr

/-- What a word of the command line is. -/
inductive Word
  /-- No switch. -/
  | plain (text : String)
  | switch (m : Match)
  /-- A word that looks like a switch and is none. -/
  | unknown (text : String)
deriving DecidableEq, Repr

/-- A word that is short for several switches. -/
structure Ambiguity where
  word : String
  candidates : List String
deriving DecidableEq, Repr

/-- The switch with the given spelling. -/
def spelt? (text : String) : Option Switch := spellings.lookup text

/-- Whether `s` starts with `front`. -/
def starts (front s : String) : Bool := front.toList.isPrefixOf s.toList

/-- Whether the text starts with two hyphens. -/
def isLong (text : String) : Bool := starts "--" text

/-- The switches that a word may stand for without naming one in full. -/
def candidates (word : String) : List (String × Match) :=
  if isLong word then
    let (front, value) := match Text.cutText '=' word with
      | some (front, value) => (front, some value)
      | none => (word, none)
    (spellings.filter fun p => starts front p.1).map fun p =>
      (p.1, { switch := p.2, isShort := !isLong p.1, value })
  else
    let letter := String.ofList (word.toList.take 2)
    let rest := String.ofList (word.toList.drop 2)
    spellings.filterMap fun p =>
      if p.1 = letter then
        some (p.1, { switch := p.2, isShort := true, value := some rest })
      else if starts word p.1 then
        some (p.1, { switch := p.2, isShort := !isLong p.1, value := none })
      else none

/-- Whether the word is a negative number, with digits of any script. -/
def isNegativeNumber (word : String) : Bool :=
  let isDigit (c : Char) : Bool := (Text.decimalDigit? c).isSome
  let body := match word.toList.drop 1 with
    | cs => if cs.getLast? = some '\n' then cs.dropLast else cs
  let fraction := (body.dropWhile isDigit).drop 1
  (!body.isEmpty && body.all isDigit) ||
    ((body.dropWhile isDigit).head? = some '.' && !fraction.isEmpty && fraction.all isDigit)

/-- What a word is that is not the divider. -/
def classify (word : String) : Except Ambiguity Word :=
  if word.toList.head? ≠ some '-' then .ok (.plain word)
  else
    match spelt? word with
    | some switch =>
      .ok (.switch { switch, isShort := !isLong word, value := none })
    | none =>
      if word = "-" then .ok (.plain word)
      else
        match (Text.cutText '=' word).bind fun p => (spelt? p.1).map fun s => (p, s) with
        | some ((front, value), switch) =>
          .ok (.switch { switch, isShort := !isLong front, value := some value })
        | none =>
          match candidates word with
          | [(_, m)] => .ok (.switch m)
          | [] =>
            if isNegativeNumber word || word.toList.contains ' ' then .ok (.plain word)
            else .ok (.unknown word)
          | several => .error { word, candidates := several.map Prod.fst }

/-- The word that divides a command line. -/
def divider : String := "--"

/-- The words of a command line.  After the divider no word is a switch. -/
structure Line where
  words : List Word
  /-- The words after the divider, if there is one. -/
  rest : Option (List String)
deriving DecidableEq, Repr

/-- What the words of a command line are. -/
def classifyAll : List String → Except Ambiguity Line
  | [] => .ok { words := [], rest := none }
  | word :: words =>
    if word = divider then .ok { words := [], rest := some words }
    else
      match classify word with
      | .error a => .error a
      | .ok w => (classifyAll words).map fun line => { line with words := w :: line.words }

end ResourceSymbols.Command
