import ResourceSymbols.Command.Switch
import ResourceSymbols.Log.Record

/-!
# Arguments

The arguments of the command are read from its words, from left to right.  One
word that belongs to no switch names the file to read; words left over are
refused in the end.  At most one input may be given: a file, a location, or the
standard input.
-/

namespace ResourceSymbols.Command

/-- Where a table may be read from. -/
inductive Input
  | file
  | url
  | stdin
deriving DecidableEq, Repr

/-- The input in messages. -/
def Input.label : Input → String
  | file => "file"
  | url => Switch.url.label
  | stdin => Switch.stdin.label

/-- All inputs. -/
def Input.all : List Input := [file, url, stdin]

/-- The arguments of the command. -/
structure Arguments where
  file : Option String := none
  url : Option String := none
  stdin : Bool := false
  package : Option String := none
  output : Option String := none
  outputDir : Option String := none
  allPackages : Bool := false
  noFinal : Bool := false
  config : Option String := none
  verbose : Bool := false
  /-- The level of the log, or nothing if a divider was given as its name. -/
  logLevel : Option Log.Severity := some .warning
deriving DecidableEq, Repr

/-- Why the words are no arguments. -/
inductive UsageError
  | ambiguous (a : Ambiguity)
  | noValue (s : Switch)
  | unwantedValue (s : Switch) (value : String)
  | conflict (i other : Input)
  | badLevel (value : String)
  | leftOver (words : List String)
deriving DecidableEq, Repr

/-- The levels that the log may be given. -/
def levels : List Log.Severity := [.debug, .info, .warning, .error]

/-- The error in words. -/
def UsageError.message : UsageError → String
  | ambiguous a => s!"ambiguous option: {a.word} could match " ++ ", ".intercalate a.candidates
  | noValue s => s!"argument {s.label}: expected one argument"
  | unwantedValue s value =>
    s!"argument {s.label}: ignored explicit argument {Text.quoted value}"
  | conflict i other => s!"argument {i.label}: not allowed with argument {other.label}"
  | badLevel value =>
    s!"argument {Switch.logLevel.label}: invalid choice: {Text.quoted value} (choose from " ++
      ", ".intercalate (levels.map fun l => Text.quoted l.name) ++ ")"
  | leftOver words => "unrecognized arguments: " ++ " ".intercalate words

/-- Why the command does not run. -/
inductive Stop
  /-- Help was asked for. -/
  | help
  | usage (e : UsageError)
deriving DecidableEq, Repr

/-- What was read so far. -/
structure Progress where
  arguments : Arguments := {}
  /-- The inputs that were given. -/
  inputs : List Input := []
  /-- Whether the word for the file was taken. -/
  fileTaken : Bool := false
  /-- Whether that was the last word. -/
  fileLast : Bool := false
  /-- The words left over. -/
  leftOver : List String := []

namespace Progress

/-- Notes that an input is given, unless another one was. -/
def giving (p : Progress) (i : Input) : Except Stop Progress :=
  match Input.all.find? fun j => j ≠ i && p.inputs.contains j with
  | some other => .error (.usage (.conflict i other))
  | none => .ok { p with inputs := i :: p.inputs }

/-- The progress with the arguments changed. -/
def changing (p : Progress) (f : Arguments → Arguments) : Progress :=
  { p with arguments := f p.arguments, fileLast := false }

/-- The value that a switch gets.  A divider given as a value is dropped. -/
def valueOf (text : String) : Option String := if text = divider then none else some text

/-- Takes a switch and its value. -/
def taking (p : Progress) (s : Switch) (text : String) : Except Stop Progress :=
  let value := valueOf text
  match s with
  | .help => .error .help
  | .url => (p.giving .url).map fun p => p.changing fun a => { a with url := value }
  | .stdin => (p.giving .stdin).map fun p => p.changing fun a => { a with stdin := true }
  | .package => .ok (p.changing fun a => { a with package := value })
  | .output => .ok (p.changing fun a => { a with output := value })
  | .outputDir => .ok (p.changing fun a => { a with outputDir := value })
  | .allPackages => .ok (p.changing fun a => { a with allPackages := true })
  | .noFinal => .ok (p.changing fun a => { a with noFinal := true })
  | .config => .ok (p.changing fun a => { a with config := value })
  | .verbose => .ok (p.changing fun a => { a with verbose := true })
  | .logLevel =>
    match levels.find? fun l => l.name = text with
    | some l => .ok (p.changing fun a => { a with logLevel := some l })
    | none =>
      if value.isSome then .error (.usage (.badLevel text))
      else .ok (p.changing fun a => { a with logLevel := none })

/-- Takes the word for the file. -/
def takingFile (p : Progress) (word : String) : Except Stop Progress :=
  (p.giving .file).map fun p =>
    { p.changing fun a => { a with file := some word } with fileTaken := true, fileLast := true }

/-- Leaves words over. -/
def leaving (p : Progress) (words : List String) : Progress :=
  { p with leftOver := p.leftOver ++ words, fileLast := false }

/-- Takes a word that belongs to no switch: as the file, or else as left over. -/
def takingWord (p : Progress) (word : String) : Except Stop Progress :=
  if p.fileTaken then .ok (p.leaving [word]) else p.takingFile word

/-- Takes the words after the divider.  The divider is left over as well, unless
it stands next to the word for the file. -/
def takingRest (p : Progress) (words : List String) : Except Stop Progress :=
  if p.fileTaken then .ok (p.leaving (if p.fileLast then words else divider :: words))
  else
    match words with
    | [] => .ok p
    | word :: others => (p.takingFile word).map fun p => p.leaving others

end Progress

/-- What is made of letters that follow a switch of one letter which takes no
value: each is one more such switch, and one that takes a value takes the rest or
the next word.  Help being the only such switch without a value, the command
stops in the end. -/
def cluster (next : Option Word) : List Char → Stop
  | [] => .help
  | letter :: rest =>
    match spelt? (String.ofList ['-', letter]) with
    | none => .usage (.unwantedValue .help (String.ofList (letter :: rest)))
    | some switch =>
      if !switch.takesValue then cluster next rest
      else
        match rest, next with
        | [], some (.plain _) => .help
        | [], _ => .usage (.noValue switch)
        | _ :: _, _ => .help

/-- Takes a value that stands in the same word as its switch. -/
def takeJoined (p : Progress) (m : Match) (value : String) (next : Option Word) :
    Except Stop Progress :=
  if m.switch.takesValue then p.taking m.switch value
  else if m.isShort && !value.isEmpty then .error (cluster next value.toList)
  else .error (.usage (.unwantedValue m.switch value))

/-- Reads the words in front of the divider, from left to right. -/
def readWords (p : Progress) : List Word → Except Stop Progress
  | [] => .ok p
  | .unknown text :: words => readWords (p.leaving [text]) words
  | .plain text :: words =>
    match p.takingWord text with
    | .error s => .error s
    | .ok p => readWords p words
  | .switch m :: words =>
    match m.value with
    | some value =>
      match takeJoined p m value words.head? with
      | .error s => .error s
      | .ok p => readWords p words
    | none =>
      if m.switch.takesValue then
        match words with
        | .plain text :: rest =>
          match p.taking m.switch text with
          | .error s => .error s
          | .ok p => readWords p rest
        | _ => .error (.usage (.noValue m.switch))
      else
        match p.taking m.switch "" with
        | .error s => .error s
        | .ok p => readWords p words

/-- Reads the words of a command line. -/
def readLine (line : Line) : Except Stop Progress :=
  match readWords {} line.words with
  | .error s => .error s
  | .ok p =>
    match line.rest with
    | none => .ok p
    | some words => p.takingRest words

/-- The arguments that the words of a command line give. -/
def Arguments.read (words : List String) : Except Stop Arguments :=
  match classifyAll words with
  | .error a => .error (.usage (.ambiguous a))
  | .ok line =>
    match readLine line with
    | .error s => .error s
    | .ok p =>
      if p.leftOver.isEmpty then .ok p.arguments else .error (.usage (.leftOver p.leftOver))

end ResourceSymbols.Command
