import ResourceSymbols.Proofs.ArrayLines

/-!
# Reading a class

A reader of the text of a class, for the proof that the text tells what is
declared.  It goes line by line: a line is told by what it starts with, and its
value by the last blank, so a name may hold anything but a line break.

The lines are read from the last to the first.  A constant is kept until the
line before tells whose it is: the nearest array above has it as an index, and
where there is no array it is declared by the group.

## Main results

* `ofChars_constant` and the like — each line is told apart.
* `read_line` — a line is read before the lines after it.
* `read_constantLine`, `read_arrayText` — what the lines of an entry add.
-/

namespace ResourceSymbols.RClass

open Resource (Id)

/-! ## Lines -/

/-- What stands after the prefix, if the text starts with it. -/
def after? : List Char → List Char → Option (List Char)
  | [], cs => some cs
  | _ :: _, [] => none
  | p :: ps, c :: cs => if p = c then after? ps cs else none

/-- A line of a class. -/
inductive Line
  /-- The line of the package. -/
  | package (name : String)
  /-- The line that opens the class of a kind. -/
  | group (tag : String)
  /-- The line of a constant. -/
  | constant (symbol value : String)
  /-- The line that opens an array. -/
  | array (symbol : String)
  /-- A line of identifiers. -/
  | items (text : List Char)
  /-- Any other line. -/
  | other
deriving DecidableEq, Repr

namespace Line

/-- The line of a constant, from the symbol on. -/
def ofConstant (cs : List Char) : Line :=
  match Text.cut ' ' (cs.reverse.drop 1) with
  | some (value, symbol) =>
      .constant (String.ofList (symbol.drop 2).reverse) (String.ofList value.reverse)
  | none => .other

/-- What a line of identifiers starts with. -/
def itemIndent : List Char := "            ".toList

/-- The beginnings of lines, and how each of them goes on. -/
def forms : List (List Char × (List Char → Line)) := [
  ("package ".toList, fun cs => .package (String.ofList cs.dropLast)),
  ("    public static final class ".toList, fun cs =>
    .group (String.ofList (cs.take (cs.length - 2)))),
  ("        public static final int[] ".toList, fun cs =>
    .array (String.ofList (cs.take (cs.length - 4)))),
  ("        public static final int ".toList, ofConstant),
  ("        public static int ".toList, ofConstant),
  (itemIndent, fun cs => .items (itemIndent ++ cs))]

/-- The line with the given characters. -/
def ofChars (cs : List Char) : Line :=
  (forms.findSome? fun form => (after? form.1 cs).map form.2).getD .other

theorem ofConstant_append (symbol : String) {value : String} (hValue : ' ' ∉ value.toList) :
    ofConstant ((symbol ++ " = " ++ value ++ ";").toList) = .constant symbol value := by
  have hCut : Text.cut ' ' ((symbol ++ " = " ++ value ++ ";").toList.reverse.drop 1) =
      some (value.toList.reverse, '=' :: ' ' :: symbol.toList.reverse) := by
    rw [Text.cut_eq_some_iff]
    refine ⟨?_, by simpa using hValue⟩
    simp only [String.toList_append, List.reverse_append]
    show value.toList.reverse ++ ([' ', '=', ' '] ++ symbol.toList.reverse) = _
    rfl
  unfold ofConstant
  rw [hCut]
  simp

theorem ofChars_package (name : String) :
    ofChars ("package " ++ name ++ ";").toList = .package name := by
  simp only [String.toList_append, List.append_assoc]
  show Line.package (String.ofList (name.toList ++ [';']).dropLast) = _
  rw [List.dropLast_concat, String.ofList_toList]

theorem ofChars_group (tag : String) :
    ofChars ("    public static final class " ++ tag ++ " \x7b").toList = .group tag := by
  simp only [String.toList_append, List.append_assoc]
  show Line.group (String.ofList ((tag.toList ++ [' ', '\x7b']).take
    ((tag.toList ++ [' ', '\x7b']).length - 2))) = _
  simp

theorem ofChars_array (symbol : String) :
    ofChars ("        public static final int[] " ++ symbol ++ " = \x7b").toList =
      .array symbol := by
  simp only [String.toList_append, List.append_assoc]
  show Line.array (String.ofList ((symbol.toList ++ [' ', '=', ' ', '\x7b']).take
    ((symbol.toList ++ [' ', '=', ' ', '\x7b']).length - 4))) = _
  simp

theorem ofChars_items (cs : List Char) :
    ofChars (itemIndent ++ cs) = .items (itemIndent ++ cs) := by
  rfl

/-- The line of a constant without its end. -/
theorem ofChars_constant (style : Style) (symbol : String) {value : String}
    (hValue : ' ' ∉ value.toList) :
    ofChars ("        public static" ++ (if style.isFinal then " final" else "") ++
      " int " ++ (symbol ++ " = " ++ value ++ ";")).toList = .constant symbol value := by
  rw [← ofConstant_append symbol hValue]
  generalize symbol ++ " = " ++ value ++ ";" = rest
  simp only [String.toList_append, List.append_assoc]
  cases style.isFinal <;> rfl

end Line

/-! ## What is read -/

/-- What a class declares for an entry. -/
inductive Declared
  /-- A constant with a packed identifier. -/
  | constant (symbol : String) (id : Int)
  /-- An array of packed identifiers, and a constant for each index. -/
  | array (symbol : String) (ids : List Int) (indices : List (String × Nat))
deriving DecidableEq, Repr

/-- What was read of a class, from its end on. -/
structure Reading where
  package : String := ""
  /-- The groups that were read as a whole. -/
  groups : List (String × List Declared) := []
  /-- The arrays of the group under way. -/
  arrays : List Declared := []
  /-- The constants that no array and no group has yet, each with its value. -/
  constants : List (String × String) := []
  /-- The lines of identifiers that no array has yet. -/
  body : List Char := []
deriving DecidableEq, Repr

namespace Reading

/-- The constant that a group declares. -/
def member (c : String × String) : Declared :=
  .constant c.1 ((Number.Literal.int? c.2).getD 0)

/-- The index that a constant stands for. -/
def index (c : String × String) : String × Nat :=
  (c.1, Nat.ofDigitChars 10 c.2.toList 0)

/-- Reads the line before those that were read. -/
def step (r : Reading) : Line → Reading
  | .package name => { r with package := name }
  | .group tag =>
      { package := r.package
        groups := (tag, r.constants.map member ++ r.arrays) :: r.groups }
  | .constant symbol value => { r with constants := (symbol, value) :: r.constants }
  | .array symbol =>
      { r with
        arrays := .array symbol ((elements (String.ofList r.body)).filterMap id)
          (r.constants.map index) :: r.arrays
        constants := []
        body := [] }
  | .items text => { r with body := '\n' :: text ++ r.body }
  | .other => { r with body := [] }

end Reading

/-- Reads lines, the last one first. -/
def readLines (lines : List (List Char)) : Reading :=
  (lines.map Line.ofChars).foldr (fun line r => r.step line) {}

/-- Reads the text of a class. -/
def read (text : String) : Reading := readLines (Text.pieces '\n' text.toList)

/-- A line is read before the lines after it. -/
theorem read_line (line : String) (hLine : '\n' ∉ line.toList) (rest : String) :
    read (line ++ "\n" ++ rest) = (read rest).step (Line.ofChars line.toList) := by
  have hChars : (line ++ "\n" ++ rest).toList = line.toList ++ '\n' :: rest.toList := by
    rw [String.toList_append, String.toList_append, List.append_assoc]
    rfl
  rw [read, hChars, Text.pieces_append hLine]
  rfl

/-! ## The lines of a constant and of an array -/

theorem newline_not_mem_text (id : Id) : '\n' ∉ id.text.toList :=
  Number.Literal.not_mem_text (by decide) (by decide) (by decide) id

theorem read_constantLine (style : Style) {symbol value : String}
    (hSymbol : '\n' ∉ symbol.toList) (hValue : '\n' ∉ value.toList)
    (hBlank : ' ' ∉ value.toList) (rest : String) :
    read (constantLine style symbol value ++ rest) =
      { read rest with constants := (symbol, value) :: (read rest).constants } := by
  have hText : constantLine style symbol value ++ rest =
      ("        public static" ++ (if style.isFinal then " final" else "") ++ " int " ++
        (symbol ++ " = " ++ value ++ ";")) ++ "\n" ++ rest := by
    have hEnd : ";\n" = ";" ++ "\n" := by decide
    unfold constantLine
    rw [hEnd]
    simp only [String.append_assoc]
  rw [hText, read_line _ ?_ rest, Line.ofChars_constant style symbol hBlank]
  · rfl
  · simp only [String.toList_append, List.mem_append, not_or]
    refine ⟨⟨⟨by decide, ?_⟩, by decide⟩, ⟨⟨hSymbol, by decide⟩, hValue⟩, by decide⟩
    cases style.isFinal <;> decide

/-- Lines of identifiers are kept as they stand. -/
theorem readLines_items {ls : List (List Char)}
    (hItems : ∀ l ∈ ls, ∃ cs, l = Line.itemIndent ++ cs)
    (more : List (List Char)) :
    readLines (ls ++ more) =
      { readLines more with
        body := ls.flatMap (fun l => '\n' :: l) ++ (readLines more).body } := by
  induction ls with
  | nil => rfl
  | cons l ls ih =>
      obtain ⟨cs, hItem⟩ := hItems l List.mem_cons_self
      have hLine : Line.ofChars l = .items l := by
        rw [hItem]
        exact Line.ofChars_items cs
      show (readLines (ls ++ more)).step (Line.ofChars l) = _
      rw [ih fun k hk => hItems k (List.mem_cons_of_mem _ hk), hLine,
        List.flatMap_cons, List.append_assoc]
      rfl

/-- An array takes all constants after it as its indices. -/
theorem read_arrayText {symbol : String} (hSymbol : '\n' ∉ symbol.toList)
    (ids : List Id) (rest : String) :
    read (arrayText symbol (String.join (itemPieces 0 ids)) ++ rest) =
      { read rest with
        arrays := .array symbol (ids.map fun id => (id.number : Int))
          ((read rest).constants.map Reading.index) :: (read rest).arrays
        constants := []
        body := [] } := by
  have hPieces := pieces_itemPieces ids ("        \x7d;" ++ "\n" ++ rest).toList
  have hBody := toList_join_itemPieces ids
  have hItems : ∀ l ∈ (arrayLines (rows ids)).map String.toList,
      ∃ cs, l = Line.itemIndent ++ cs := by
    have hIndent : Line.itemIndent = List.replicate 12 ' ' := by decide
    rw [List.forall_mem_map, hIndent]
    exact indented_of_mem_arrayLines
  generalize (arrayLines (rows ids)).map String.toList = ls at hPieces hBody hItems
  have hText : (arrayText symbol (String.join (itemPieces 0 ids)) ++ rest).toList =
      ("        public static final int[] " ++ symbol ++ " = \x7b").toList ++
        ((String.join (itemPieces 0 ids)).toList ++
          '\n' :: ("        \x7d;" ++ "\n" ++ rest).toList) := by
    unfold arrayText
    simp only [String.toList_append, List.append_assoc]
    rfl
  have hOpening : '\n' ∉
      ("        public static final int[] " ++ symbol ++ " = \x7b").toList := by
    simp only [String.toList_append, List.mem_append, not_or]
    exact ⟨⟨by decide, hSymbol⟩, by decide⟩
  have hClosing : readLines (Text.pieces '\n' ("        \x7d;" ++ "\n" ++ rest).toList) =
      { read rest with body := [] } := read_line _ (by decide) rest
  have hElements : (elements (String.ofList (ls.flatMap fun l => '\n' :: l))).filterMap
      (fun id => id) = ids.map fun id => (id.number : Int) := by
    rw [← hBody, String.ofList_toList, elements_itemPieces, List.filterMap_map]
    exact congrFun List.filterMap_eq_map ids
  -- The opening is read last, and finds the lines of identifiers and the constants.
  rw [read, hText, Text.pieces_append_first hOpening hPieces, List.append_nil]
  show (readLines (ls ++ _)).step (Line.ofChars _) = _
  rw [readLines_items hItems, hClosing, Line.ofChars_array]
  simp only [Reading.step, List.append_nil]
  rw [← hElements]
  rfl

/-! ## The lines around the entries -/

theorem read_groupOpeningText {tag : String} (hTag : '\n' ∉ tag.toList)
    (rest : String) :
    read (groupOpeningText tag ++ rest) = (read rest).step (.group tag) := by
  have hText : groupOpeningText tag ++ rest =
      ("    public static final class " ++ tag ++ " \x7b") ++ "\n" ++ rest := by
    have hEnd : " \x7b\n" = " \x7b" ++ "\n" := by decide
    unfold groupOpeningText
    rw [hEnd]
    simp only [String.append_assoc]
  rw [hText, read_line _ ?_ rest, Line.ofChars_group]
  simp only [String.toList_append, List.mem_append, not_or]
  exact ⟨⟨by decide, hTag⟩, by decide⟩

theorem read_groupClosingText (rest : String) :
    read (groupClosingText ++ rest) = { read rest with body := [] } :=
  read_line "    \x7d" (by decide) rest

/-- Lines that tell nothing are passed over. -/
theorem read_others {lines : List String} (hSome : lines ≠ [])
    (hOther : ∀ l ∈ lines, '\n' ∉ l.toList ∧ Line.ofChars l.toList = .other)
    (rest : String) :
    read (String.join (lines.map fun l => l ++ "\n") ++ rest) =
      { read rest with body := [] } := by
  induction lines with
  | nil => exact absurd rfl hSome
  | cons l ls ih =>
      obtain ⟨hLine, hForm⟩ := hOther l List.mem_cons_self
      rw [List.map_cons, String.join_cons, String.append_assoc, read_line l hLine, hForm]
      by_cases hLast : ls = []
      · rw [hLast, List.map_nil, String.join_nil, String.empty_append]
        rfl
      · rw [ih hLast fun k hk => hOther k (List.mem_cons_of_mem _ hk)]
        rfl

/-- The lines of the header up to that of the package. -/
def headerLines : List String := [
  "/* AUTO-GENERATED FILE. DO NOT MODIFY.",
  " *",
  " * This class was automatically generated by the",
  " * resgen tool from the resource data it found. It",
  " * should not be modified by hand.",
  " */",
  ""]

/-- The header up to the name of the package. -/
def headerStart : String :=
  String.join (headerLines.map fun l => l ++ "\n") ++ "package "

theorem headerText_eq (package : String) :
    headerText package = headerStart ++ package ++ ";\n" ++ "\n" := by
  have hStart : ∀ start, start = String.join (headerLines.map fun l => l ++ "\n") →
      start ++ "package " ++ package ++ ";\n" ++ "\n" =
        headerStart ++ package ++ ";\n" ++ "\n" := by
    intro start hLines
    rw [hLines, headerStart]
  exact hStart _ (by decide +kernel)

/-- The header tells the package. -/
theorem read_headerText {package : String} (hPackage : '\n' ∉ package.toList)
    (rest : String) :
    read (headerText package ++ rest) =
      { read rest with package := package, body := [] } := by
  have hText : headerText package ++ rest =
      String.join (headerLines.map fun l => l ++ "\n") ++
        (("package " ++ package ++ ";") ++ "\n" ++ ("\n" ++ rest)) := by
    have hEnd : ";\n" = ";" ++ "\n" := by decide
    rw [headerText_eq, headerStart, hEnd]
    simp only [String.append_assoc]
  have hLine : '\n' ∉ ("package " ++ package ++ ";").toList := by
    simp only [String.toList_append, List.mem_append, not_or]
    exact ⟨⟨by decide, hPackage⟩, by decide⟩
  have hEmpty : read ("\n" ++ rest) = { read rest with body := [] } :=
    read_line "" (by decide) rest
  rw [hText, read_others (by decide) (by decide +kernel), read_line _ hLine,
    Line.ofChars_package, hEmpty]
  rfl

end ResourceSymbols.RClass
