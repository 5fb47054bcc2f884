import ResourceSymbols.Proofs.ArrayLayout
import ResourceSymbols.Proofs.Recovery

/-!
# The lines of a class

Whatever stops a class, what was written of it is made of lines of a few forms: those of
its header, the openings of blocks and arrays, the lines of constants, and lines of
identifiers and braces, which hold no letter but those of hexadecimal digits.  Only the
openings of arrays and the lines of constants hold symbols, and each of them is one that
the table has for the package.

The writing may be broken off within an array, so all beginnings of the pieces are followed
and not only the whole.

## Main results

* `Sound.append` — beginnings of pieces that come one after the other.
* `sound_arrayPieces`, `sound_pieces` — what is written for an entry.
* `sound_run` — what a run writes, wherever it stops.
* `isLine_of_mem_written` — the lines of what a generation wrote.
-/

namespace ResourceSymbols.RClass

open Resource (Attribute Entry Group Id Kind Table)

/-! ## Lines of texts -/

/-- The lines of a text, the last one being what follows the last break. -/
def linesOf (text : String) : List (List Char) := Text.pieces '\n' text.toList

theorem linesOf_append_newline (text rest : String) :
    linesOf (text ++ "\n" ++ rest) = linesOf text ++ linesOf rest := by
  have hChars : (text ++ "\n" ++ rest).toList = text.toList ++ '\n' :: rest.toList := by
    rw [String.toList_append, String.toList_append, List.append_assoc]
    rfl
  rw [linesOf, hChars, Text.pieces_append_cons]
  rfl

theorem linesOf_join {ls : List String} (hLines : ∀ l ∈ ls, '\n' ∉ l.toList) :
    linesOf (String.join (ls.map fun l => l ++ "\n")) = ls.map String.toList ++ [[]] := by
  induction ls with
  | nil => rfl
  | cons l ls ih =>
      rw [List.forall_mem_cons] at hLines
      rw [List.map_cons, String.join_cons, linesOf_append_newline, ih hLines.2, linesOf,
        Text.pieces_eq_singleton hLines.1]
      rfl

/-! ## Beginnings of pieces -/

/-- Wherever the pieces are broken off, the lines of what was written are sound; and the
pieces as a whole end with a line. -/
structure Sound (P : List Char → Prop) (pieces : List String) : Prop where
  lines : ∀ front, front <+: pieces → ∀ line ∈ linesOf (String.join front), P line
  closed : String.join pieces = "" ∨ ∃ text, String.join pieces = text ++ "\n"

section

variable {P : List Char → Prop}

theorem sound_nil (hEmpty : P []) : Sound P [] where
  lines front hFront line hLine := by
    rw [List.prefix_nil.1 hFront] at hLine
    rwa [List.mem_singleton.1 hLine]
  closed := .inl rfl

/-- Pieces that are broken off in the second part come after all of the first part, which
ends with a line. -/
theorem Sound.append {a b : List String} (ha : Sound P a) (hb : Sound P b) :
    Sound P (a ++ b) where
  lines front hFront line hLine := by
    obtain ⟨back, hSplit⟩ := hFront
    rcases List.append_eq_append_iff.1 hSplit with ⟨more, rfl, -⟩ | ⟨more, rfl, rfl⟩
    · exact ha.lines front (List.prefix_append _ _) line hLine
    · have hMore := hb.lines more (List.prefix_append _ _)
      rw [String.join_append] at hLine
      rcases ha.closed with hNone | ⟨text, hText⟩
      · rw [hNone, String.empty_append] at hLine
        exact hMore line hLine
      · have hFirst := ha.lines a List.prefix_rfl
        have hEnd := linesOf_append_newline text ""
        rw [String.append_empty] at hEnd
        rw [hText, hEnd] at hFirst
        rw [hText, linesOf_append_newline, List.mem_append] at hLine
        rcases hLine with hLine | hLine
        · exact hFirst line (List.mem_append_left _ hLine)
        · exact hMore line hLine
  closed := by
    rw [String.join_append]
    rcases hb.closed with hNone | ⟨text, hText⟩
    · rw [hNone, String.append_empty]
      exact ha.closed
    · exact .inr ⟨String.join a ++ text, by rw [hText, String.append_assoc]⟩

/-- A piece that is made of sound lines. -/
theorem sound_lines (hEmpty : P []) (ls : List String)
    (hLines : ∀ l ∈ ls, '\n' ∉ l.toList ∧ P l.toList) :
    Sound P [String.join (ls.map fun l => l ++ "\n")] where
  lines front hFront line hLine := by
    cases front with
    | nil => rwa [List.mem_singleton.1 hLine]
    | cons piece more =>
        obtain ⟨rfl, hMore⟩ := List.cons_prefix_cons.1 hFront
        rw [List.prefix_nil.1 hMore, String.join_cons, String.join_nil, String.append_empty,
          linesOf_join fun l hl => (hLines l hl).1, List.mem_append, List.mem_singleton]
          at hLine
        rcases hLine with hLine | rfl
        · obtain ⟨l, hl, rfl⟩ := List.mem_map.1 hLine
          exact (hLines l hl).2
        · exact hEmpty
  closed := by
    rw [String.join_cons, String.join_nil, String.append_empty]
    rcases List.eq_nil_or_concat ls with rfl | ⟨init, last, rfl⟩
    · exact .inl rfl
    · refine .inr ⟨String.join (init.map fun l => l ++ "\n") ++ last, ?_⟩
      rw [List.concat_eq_append, List.map_append, String.join_append, List.map_cons,
        String.join_cons, List.map_nil, String.join_nil, String.append_empty,
        String.append_assoc]

theorem sound_line (hEmpty : P []) (line : String) (hLine : '\n' ∉ line.toList)
    (hSound : P line.toList) : Sound P [line ++ "\n"] := by
  have hLines := sound_lines hEmpty [line] (by simpa using ⟨hLine, hSound⟩)
  simpa only [List.map_cons, List.map_nil, String.join_cons, String.join_nil,
    String.append_empty] using hLines

end

/-! ## Arrays -/

/-- What is written inside an array holds no letter `n`, for hexadecimal digits have
none. -/
theorem not_mem_join_items (ids : List Id) :
    'n' ∉ (String.join (itemPieces 0 ids ++ ["\n        \x7d;\n"])).toList := by
  have hLines := not_mem_arrayLines (c := 'n') (by decide) (by decide)
    (Number.Literal.not_mem_text (by decide) (by decide) (by decide)) (rows ids)
  rw [String.join_append, String.toList_append, List.mem_append, not_or,
    toList_join_itemPieces, List.mem_flatMap]
  refine ⟨?_, by decide⟩
  rintro ⟨l, hl, hMem⟩
  obtain ⟨line, hLine, rfl⟩ := List.mem_map.1 hl
  rcases List.mem_cons.1 hMem with hBreak | hMem
  · exact absurd hBreak (by decide)
  · exact hLines line hLine hMem

/-- What is written inside an array starts with the break after its opening. -/
theorem exists_break_of_prefix {ids : List Id} {item : String} {more : List String}
    (hItems : item :: more <+: itemPieces 0 ids ++ ["\n        \x7d;\n"]) :
    ∃ rest, (String.join (item :: more)).toList = '\n' :: rest := by
  have hItem : ∃ rest, item.toList = '\n' :: rest := by
    cases ids with
    | nil =>
        obtain ⟨rfl, -⟩ := List.cons_prefix_cons.1 hItems
        exact ⟨_, rfl⟩
    | cons id ids =>
        obtain ⟨rfl, -⟩ := List.cons_prefix_cons.1 hItems
        exact ⟨_, rfl⟩
  obtain ⟨rest, hRest⟩ := hItem
  exact ⟨_, by rw [String.join_cons, String.toList_append, hRest, List.cons_append]⟩

/-- The opening of an array, and what is written of it before it is broken off. -/
theorem lines_of_prefix {opening : String} (hOpening : '\n' ∉ opening.toList) {ids : List Id}
    {items : List String} (hItems : items <+: itemPieces 0 ids ++ ["\n        \x7d;\n"])
    {line : List Char} (hLine : line ∈ linesOf (opening ++ String.join items)) :
    line = opening.toList ∨ 'n' ∉ line := by
  rw [linesOf, String.toList_append] at hLine
  cases items with
  | nil =>
      rw [String.join_nil, show "".toList = [] from rfl, List.append_nil,
        Text.pieces_eq_singleton hOpening, List.mem_singleton] at hLine
      exact .inl hLine
  | cons item more =>
      obtain ⟨rest, hRest⟩ := exists_break_of_prefix hItems
      have hNone : 'n' ∉ (String.join (item :: more)).toList := by
        obtain ⟨back, hBack⟩ := hItems
        have hAll := not_mem_join_items ids
        rw [← hBack, String.join_append, String.toList_append, List.mem_append, not_or] at hAll
        exact hAll.1
      rw [hRest] at hLine hNone
      rw [Text.pieces_append hOpening, List.mem_cons] at hLine
      exact hLine.imp_right fun hLine hMem =>
        hNone (List.mem_cons_of_mem _ (Text.mem_of_mem_pieces hLine hMem).2)

/-- An array may be broken off after its opening, or between identifiers. -/
theorem sound_arrayPieces {P : List Char → Prop} (hPlain : ∀ line, 'n' ∉ line → P line)
    {name : String} (hName : '\n' ∉ (Symbol.transform name).toList)
    (hOpening : P ("        public static final int[] " ++ Symbol.transform name ++
      " = \x7b").toList) (ids : List Id) :
    Sound P (arrayPieces name ids) where
  lines front hFront line hLine := by
    have hNoBreak : '\n' ∉ ("        public static final int[] " ++ Symbol.transform name ++
        " = \x7b").toList := by
      simp only [String.toList_append, List.mem_append, not_or]
      exact ⟨⟨by decide, hName⟩, by decide⟩
    cases front with
    | nil =>
        rw [List.mem_singleton.1 hLine]
        exact hPlain [] List.not_mem_nil
    | cons opening items =>
        rw [arrayPieces, List.cons_prefix_cons] at hFront
        obtain ⟨hHead, hItems⟩ := hFront
        rw [String.join_cons, hHead] at hLine
        rcases lines_of_prefix hNoBreak hItems hLine with rfl | hNone
        · exact hOpening
        · exact hPlain line hNone
  closed := by
    have hEnd : ∀ text : String,
        text ++ "\n        \x7d;\n" = text ++ "\n        \x7d;" ++ "\n" := by
      intro text
      rw [String.append_assoc]
      rfl
    exact .inr ⟨_, (join_arrayPieces name ids).trans (hEnd _)⟩

/-! ## Lines of a class -/

/-- The symbols that are declared for an entry, by what becomes of it. -/
def Fate.symbols (own : String) : Fate → List String
  | skipped => []
  | silent _ => []
  | constant name _ => [Symbol.transform name]
  | array name attributes => Symbol.transform name :: attributes.map (indexSymbol own name)

/-- The table has the symbol for the package: an entry of its own is declared by it. -/
def Declares (t : Table) (package : Option String) (symbol : String) : Prop :=
  ∃ g ∈ t.groups, ∃ e ∈ g.entries, ∃ f, fate t package g e = .ok f ∧ symbol ∈ f.symbols t.package

/-- A line of a class of the package, whose header shows the label. -/
inductive IsLine (t : Table) (package : Option String) (label : String) : List Char → Prop
  | header {line : String} (hLine : line ∈ headerLines) : IsLine t package label line.toList
  | package : IsLine t package label ("package " ++ label ++ ";").toList
  | opening : IsLine t package label "public final class R \x7b".toList
  | block (kind : Kind) :
      IsLine t package label ("    public static final class " ++ kind.tag ++ " \x7b").toList
  | constant (style : Style) {symbol value : String} (hSymbol : Declares t package symbol)
      (hValue : ' ' ∉ value.toList) :
      IsLine t package label ("        public static" ++
        (if style.isFinal then " final" else "") ++ " int " ++
          (symbol ++ " = " ++ value ++ ";")).toList
  | array {symbol : String} (hSymbol : Declares t package symbol) :
      IsLine t package label ("        public static final int[] " ++ symbol ++ " = \x7b").toList
  | plain {line : List Char} (hPlain : 'n' ∉ line) : IsLine t package label line

section

variable {t : Table} {package : Option String} {label : String}

theorem isLine_nil : IsLine t package label [] := .plain List.not_mem_nil

/-- The line of a constant, for a symbol on one line. -/
theorem sound_constantLine (style : Style) {symbol value : String}
    (hSymbol : Declares t package symbol) (hNoBreak : '\n' ∉ symbol.toList)
    (hValue : ' ' ∉ value.toList) (hBreak : '\n' ∉ value.toList) :
    Sound (IsLine t package label) [constantLine style symbol value] := by
  have hOneLine : '\n' ∉ ("        public static" ++
      (if style.isFinal then " final" else "") ++ " int " ++
        (symbol ++ " = " ++ value ++ ";")).toList := by
    simp only [String.toList_append, List.mem_append, not_or]
    refine ⟨⟨⟨by decide, ?_⟩, by decide⟩, ⟨⟨hNoBreak, by decide⟩, hBreak⟩, by decide⟩
    cases style.isFinal <;> decide
  have hText : constantLine style symbol value = ("        public static" ++
      (if style.isFinal then " final" else "") ++ " int " ++
        (symbol ++ " = " ++ value ++ ";")) ++ "\n" := by
    have hEnd : ";\n" = ";" ++ "\n" := by decide
    unfold constantLine
    rw [hEnd]
    simp only [String.append_assoc]
  rw [hText]
  exact sound_line isLine_nil _ hOneLine (.constant style hSymbol hValue)

theorem sound_indexLines (style : Style) {own owner : String} (index : Nat)
    {attributes : List Attribute}
    (hSymbols : ∀ a ∈ attributes, Declares t package (indexSymbol own owner a))
    (hNoBreak : ∀ a ∈ attributes, '\n' ∉ (indexSymbol own owner a).toList) :
    Sound (IsLine t package label) (indexLines style own owner index attributes) := by
  induction attributes generalizing index with
  | nil => exact sound_nil isLine_nil
  | cons a as ih =>
      have hRest := ih (index + 1) (fun b hb => hSymbols b (List.mem_cons_of_mem _ hb))
        fun b hb => hNoBreak b (List.mem_cons_of_mem _ hb)
      exact (sound_constantLine style (hSymbols a List.mem_cons_self)
        (hNoBreak a List.mem_cons_self) (not_mem_toString index (by decide))
        (not_mem_toString index (by decide))).append hRest

/-- What is written for an entry whose symbols stand on one line. -/
theorem sound_pieces (style : Style) {f : Fate}
    (hSymbols : ∀ symbol ∈ f.symbols t.package, Declares t package symbol)
    (hNoBreak : ∀ symbol ∈ f.symbols t.package, '\n' ∉ symbol.toList) :
    Sound (IsLine t package label) (f.pieces style t.package) := by
  cases f with
  | skipped => exact sound_nil isLine_nil
  | silent name => exact sound_nil isLine_nil
  | constant name id =>
      exact sound_constantLine style (hSymbols _ List.mem_cons_self)
        (hNoBreak _ List.mem_cons_self)
        (Number.Literal.not_mem_text (by decide) (by decide) (by decide) id)
        (newline_not_mem_text id)
  | array name attributes =>
      rw [Fate.symbols, List.forall_mem_cons, List.forall_mem_map] at hSymbols hNoBreak
      rw [Fate.pieces, indexPieces_eq]
      exact (sound_arrayPieces (fun _ => .plain) hNoBreak.1 (.array hSymbols.1) _).append
        (sound_indexLines style 0 hSymbols.2 hNoBreak.2)

/-- The header tells the label on a line of its own. -/
theorem sound_headerText (hLabel : '\n' ∉ label.toList) :
    Sound (IsLine t package label) [headerText label] := by
  have hText : headerText label =
      String.join ((headerLines ++ ["package " ++ label ++ ";", ""]).map fun l => l ++ "\n") := by
    have hEnd : ";\n" = ";" ++ "\n" := by decide
    rw [headerText_eq, headerStart, List.map_append, String.join_append, hEnd]
    simp only [List.map_cons, List.map_nil, String.join_cons, String.join_nil,
      String.append_empty, String.empty_append, String.append_assoc]
  rw [hText]
  refine sound_lines isLine_nil _ ?_
  intro l hl
  rw [List.mem_append] at hl
  rcases hl with hl | hl
  · have hAll : ∀ l ∈ headerLines, '\n' ∉ l.toList := by decide
    exact ⟨hAll l hl, .header hl⟩
  · rw [List.mem_cons, List.mem_singleton] at hl
    rcases hl with rfl | rfl
    · simp only [String.toList_append, List.mem_append, not_or]
      exact ⟨⟨⟨by decide, hLabel⟩, by decide⟩,
        by simpa only [String.toList_append] using IsLine.package⟩
    · exact ⟨List.not_mem_nil, isLine_nil⟩

end

/-! ## Runs -/

section

variable (style : Style) {t : Table} {package : Option String} {label : String}

theorem sound_andThen {P : List Char → Prop} {a b : Run} (ha : Sound P a.pieces)
    (hb : Sound P b.pieces) : Sound P (a.andThen b).pieces := by
  unfold Run.andThen
  cases a.offence with
  | some o => exact ha
  | none => exact ha.append hb

/-- Symbols of the package that stand on one line. -/
def OneLineIn (t : Table) (package : Option String) : Prop :=
  ∀ symbol, Declares t package symbol → '\n' ∉ symbol.toList

theorem sound_runEntries (hOneLine : OneLineIn t package) {g : Group} (hg : g ∈ t.groups)
    {es : List Entry} (hes : ∀ e ∈ es, e ∈ g.entries) :
    Sound (IsLine t package label) (runEntries style t package g es).pieces := by
  induction es with
  | nil => exact sound_nil isLine_nil
  | cons e es ih =>
      rw [List.forall_mem_cons] at hes
      unfold runEntries
      cases hFate : fate t package g e with
      | error o => exact sound_nil isLine_nil
      | ok f =>
          have hSymbols : ∀ symbol ∈ f.symbols t.package, Declares t package symbol :=
            fun symbol hMem => ⟨g, hg, e, hes.1, f, hFate, hMem⟩
          have hEntry : Sound (IsLine t package label) (f.run style t.package).pieces :=
            sound_pieces style hSymbols fun symbol hMem => hOneLine symbol (hSymbols symbol hMem)
          exact sound_andThen hEntry (ih hes.2)

theorem sound_runGroup (hOneLine : OneLineIn t package) {g : Group} (hg : g ∈ t.groups) :
    Sound (IsLine t package label) (runGroup style t package g).pieces := by
  have hLine : groupOpeningText g.kind.tag =
      ("    public static final class " ++ g.kind.tag ++ " \x7b") ++ "\n" := by
    have hEnd : " \x7b\n" = " \x7b" ++ "\n" := by decide
    unfold groupOpeningText
    rw [hEnd]
    simp only [String.append_assoc]
  have hNoBreak : '\n' ∉ ("    public static final class " ++ g.kind.tag ++ " \x7b").toList := by
    simp only [String.toList_append, List.mem_append, not_or]
    exact ⟨⟨by decide, newline_not_mem_tag g.kind⟩, by decide⟩
  have hOpening : Sound (IsLine t package label) (Run.writing [groupOpeningText g.kind.tag]).pieces :=
    hLine ▸ sound_line isLine_nil _ hNoBreak (.block g.kind)
  have hClosing : Sound (IsLine t package label) (Run.writing [groupClosingText]).pieces :=
    sound_line isLine_nil "    \x7d" (by decide) (.plain (by decide))
  exact sound_andThen hOpening
    (sound_andThen (sound_runEntries style hOneLine hg fun _ he => he) hClosing)

theorem sound_runGroups (hOneLine : OneLineIn t package) {gs : List Group}
    (hgs : ∀ g ∈ gs, g ∈ t.groups) :
    Sound (IsLine t package label) (runGroups style t package gs).pieces := by
  induction gs with
  | nil => exact sound_nil isLine_nil
  | cons g gs ih =>
      rw [List.forall_mem_cons] at hgs
      exact sound_andThen (sound_runGroup style hOneLine hgs.1) (ih hgs.2)

/-- What a run writes is made of lines of a class, wherever it stops. -/
theorem sound_run (hLabel : '\n' ∉ label.toList) (hOneLine : OneLineIn t package) :
    Sound (IsLine t package label) (run style t package label).pieces := by
  have hOpening : Sound (IsLine t package label) [openingText] :=
    sound_line isLine_nil "public final class R \x7b" (by decide) .opening
  have hClosing : Sound (IsLine t package label) (Run.writing [closingText]).pieces :=
    sound_line isLine_nil "\x7d" (by decide) (.plain (by decide))
  exact sound_andThen ((sound_headerText hLabel).append hOpening)
    (sound_andThen (sound_runGroups style hOneLine fun _ hg => hg) hClosing)

/-- What a generation writes are pieces of the run, from the first on. -/
theorem exists_pieces_generate {target : Json.Value} (sink : Sink)
    (hShown : target.shown? = some label) :
    ∃ front, front <+: (run style t target.text? label).pieces ∧
      (generate style t target sink).written = String.join front := by
  unfold generate Target.of?
  rw [hShown]
  simp only [Option.map_some]
  refine ⟨_, sink.takeFrom_isPrefix 0 _, ?_⟩
  cases (sink.takeFrom 0 (run style t (Target.mk target label).package? label).pieces).2 with
  | some i => rfl
  | none =>
      dsimp only
      split <;> rfl

/-- Each line of what a generation wrote is a line of a class, whatever came of the
generation. -/
theorem isLine_of_mem_written {target : Json.Value} {sink : Sink}
    (hShown : target.shown? = some label) (hLabel : '\n' ∉ label.toList)
    (hOneLine : OneLineIn t target.text?) {line : List Char}
    (hLine : line ∈ linesOf (generate style t target sink).written) :
    IsLine t target.text? label line := by
  obtain ⟨front, hFront, hWritten⟩ := exists_pieces_generate style (t := t) sink hShown
  rw [hWritten] at hLine
  exact (sound_run style hLabel hOneLine).lines front hFront line hLine

end

end ResourceSymbols.RClass
