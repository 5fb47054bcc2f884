import ResourceSymbols.Proofs.AbortPoint
import ResourceSymbols.Proofs.ClassLines
import ResourceSymbols.Proofs.Independence

/-!
# Reserved words are not declared

A name is checked as it stands, and what is declared is its symbol.  The check is none the
weaker for it: a symbol with a point or a hyphen replaced holds an underscore, and no
reserved word does, so a symbol is reserved exactly when its name is.  The symbol of an
index is not checked at all, and always holds an underscore.

What a class declares is read off its text, line by line: by what a line starts with and
by its last blank, or word by word, a name being the word after that of the type.  A name
with a line break could declare anything, and read by words so could one with a blank.

## Main results

* `transform_mem_reservedWords_iff` — the check of a name is a check of its symbol.
* `disjoint_symbols` — no symbol that is declared for an entry is reserved.
* `declares_of_isLine`, `eq_of_mem_fieldWords` — what the lines of a class declare.
* `reserved_never_declared` — what a class declares, and which entries it rejects.
* `reserved_declared_brokenName` — names that declare a reserved word, and a reserved name
  that is not rejected.
-/

namespace ResourceSymbols

namespace Symbol

/-! ## Reserved symbols -/

/-- The part that is told by the words themselves. -/
theorem marks_not_mem {word : String} (hWord : word ∈ reservedWords) :
    '_' ∉ word.toList ∧ '.' ∉ word.toList ∧ '-' ∉ word.toList := by
  have hAll : ∀ word ∈ reservedWords,
      '_' ∉ word.toList ∧ '.' ∉ word.toList ∧ '-' ∉ word.toList := by
    decide +kernel
  exact hAll word hWord

theorem transform_eq_self {name : String} (hPoint : '.' ∉ name.toList)
    (hHyphen : '-' ∉ name.toList) : transform name = name := by
  have hSame : name.toList.map replaceChar = name.toList := by
    rw [List.map_congr_left (g := id), List.map_id]
    intro c hc
    have hNone : ¬ (c = '.' ∨ c = '-') := by
      rintro (rfl | rfl)
      · exact hPoint hc
      · exact hHyphen hc
    rw [replaceChar, if_neg hNone, id]
  rw [transform, hSame, String.ofList_toList]

/-- What is replaced leaves an underscore. -/
theorem underscore_mem_transform {name : String} {c : Char} (hMem : c ∈ name.toList)
    (hMark : c = '.' ∨ c = '-') : '_' ∈ (transform name).toList := by
  rw [transform, String.toList_ofList, List.mem_map]
  exact ⟨c, hMem, if_pos hMark⟩

/-- A symbol is reserved exactly when its name is. -/
theorem transform_mem_reservedWords_iff (name : String) :
    transform name ∈ reservedWords ↔ name ∈ reservedWords := by
  constructor
  · intro hWord
    obtain ⟨hUnderscore, -, -⟩ := marks_not_mem hWord
    have hPoint : '.' ∉ name.toList := fun hMem =>
      hUnderscore (underscore_mem_transform hMem (.inl rfl))
    have hHyphen : '-' ∉ name.toList := fun hMem =>
      hUnderscore (underscore_mem_transform hMem (.inr rfl))
    rwa [transform_eq_self hPoint hHyphen] at hWord
  · intro hWord
    obtain ⟨-, hPoint, hHyphen⟩ := marks_not_mem hWord
    rwa [transform_eq_self hPoint hHyphen]

theorem isReserved_iff (name : String) : isReserved name = true ↔ name ∈ reservedWords :=
  List.contains_iff_mem

end Symbol

namespace RClass

open Resource (Attribute Entry Group Id Kind Table)
open ResourceSymbols.Symbol (reservedWords transform)

theorem indexSymbol_not_mem_reservedWords (own owner : String) (a : Attribute) :
    indexSymbol own owner a ∉ reservedWords := by
  intro hWord
  obtain ⟨hUnderscore, -, -⟩ := Symbol.marks_not_mem hWord
  refine hUnderscore ?_
  simp only [indexSymbol, String.toList_append, List.mem_append]
  exact .inl (.inl (.inr List.mem_cons_self))

/-! ## Symbols of entries -/

section

variable {t : Table} {package : Option String} {g : Group} {e : Entry} {f : Fate}

/-- An entry that does not offend is skipped, or it is one of the package and declared
under a name that is not reserved. -/
theorem eq_skipped_or_eq_declaration (hFate : fate t package g e = .ok f) :
    f = .skipped ∨ (package = some (e.origin t.package) ∧
      e.plainName ∉ reservedWords ∧
      ∃ id, f = declaration g.kind id e.plainName e.values) := by
  unfold fate at hFate
  split at hFate
  · cases hFate
  · split at hFate
    · cases hFate
    · split at hFate
      · exact .inl (Except.ok.inj hFate).symm
      · rename_i hOwn
        split at hFate
        · cases hFate
        · rename_i hFree
          rw [Symbol.isReserved_iff] at hFree
          exact .inr ⟨not_not.1 hOwn, hFree, _, eq_declaration_of_declare hFate⟩

/-- A declaration is named after the entry, or after the entry and one of the attributes
that it holds. -/
theorem mem_symbols_declaration {kind : Kind} {id : Id} {name own symbol : String}
    {values : List Resource.Value}
    (hMem : symbol ∈ (declaration kind id name values).symbols own) :
    symbol = transform name ∨ ∃ held ∈ values, ∃ a ∈ heldAttributes held,
      symbol = indexSymbol own name a := by
  have hConstant : symbol ∈ (Fate.constant name id).symbols own → symbol = transform name :=
    List.mem_singleton.1
  unfold declaration at hMem
  split at hMem
  · rename_i attributes more
    split at hMem
    · rcases List.mem_cons.1 hMem with rfl | hMem
      · exact .inl rfl
      · obtain ⟨a, ha, rfl⟩ := List.mem_map.1 hMem
        exact .inr ⟨_, List.mem_cons_self, a, (arrange_perm attributes).mem_iff.1 ha, rfl⟩
    · exact .inl (hConstant hMem)
  · split at hMem
    · cases hMem
    · exact .inl (hConstant hMem)

/-- What is declared for an entry is not reserved: its symbol would have been rejected, and
the symbol of an index is no word. -/
theorem disjoint_symbols (hFate : fate t package g e = .ok f) :
    (f.symbols t.package).Disjoint reservedWords := by
  rcases eq_skipped_or_eq_declaration hFate with rfl | ⟨-, hFree, id, rfl⟩
  · exact List.disjoint_nil_left _
  · rw [← Symbol.transform_mem_reservedWords_iff] at hFree
    intro symbol hMem hWord
    rcases mem_symbols_declaration hMem with rfl | ⟨_, _, a, _, rfl⟩
    · exact hFree hWord
    · exact indexSymbol_not_mem_reservedWords _ _ a hWord

/-- A character that no name of the package's entries holds is in no symbol. -/
theorem not_mem_of_declares {c : Char} (hMark : c ≠ '_')
    (hWithout : ∀ g ∈ t.groups, ∀ e ∈ g.entries, package = some (e.origin t.package) →
      SymbolsWithout c e) {symbol : String} (hDeclares : Declares t package symbol) :
    c ∉ symbol.toList := by
  obtain ⟨g, hg, e, he, f, hFate, hMem⟩ := hDeclares
  rcases eq_skipped_or_eq_declaration hFate with rfl | ⟨hOwn, -, id, rfl⟩
  · cases hMem
  · have hNames := hWithout g hg e he hOwn
    rcases mem_symbols_declaration hMem with rfl | ⟨held, hHeld, a, ha, rfl⟩
    · exact not_mem_transform hMark hNames.name
    · obtain ⟨hPackage, hEntry⟩ := hNames.attributes held hHeld a ha
      exact not_mem_indexSymbol hMark hNames.name hPackage hEntry

theorem not_reserved_of_declares {symbol : String} (hDeclares : Declares t package symbol) :
    symbol ∉ reservedWords := by
  obtain ⟨g, -, e, -, f, hFate, hMem⟩ := hDeclares
  exact disjoint_symbols hFate hMem

end

/-! ## Names in the lines of a class -/

/-- The name of the constant, or of the array, that a line declares, whatever it holds. -/
def declaredName? (line : List Char) : Option String :=
  match Line.ofChars line with
  | .constant symbol _ => some symbol
  | .array symbol => some symbol
  | _ => none

/-- The types of the fields of a class. -/
def fieldTypes : List (List Char) := ["int".toList, "int[]".toList]

/-- The words that follow the type of a field. -/
def namedWords : List (List Char) → List (List Char)
  | word :: next :: rest =>
      if word ∈ fieldTypes then next :: namedWords (next :: rest) else namedWords (next :: rest)
  | _ => []

/-- The words of a line, between its blanks. -/
def wordsOf (line : List Char) : List (List Char) :=
  (Text.pieces ' ' line).filter fun word => !word.isEmpty

/-- The names of the fields that a line declares, read word by word. -/
def fieldWords (line : List Char) : List String := (namedWords (wordsOf line)).map String.ofList

theorem wordsOf_append_blank (front rest : List Char) :
    wordsOf (front ++ ' ' :: rest) = wordsOf front ++ wordsOf rest := by
  rw [wordsOf, Text.pieces_append_cons, List.filter_append]
  rfl

theorem wordsOf_of_not_mem {word : List Char} (hWord : ' ' ∉ word) :
    wordsOf word = if word.isEmpty then [] else [word] := by
  rw [wordsOf, Text.pieces_eq_singleton hWord]
  cases word <;> rfl

/-- The last word of a statement ends in a semicolon. -/
theorem wordsOf_statement {text : String} (hText : ' ' ∉ text.toList) :
    wordsOf (text ++ ";").toList = [(text ++ ";").toList] := by
  have hBlank : ' ' ∉ (text ++ ";").toList := by
    rw [String.toList_append, List.mem_append, not_or]
    exact ⟨hText, by decide⟩
  have hSome : (text ++ ";").toList.isEmpty = false := by
    rw [String.toList_append]
    cases text.toList <;> rfl
  rw [wordsOf_of_not_mem hBlank, hSome]
  rfl

theorem statement_not_mem_fieldTypes (text : String) : (text ++ ";").toList ∉ fieldTypes := by
  intro hType
  have hAll : ∀ word ∈ fieldTypes, ';' ∉ word := by decide
  refine hAll _ hType ?_
  rw [String.toList_append, List.mem_append]
  exact .inr (by decide)

/-- What stands before the type is passed over. -/
theorem namedWords_append {front : List (List Char)} (hFront : ∀ word ∈ front, word ∉ fieldTypes)
    (rest : List (List Char)) : namedWords (front ++ rest) = namedWords rest := by
  induction front with
  | nil => rfl
  | cons word front ih =>
      obtain ⟨hWord, hFront⟩ := List.forall_mem_cons.1 hFront
      rw [← ih hFront, List.cons_append]
      cases front ++ rest with
      | nil => rfl
      | cons next rest => rw [namedWords, if_neg hWord]

theorem namedWords_eq_nil {words : List (List Char)} (hNone : ∀ word ∈ words, word ∉ fieldTypes) :
    namedWords words = [] := by
  rw [← List.append_nil words, namedWords_append hNone, namedWords]
  rintro _ _ _ ⟨⟩

/-- After the type come the name, if there is one, and the sign for its value. -/
theorem mem_namedWords_field {type symbol word : List Char} {front rest : List (List Char)}
    (hFront : ∀ w ∈ front, w ∉ fieldTypes) (hType : type ∈ fieldTypes) (hSymbol : ' ' ∉ symbol)
    (hRest : ∀ w ∈ rest, w ∉ fieldTypes)
    (hMem : word ∈ namedWords (front ++ type :: (wordsOf symbol ++ "=".toList :: rest))) :
    word = symbol ∨ word = "=".toList := by
  have hAfter : namedWords ("=".toList :: rest) = [] :=
    namedWords_eq_nil (List.forall_mem_cons.2 ⟨by decide, hRest⟩)
  rw [namedWords_append hFront, wordsOf_of_not_mem hSymbol] at hMem
  cases symbol with
  | nil =>
      rw [List.isEmpty_nil, if_pos rfl, List.nil_append, namedWords, if_pos hType, hAfter,
        List.mem_singleton] at hMem
      exact .inr hMem
  | cons c cs =>
      rw [List.isEmpty_cons, if_neg Bool.false_ne_true, List.cons_append, List.nil_append,
        namedWords, if_pos hType, List.mem_cons] at hMem
      rcases hMem with rfl | hMem
      · exact .inl rfl
      · rw [namedWords, hAfter] at hMem
        split at hMem
        · exact .inr (List.mem_singleton.1 hMem)
        · cases hMem

theorem after?_eq_some {form cs rest : List Char} (hAfter : after? form cs = some rest) :
    cs = form ++ rest := by
  fun_induction after? form cs with
  | case1 cs => exact Option.some.inj hAfter
  | case2 => cases hAfter
  | case3 p ps cs ih => rw [ih hAfter, List.cons_append]
  | case4 => cases hAfter

/-- A line without the letter of the type declares nothing. -/
theorem declaredName?_of_not_mem {line : List Char} (hNone : 'n' ∉ line) :
    declaredName? line = none := by
  unfold declaredName? Line.ofChars
  cases hForm : Line.forms.findSome? fun form => (after? form.1 line).map form.2 with
  | none => rfl
  | some found =>
      obtain ⟨form, hMem, hFound⟩ := List.exists_of_findSome?_eq_some hForm
      obtain ⟨rest, hAfter, rfl⟩ := Option.map_eq_some_iff.1 hFound
      have hPrefix := after?_eq_some hAfter
      have hStart : 'n' ∉ form.1 := by
        rw [hPrefix, List.mem_append, not_or] at hNone
        exact hNone.1
      simp only [Line.forms, List.mem_cons, List.not_mem_nil, or_false] at hMem
      rcases hMem with rfl | rfl | rfl | rfl | rfl | rfl
      · rfl
      · exact absurd (by decide) hStart
      · exact absurd (by decide) hStart
      · exact absurd (by decide) hStart
      · exact absurd (by decide) hStart
      · rfl

section

variable {t : Table} {package : Option String} {label : String} {line : List Char}

/-- What a line of a class declares is a symbol of one of its entries. -/
theorem declares_of_isLine (hLine : IsLine t package label line) {name : String}
    (hName : declaredName? line = some name) : Declares t package name := by
  cases hLine with
  | header hMem =>
      have hAll : ∀ l ∈ headerLines, declaredName? l.toList = none := by decide +kernel
      rw [hAll _ hMem] at hName
      cases hName
  | package =>
      rw [declaredName?, Line.ofChars_package] at hName
      cases hName
  | opening =>
      have hNone : declaredName? "public final class R \x7b".toList = none := by decide +kernel
      rw [hNone] at hName
      cases hName
  | block kind =>
      rw [declaredName?, Line.ofChars_group] at hName
      cases hName
  | constant style hSymbol hValue =>
      rw [declaredName?, Line.ofChars_constant style _ hValue] at hName
      exact Option.some.inj hName ▸ hSymbol
  | array hSymbol =>
      rw [declaredName?, Line.ofChars_array] at hName
      exact Option.some.inj hName ▸ hSymbol
  | plain hPlain =>
      rw [declaredName?_of_not_mem hPlain] at hName
      cases hName

/-- Where no name holds a blank, a word that follows a type is a symbol, or the sign after
an empty one. -/
theorem eq_of_mem_fieldWords (hLine : IsLine t package label line) (hLabel : ' ' ∉ label.toList)
    (hBlank : ∀ symbol, Declares t package symbol → ' ' ∉ symbol.toList) {word : String}
    (hWord : word ∈ fieldWords line) : Declares t package word ∨ word = "=" := by
  obtain ⟨cs, hMem, rfl⟩ := List.mem_map.1 hWord
  have hField : ∀ {symbol : String}, Declares t package symbol →
      cs = symbol.toList ∨ cs = "=".toList →
        Declares t package (String.ofList cs) ∨ String.ofList cs = "=" := by
    rintro symbol hSymbol (rfl | rfl)
    · exact .inl (by rwa [String.ofList_toList])
    · exact .inr rfl
  cases hLine with
  | header hMem' =>
      have hAll : ∀ l ∈ headerLines, namedWords (wordsOf l.toList) = [] := by decide +kernel
      rw [hAll _ hMem'] at hMem
      cases hMem
  | package =>
      have hChars : ("package " ++ label ++ ";").toList =
          "package".toList ++ ' ' :: (label ++ ";").toList := by
        rw [String.append_assoc, String.toList_append]
        rfl
      rw [hChars, wordsOf_append_blank, wordsOf_statement hLabel] at hMem
      cases hMem
  | opening =>
      have hNone : namedWords (wordsOf "public final class R \x7b".toList) = [] := by
        decide +kernel
      rw [hNone] at hMem
      cases hMem
  | block kind =>
      have hNone : namedWords
          (wordsOf ("    public static final class " ++ kind.tag ++ " \x7b").toList) = [] := by
        cases kind <;> decide +kernel
      rw [hNone] at hMem
      cases hMem
  | @constant style symbol value hSymbol hValue =>
      have hChars : ("        public static" ++ (if style.isFinal then " final" else "") ++
          " int " ++ (symbol ++ " = " ++ value ++ ";")).toList =
          ("        public static" ++ (if style.isFinal then " final" else "")).toList ++
            ' ' :: ("int".toList ++ ' ' :: (symbol.toList ++ ' ' :: ("=".toList ++
              ' ' :: (value ++ ";").toList))) := by
        simp only [String.toList_append, List.append_assoc]
        rfl
      have hFront : ∀ w ∈ wordsOf ("        public static" ++
          (if style.isFinal then " final" else "")).toList, w ∉ fieldTypes := by
        cases style.isFinal <;> decide +kernel
      rw [hChars, wordsOf_append_blank, wordsOf_append_blank, wordsOf_append_blank,
        wordsOf_append_blank, wordsOf_statement hValue] at hMem
      exact hField hSymbol (mem_namedWords_field hFront (by decide) (hBlank _ hSymbol)
        (List.forall_mem_singleton.2 (statement_not_mem_fieldTypes value)) hMem)
  | @array symbol hSymbol =>
      have hChars : ("        public static final int[] " ++ symbol ++ " = \x7b").toList =
          "        public static final".toList ++ ' ' :: ("int[]".toList ++ ' ' ::
            (symbol.toList ++ ' ' :: ("=".toList ++ ' ' :: "\x7b".toList))) := by
        simp only [String.toList_append, List.append_assoc]
        rfl
      have hFront : ∀ w ∈ wordsOf "        public static final".toList, w ∉ fieldTypes := by
        decide +kernel
      rw [hChars, wordsOf_append_blank, wordsOf_append_blank, wordsOf_append_blank,
        wordsOf_append_blank] at hMem
      exact hField hSymbol (mem_namedWords_field hFront (by decide) (hBlank _ hSymbol)
        (List.forall_mem_singleton.2 (by decide)) hMem)
  | plain hPlain =>
      have hNone : namedWords (wordsOf line) = [] := by
        refine namedWords_eq_nil fun w hw => ?_
        have hn : 'n' ∉ w := fun hMem =>
          hPlain (Text.mem_of_mem_pieces (List.mem_of_mem_filter hw) hMem).2
        have hAll : ∀ type ∈ fieldTypes, 'n' ∈ type := by decide
        exact fun hType => hn (hAll w hType)
      rw [hNone] at hMem
      cases hMem

end

/-! ## Entries that are rejected -/

section

variable {style : Style} {t : Table} {package : String} {sink : Sink}

/-- An entry is rejected exactly if its identifier is sound, the package has it, and its
symbol is reserved. -/
theorem offence?_eq_reserved_iff {g : Group} {e : Entry} {name : Resource.Name} :
    offence? t (some package) g e = some (.reserved name) ↔
      Identified t g e ∧ ∃ plain, e.BelongsTo t.package package plain ∧
        transform plain ∈ reservedWords ∧ name = ⟨package, g.kind, plain⟩ := by
  rw [offence?_eq_some_iff]
  constructor
  · intro hBy
    cases hBy with
    | reserved hId hOwner hWord =>
        exact ⟨hId, _, hOwner, (Symbol.transform_mem_reservedWords_iff _).2 hWord, rfl⟩
  · rintro ⟨hId, plain, hOwner, hWord, rfl⟩
    exact .reserved hId hOwner ((Symbol.transform_mem_reservedWords_iff plain).1 hWord)

/-- A class is aborted exactly if the first entry that offends is rejected. -/
theorem exists_aborted_iff :
    (∃ s o, (generate style t (.text package) sink).outcome = .ok (.aborted s o)) ↔
      sink.TakesAll style t package ∧ ∃ p : Place t,
        (∀ x ∈ p.before, ¬ Offends t package x.1 x.2) ∧
        ∃ name, offence? t (some package) p.group p.entry = some (.reserved name) := by
  constructor
  · rintro ⟨s, o, hAborted⟩
    by_cases hSink : sink.TakesAll style t package
    · refine ⟨hSink, ?_⟩
      rw [outcome_generate hSink] at hAborted
      split at hAborted
      · cases hAborted
      · rename_i name hOffence
        obtain ⟨p, hBefore, hBy⟩ := Place.exists_of_offence hOffence
        exact ⟨p, hBefore, name, offence?_eq_some_iff.2 hBy⟩
      · cases hAborted
    · obtain ⟨i, -, -, hOutcome⟩ := generate_of_not_takesAll hSink
      rw [hOutcome] at hAborted
      cases hAborted
  · rintro ⟨hSink, p, hBefore, name, hReserved⟩
    have hBy := offence?_eq_some_iff.1 hReserved
    have hOffence : (run style t (some package) package).offence = some (.reserved name) := by
      rw [Place.run_eq_stopped style hBy, Run.offence_andThen,
        (Place.covers_runBefore style hBefore).offence]
      rfl
    rw [outcome_generate hSink, hOffence]
    exact ⟨_, _, rfl⟩

end

/-- Let no name that an entry of the package brings into its class hold a line break, nor
the label of the package.  Then each line of what was written, whatever the style and the
sink are and whatever came of the generation, declares a symbol of one of the entries or
nothing, and never a reserved word.  If no name holds a blank either, no reserved word
follows a type anywhere.

The check of a name is a check of its symbol.  The package's entries with a sound identifier
are rejected exactly if their symbols are reserved, those without one stop the class before
their names are checked, and a class is aborted exactly if the first entry that offends is
rejected. -/
theorem reserved_never_declared (style : Style) (t : Table) (sink : Sink) :
    (∀ target : Json.Value,
      (∀ label, target.shown? = some label → '\n' ∉ label.toList) →
      (∀ g ∈ t.groups, ∀ e ∈ g.entries, target.text? = some (e.origin t.package) →
        SymbolsWithout '\n' e) →
      ∀ line ∈ linesOf (generate style t target sink).written,
        (∀ name, declaredName? line = some name →
          Declares t target.text? name ∧ name ∉ reservedWords) ∧
        ((∀ label, target.shown? = some label → ' ' ∉ label.toList) →
          (∀ g ∈ t.groups, ∀ e ∈ g.entries, target.text? = some (e.origin t.package) →
            SymbolsWithout ' ' e) →
          ∀ word ∈ fieldWords line, word ∉ reservedWords)) ∧
    (∀ name, Symbol.isReserved name = true ↔ transform name ∈ reservedWords) ∧
    (∀ (package : String) (g : Group) (e : Entry) (name : Resource.Name),
      offence? t (some package) g e = some (.reserved name) ↔
        Identified t g e ∧ ∃ plain, e.BelongsTo t.package package plain ∧
          transform plain ∈ reservedWords ∧ name = ⟨package, g.kind, plain⟩) ∧
    ∀ package : String,
      (∃ s o, (generate style t (.text package) sink).outcome = .ok (.aborted s o)) ↔
        sink.TakesAll style t package ∧ ∃ p : Place t,
          (∀ x ∈ p.before, ¬ Offends t package x.1 x.2) ∧
          ∃ name, offence? t (some package) p.group p.entry = some (.reserved name) := by
  refine ⟨?_, fun name => ?_, fun _ _ _ _ => offence?_eq_reserved_iff,
    fun _ => exists_aborted_iff⟩
  · intro target hLabel hOneLine line hLine
    cases hShown : target.shown? with
    | none =>
        have hWritten : (generate style t target sink).written = "" := by
          unfold generate Target.of?
          rw [hShown]
          rfl
        rw [hWritten] at hLine
        obtain rfl := List.mem_singleton.1 hLine
        exact ⟨fun name hName => (by cases hName), fun _ _ word hWord => (by cases hWord)⟩
    | some label =>
        have hIsLine := isLine_of_mem_written style hShown (hLabel label hShown)
          (fun symbol hDeclares => not_mem_of_declares (by decide) hOneLine hDeclares) hLine
        refine ⟨fun name hName => ?_, fun hBlank hOneWord word hWord hReserved => ?_⟩
        · have hDeclares := declares_of_isLine hIsLine hName
          exact ⟨hDeclares, not_reserved_of_declares hDeclares⟩
        · rcases eq_of_mem_fieldWords hIsLine (hBlank label rfl)
            (fun symbol hDeclares => not_mem_of_declares (by decide) hOneWord hDeclares) hWord
            with hDeclares | rfl
          · exact not_reserved_of_declares hDeclares hReserved
          · exact absurd hReserved (by decide)
  · rw [Symbol.isReserved_iff, Symbol.transform_mem_reservedWords_iff]

theorem mem_linesOf (line : String) (hLine : '\n' ∉ line.toList) (front back : String) :
    line.toList ∈ linesOf (front ++ "\n" ++ (line ++ "\n" ++ back)) := by
  have hSelf : line.toList ∈ linesOf line := by
    rw [linesOf, Text.pieces_eq_singleton hLine]
    exact List.mem_singleton_self _
  rw [linesOf_append_newline, linesOf_append_newline]
  exact List.mem_append_right _ (List.mem_append_left _ hSelf)

/-- The class that breaks off declares a title, and no reserved word. -/
theorem reserved_never_declared_brokenTable :
    (∀ label, (Json.Value.text "app").shown? = some label →
        '\n' ∉ label.toList ∧ ' ' ∉ label.toList) ∧
      (∀ g ∈ brokenTable.groups, ∀ e ∈ g.entries,
        SymbolsWithout '\n' e ∧ SymbolsWithout ' ' e) ∧
      (∃ line ∈ linesOf (generate ⟨true⟩ brokenTable (.text "app") {}).written,
        declaredName? line = some "title") ∧
      (∀ line ∈ linesOf (generate ⟨true⟩ brokenTable (.text "app") {}).written,
        (∀ name, declaredName? line = some name →
          Declares brokenTable "app" name ∧ name ∉ reservedWords) ∧
        ∀ word ∈ fieldWords line, word ∉ reservedWords) ∧
      (∃ s o, (generate ⟨true⟩ brokenTable (.text "app") {}).outcome = .ok (.aborted s o)) ∧
      offence? brokenTable (some "app") brokenGroup ⟨"class", 1, []⟩ =
        some (.reserved ⟨"app", .styleable, "class"⟩) := by
  obtain ⟨hLines, -, hRejected, hAborted⟩ := reserved_never_declared ⟨true⟩ brokenTable {}
  have hLabel : ∀ label, (Json.Value.text "app").shown? = some label →
      '\n' ∉ label.toList ∧ ' ' ∉ label.toList := by
    rintro label ⟨⟩
    decide
  have hNames : ∀ g ∈ brokenTable.groups, ∀ e ∈ g.entries,
      SymbolsWithout '\n' e ∧ SymbolsWithout ' ' e := by
    decide +kernel
  have hOffence : offence? brokenTable (some "app") brokenGroup ⟨"class", 1, []⟩ =
      some (.reserved ⟨"app", .styleable, "class"⟩) :=
    (hRejected "app" _ _ _).2 ⟨identified_iff.2 ⟨_, rfl, rfl⟩, "class",
      .inr ⟨rfl, by decide, rfl⟩, by decide +kernel, rfl⟩
  have hSink : ({} : Sink).TakesAll ⟨true⟩ brokenTable "app" := takesAll_of_unlimited rfl rfl
  refine ⟨hLabel, hNames, ?_, fun line hLine => ?_, ?_, hOffence⟩
  · obtain ⟨back, hPieces⟩ : ∃ back,
        (run ⟨true⟩ brokenTable (some "app") "app").pieces = headerText "app" :: openingText ::
          groupOpeningText "string" :: constantText ⟨true⟩ "title" "0x7f010000" :: back :=
      ⟨_, rfl⟩
    have hText : constantText ⟨true⟩ "title" "0x7f010000" =
        "        public static final int title = 0x7f010000;" ++ "\n" := by
      decide +kernel
    have hOpening : groupOpeningText "string" =
        "    public static final class string \x7b" ++ "\n" := by
      decide +kernel
    have hMem := mem_linesOf "        public static final int title = 0x7f010000;"
      (by decide +kernel)
      (headerText "app" ++ openingText ++ "    public static final class string \x7b")
      (String.join back)
    refine ⟨_, ?_, (by decide +kernel : declaredName?
      "        public static final int title = 0x7f010000;".toList = some "title")⟩
    rw [written_generate hSink, hPieces, String.join_cons, String.join_cons, String.join_cons,
      String.join_cons, hOpening, hText]
    simpa only [String.append_assoc] using hMem
  · obtain ⟨hDeclared, hWords⟩ := hLines (.text "app") (fun label hShown => (hLabel label hShown).1)
      (fun g hg e he _ => (hNames g hg e he).1) line hLine
    exact ⟨hDeclared, hWords (fun label hShown => (hLabel label hShown).2)
      fun g hg e he _ => (hNames g hg e he).2⟩
  · have hRun : (run ⟨true⟩ brokenTable (some "app") "app").offence =
        some (.reserved ⟨"app", .styleable, "class"⟩) := by
      decide +kernel
    obtain ⟨p, hBefore, hBy⟩ := Place.exists_of_offence hRun
    exact (hAborted "app").2 ⟨hSink, p, hBefore, _, offence?_eq_some_iff.2 hBy⟩

/-- A document whose entry has a name of two lines. -/
def brokenNameDocument : Json.Value :=
  .object [("package", .text "app"), ("id", .int 127), ("types", .list [
    .object [("type", .text "id"), ("id", .int 1), ("entries", .list [
      .object [("name", .text "a = 0;\n        public static final int class"),
        ("id", .int 0)]])]])]

/-- A table whose package has no number, with an entry that has a reserved name. -/
def unnumberedTable : Table :=
  { package := "app", number := 0, groups := [⟨.id, 1, [⟨"class", 0, []⟩]⟩] }

/-- The name of two lines makes its class declare a reserved word.  And an entry of the
package may have a reserved symbol and not be rejected: its identifier is looked at first. -/
theorem reserved_declared_brokenName :
    (∃ t line, Table.ofDocument brokenNameDocument = .ok t ∧
      (generate ⟨true⟩ t (.text "app") {}).outcome = .ok (.complete (summaryOf ⟨true⟩ t "app")) ∧
      line ∈ linesOf (generate ⟨true⟩ t (.text "app") {}).written ∧
      declaredName? line = some "class" ∧ "class" ∈ reservedWords) ∧
    ∃ g ∈ unnumberedTable.groups, ∃ e ∈ g.entries,
      e.BelongsTo unnumberedTable.package "app" "class" ∧ transform "class" ∈ reservedWords ∧
      offence? unnumberedTable (some "app") g e = some (.unassigned (.ofWords 0 1 0) .id "class") := by
  refine ⟨?_, _, List.mem_cons_self, _, List.mem_cons_self, .inr ⟨rfl, by decide, rfl⟩,
    by decide +kernel, by decide +kernel⟩
  let t : Table :=
    { package := "app"
      number := 0x7F
      groups := [⟨.id, 1, [⟨"a = 0;\n        public static final int class", 0, []⟩]⟩] }
  have hNone : (run ⟨true⟩ t (some "app") "app").offence = none := by decide +kernel
  have hPieces : (run ⟨true⟩ t (some "app") "app").pieces = [headerText "app", openingText,
      groupOpeningText "id",
      constantText ⟨true⟩ "a = 0;\n        public static final int class" "0x7f010000",
      groupClosingText, closingText] := by
    decide +kernel
  have hText :
      constantText ⟨true⟩ "a = 0;\n        public static final int class" "0x7f010000" =
        "        public static final int a = 0;" ++ "\n" ++
          ("        public static final int class = 0x7f010000;" ++ "\n") := by
    decide +kernel
  have hMem := mem_linesOf "        public static final int class = 0x7f010000;"
    (by decide +kernel) (headerText "app" ++ openingText ++ groupOpeningText "id" ++
      "        public static final int a = 0;") (String.join [groupClosingText, closingText])
  refine ⟨t, "        public static final int class = 0x7f010000;".toList, rfl, ?_, ?_,
    by decide +kernel, by decide +kernel⟩
  · rw [outcome_generate (takesAll_of_unlimited rfl rfl), hNone]
  · rw [written_generate (takesAll_of_unlimited rfl rfl), hPieces, String.join_cons,
      String.join_cons, String.join_cons, String.join_cons, hText]
    simpa only [String.append_assoc] using hMem

end RClass

end ResourceSymbols
