import ResourceSymbols.Console.Markup
import ResourceSymbols.Proofs.PackagePath

/-!
# Messages

A message of success starts with a mark in green and ends with a path in cyan.  What
stands between its tags is shown as it is, as long as no character of it can be taken
for a part of a tag, of a picture or of a line end.  Package names without a problem
have no such characters.

## Main results

* `isPlain_of_noWarnings` — a package name without a problem is plain text.
* `pieces_append`, `pieces_tag` — how a text is taken apart.
* `NamesStyle.assemble_eq` — what stands between two tags is in a style.
* `printed_wrote` — what is printed for a class that was written.
-/

namespace ResourceSymbols

/-- A character that is no separator is in one of the pieces. -/
theorem Text.exists_mem_pieces {α : Type} [DecidableEq α] {a x : α} {xs : List α}
    (hMem : x ∈ xs) (hOther : x ≠ a) : ∃ p ∈ pieces a xs, x ∈ p := by
  rw [← intercalate_pieces a xs] at hMem
  generalize pieces a xs = ps at hMem ⊢
  induction ps with
  | nil => cases hMem
  | cons p ps ih =>
      cases ps with
      | nil =>
          rw [List.intercalate_singleton] at hMem
          exact ⟨p, List.mem_cons_self, hMem⟩
      | cons q qs =>
          rw [List.intercalate_cons_cons, List.mem_append, List.mem_append] at hMem
          rcases hMem with (hMem | hMem) | hMem
          · exact ⟨p, List.mem_cons_self, hMem⟩
          · exact absurd (List.mem_singleton.1 hMem) hOther
          · obtain ⟨r, hr, hMem⟩ := ih hMem
            exact ⟨r, List.mem_cons_of_mem p hr, hMem⟩

namespace Console

/-! ## Plain text -/

/-- Whether the character is printed as it is, whatever stands around it. -/
def isPlain (c : Char) : Bool :=
  c ≠ '[' && c ≠ '\\' && c ≠ ':' && c ≠ '\n' && c ≠ '\t' && isShown c

theorem isPlain_iff {c : Char} : isPlain c = true ↔
    (c ≠ '[' ∧ c ≠ '\\') ∧ c ≠ ':' ∧ (c ≠ '\n' ∧ c ≠ '\t') ∧ isShown c = true := by
  simp only [isPlain, Bool.and_eq_true, decide_eq_true_eq, ne_eq, and_assoc]

section

variable {cs rest : List Char}

theorem unescape_append (hPlain : ∀ c ∈ cs, isPlain c) :
    unescape (cs ++ rest) = cs ++ unescape rest := by
  induction cs with
  | nil => rfl
  | cons c cs ih =>
      rw [List.forall_mem_cons] at hPlain
      obtain ⟨⟨-, hSlash⟩, -⟩ := isPlain_iff.1 hPlain.1
      rw [List.cons_append, List.cons_append, ← ih hPlain.2, unescape]
      rintro _ rfl
      exact absurd rfl hSlash

theorem withPicturesFrom_append (hPlain : ∀ c ∈ cs, isPlain c) (n : Nat) :
    withPicturesFrom (cs.length + n) (cs ++ rest) = cs ++ withPicturesFrom n rest := by
  induction cs with
  | nil => rw [List.length_nil, Nat.zero_add, List.nil_append, List.nil_append]
  | cons c cs ih =>
      rw [List.forall_mem_cons] at hPlain
      obtain ⟨-, hColon, -⟩ := isPlain_iff.1 hPlain.1
      rw [List.length_cons, Nat.add_right_comm, List.cons_append, withPicturesFrom,
        if_neg hColon, ih hPlain.2, List.cons_append]

theorem shown_append (hPlain : ∀ c ∈ cs, isPlain c) : shown (cs ++ rest) = cs ++ shown rest := by
  have hShown : ∀ c ∈ cs, isShown c = true := fun c hc => (isPlain_iff.1 (hPlain c hc)).2.2.2
  rw [shown, withPictures, List.length_append, withPicturesFrom_append hPlain,
    List.filter_append, List.filter_eq_self.2 hShown, shown, withPictures]

/-- Plain text is shown as it is. -/
theorem shown_unescape (hPlain : ∀ c ∈ cs, isPlain c) : shown (unescape cs) = cs := by
  have hEscape : unescape cs = cs := by
    rw [← List.append_nil cs, unescape_append hPlain, unescape]
  rw [hEscape, ← List.append_nil cs, shown_append hPlain]
  rfl

end

/-- No character of an identifier is taken for something else. -/
theorem isPlain_of_isIdentifierRest {c : Char} (hRest : Text.isIdentifierRest c = true) :
    isPlain c = true := by
  have hApart : ∀ d, Text.isIdentifierRest d = false → c ≠ d := by
    rintro d hForeign rfl
    rw [hRest] at hForeign
    cases hForeign
  have hShown : ∀ n, Text.isIdentifierRest (Char.ofNat n) = false → c.toNat ≠ n := by
    rintro n hForeign rfl
    rw [Char.ofNat_toNat] at hForeign
    exact hApart c hForeign rfl
  refine isPlain_iff.2 ⟨⟨hApart _ (by decide +kernel), hApart _ (by decide +kernel)⟩,
    hApart _ (by decide +kernel), ⟨hApart _ (by decide +kernel), hApart _ (by decide +kernel)⟩, ?_⟩
  simp [isShown, hShown 7 (by decide +kernel), hShown 8 (by decide +kernel),
    hShown 11 (by decide +kernel), hShown 12 (by decide +kernel), hShown 13 (by decide +kernel)]

/-- A package name without a problem is plain text. -/
theorem isPlain_of_noWarnings {p : String} (hName : Symbol.packageWarnings p = []) :
    ∀ c ∈ p.toList, isPlain c := by
  intro c hMem
  by_cases hPoint : c = '.'
  · subst hPoint
    decide
  · obtain ⟨piece, hPiece, hMem⟩ := Text.exists_mem_pieces hMem hPoint
    have hSegment : String.ofList piece ∈ Text.splitText '.' p := List.mem_map_of_mem hPiece
    have hIdentifier := Symbol.isIdentifier_of_noWarnings hName hSegment
    cases hRest : Text.isIdentifierRest c with
    | true => exact isPlain_of_isIdentifierRest hRest
    | false =>
        have hForeign := Text.not_mem_of_isIdentifier hIdentifier hRest
        rw [String.toList_ofList] at hForeign
        exact absurd hMem hForeign

/-! ## Taking a text apart -/

section

variable {fuel position : Nat} {cs rest : List Char}

/-- What comes before a tag is one piece. -/
theorem pieces_append {i : Nat} {name : List Char} {ps : List Piece} (hSome : cs ≠ [])
    (hPlain : ∀ c ∈ cs, c ≠ '[' ∧ c ≠ '\\')
    (hRest : pieces fuel (position + Text.pointCount cs) rest = .tag i name :: ps) :
    pieces (fuel + cs.length) position (cs ++ rest) = .plain cs :: .tag i name :: ps := by
  induction cs generalizing position with
  | nil => exact absurd rfl hSome
  | cons c cs ih =>
      rw [List.forall_mem_cons] at hPlain
      obtain ⟨⟨hBracket, hSlash⟩, hPlain⟩ := hPlain
      have hStep : ∀ n others, pieces (n + 1) position (c :: others) =
          addPlain [c] (pieces n (position + Text.pointCount [c]) others) := by
        intro n others
        simp [pieces, hSlash, tagAt?, hBracket]
      rw [List.length_cons, ← Nat.add_assoc, List.cons_append, hStep]
      cases cs with
      | nil => exact congrArg (addPlain [c]) hRest
      | cons d ds =>
          have hFrom : position + Text.pointCount [c] + Text.pointCount (d :: ds) =
              position + Text.pointCount (c :: d :: ds) := by
            rw [Nat.add_assoc, ← Text.pointCount_append, List.singleton_append]
          rw [ih (by simp) hPlain (hFrom ▸ hRest)]
          rfl

theorem tagAt?_tag {name : List Char} (hFirst : name.head?.any startsTag = true)
    (hName : ∀ c ∈ name, (c ≠ ']' && c ≠ '[') = true) :
    tagAt? ('[' :: (name ++ ']' :: rest)) = some (name, rest) := by
  cases name with
  | nil => cases hFirst
  | cons c cs =>
      have hTail : ∀ d ∈ cs, (d ≠ ']' && d ≠ '[') = true := (List.forall_mem_cons.1 hName).2
      have hTake : (cs ++ ']' :: rest).takeWhile (fun d => d ≠ ']' && d ≠ '[') = cs := by
        rw [List.takeWhile_append_of_pos hTail, List.takeWhile_cons_of_neg (by decide),
          List.append_nil]
      have hDrop : (cs ++ ']' :: rest).dropWhile (fun d => d ≠ ']' && d ≠ '[') =
          ']' :: rest := by
        rw [List.dropWhile_append_of_pos hTail, List.dropWhile_cons_of_neg (by decide)]
      have hStart : startsTag c = true := hFirst
      rw [List.cons_append]
      simp only [tagAt?, hStart, if_true, hTake, hDrop]

/-- A tag is one piece. -/
theorem pieces_tag {name : List Char} (hFirst : name.head?.any startsTag = true)
    (hName : ∀ c ∈ name, (c ≠ ']' && c ≠ '[') = true) :
    pieces (fuel + 1) position ('[' :: (name ++ ']' :: rest)) =
      .tag position name :: pieces fuel (position + Text.pointCount name + 2) rest := by
  rw [pieces]
  simp [tagAt?_tag hFirst hName]

theorem pieces_nil : pieces fuel position [] = [] := by
  cases fuel with
  | zero => rfl
  | succ n => rfl

end

/-! ## Styles -/

/-- A text between the tags of a style. -/
def inStyle (name : String) (text : List Char) : List Char :=
  '[' :: (name.toList ++ ']' :: (text ++ '[' :: ('/' :: name.toList ++ [']'])))

/-- The text names a style that is written in one way only, and so names its tags. -/
structure NamesStyle (name : String) : Prop where
  read : (Style.read name.toList).toOption.map Style.name = some name
  opens : splitTag name.toList = (name.toList, none)
  closes : splitTag ('/' :: name.toList) = ('/' :: name.toList, none)
  visible : (Text.trimBoth Text.isBlank name.toList).isEmpty = false
  first : name.toList.head?.any (fun c => 'a' ≤ c && c ≤ 'z') = true
  others : name.toList.all (fun c => c ≠ ']' && c ≠ '[') = true

namespace NamesStyle

theorem green : NamesStyle "green" := by
  constructor <;> decide +kernel

theorem cyan : NamesStyle "cyan" := by
  constructor <;> decide +kernel

theorem red : NamesStyle "red" := by
  constructor <;> decide +kernel

theorem yellow : NamesStyle "yellow" := by
  constructor <;> decide +kernel

variable {name : String}

theorem exists_read (h : NamesStyle name) :
    ∃ s, Style.read name.toList = .ok s ∧ s.name = name := by
  have hRead := h.read
  cases hStyle : Style.read name.toList with
  | error e => simp [hStyle, Except.toOption] at hRead
  | ok s => exact ⟨s, rfl, by simpa [hStyle, Except.toOption] using hRead⟩

theorem styleName_eq (h : NamesStyle name) : styleName name.toList = .ok name := by
  obtain ⟨s, hRead, hName⟩ := h.exists_read
  rw [styleName, hRead]
  simp only [hName]

theorem fault?_eq (h : NamesStyle name) (start stop : Nat) :
    Span.fault? { start, stop, style := some name } = none := by
  obtain ⟨s, hRead, -⟩ := h.exists_read
  simp only [Span.fault?, Option.map_some, hRead]

theorem head?_ne (h : NamesStyle name) :
    name.toList.head? ≠ some '/' ∧ name.toList.head? ≠ some '@' := by
  have hFirst := h.first
  constructor <;> intro hHead <;> simp [hHead] at hFirst

/-- The name makes a tag, and so does its end. -/
theorem starts (h : NamesStyle name) : name.toList.head?.any startsTag = true := by
  have hFirst := h.first
  cases hHead : name.toList.head? with
  | none => simp [hHead] at hFirst
  | some c =>
      rw [hHead] at hFirst
      simp only [Option.any_some] at hFirst ⊢
      simp [startsTag, hFirst]

theorem not_bracket (h : NamesStyle name) : ∀ c ∈ name.toList, (c ≠ ']' && c ≠ '[') = true :=
  List.all_eq_true.1 h.others

theorem not_bracket_end (h : NamesStyle name) :
    ∀ c ∈ '/' :: name.toList, (c ≠ ']' && c ≠ '[') = true :=
  List.forall_mem_cons.2 ⟨by decide, h.not_bracket⟩

/-- A text in a style is three pieces. -/
theorem exists_pieces_inStyle (h : NamesStyle name) {text : List Char} (hSome : text ≠ [])
    (hPlain : ∀ c ∈ text, c ≠ '[' ∧ c ≠ '\\') (fuel position : Nat) (rest : List Char) :
    ∃ j next, pieces (fuel + 1 + text.length + 1) position (inStyle name text ++ rest) =
      .tag position name.toList :: .plain text :: .tag j ('/' :: name.toList) ::
        pieces fuel next rest := by
  have hChars : inStyle name text ++ rest = '[' :: (name.toList ++ ']' ::
      (text ++ '[' :: ('/' :: name.toList ++ ']' :: rest))) := by
    simp only [inStyle, List.cons_append, List.append_assoc, List.nil_append]
  rw [hChars, pieces_tag h.starts h.not_bracket,
    pieces_append hSome hPlain (pieces_tag rfl h.not_bracket_end)]
  exact ⟨_, _, rfl⟩

/-- A tag with the name of the style opens it. -/
theorem assemble_opens (h : NamesStyle name) (before : List Char) (opened : List OpenTag)
    (spans : List Span) (i : Nat) (rest : List Piece) :
    assemble before opened spans (.tag i name.toList :: rest) =
      assemble before ({ start := before.length, name, parameters := none } :: opened) spans
        rest := by
  rw [assemble, h.opens]
  split
  · next hEnd =>
    have hFirst := h.head?_ne.1
    rw [(Prod.mk.inj hEnd).1] at hFirst
    exact absurd rfl hFirst
  · next hName =>
    cases hName
    rw [h.styleName_eq]

/-- The end of a tag closes it if it was opened last. -/
theorem assemble_closes (h : NamesStyle name) (before : List Char) (opened : List OpenTag)
    (spans : List Span) (start i : Nat) (rest : List Piece) :
    assemble before ({ start, name, parameters := none } :: opened) spans
        (.tag i ('/' :: name.toList) :: rest) =
      assemble before opened ({ start, stop := before.length, style := some name } :: spans)
        rest := by
  let tag : OpenTag := { start, name, parameters := none }
  have hClosing : closing (tag :: opened) i ('/' :: name.toList) name.toList =
      .ok (tag, opened) := by
    simp [closing, h.visible, h.styleName_eq, close?, tag]
  have hSpan : tag.closedAt before.length =
      .ok { start, stop := before.length, style := some name } := by
    simp [OpenTag.closedAt, OpenTag.isHandler, OpenTag.style, h.head?_ne.2, tag]
  rw [assemble, h.closes]
  simp only [tag] at hClosing hSpan
  simp only [hClosing, hSpan]

/-- A text between a tag and its end is in the style of the tag. -/
theorem assemble_eq (h : NamesStyle name) (before text : List Char) (opened : List OpenTag)
    (spans : List Span) (i j : Nat) (rest : List Piece) :
    assemble before opened spans
        (.tag i name.toList :: .plain text :: .tag j ('/' :: name.toList) :: rest) =
      assemble (before ++ shown (unescape text)) opened
        ({ start := before.length, stop := (before ++ shown (unescape text)).length,
           style := some name } :: spans) rest := by
  rw [h.assemble_opens, assemble, h.assemble_closes]

end NamesStyle

/-! ## Messages -/

/-- A line without tabs is printed as it is if its styles can be made out. -/
theorem printed_of_render {markup : String} {t : Styled} (hRender : render markup = .ok t)
    (hLine : '\n' ∉ t.chars) (hTab : '\t' ∉ t.chars) (hStyles : ∀ s ∈ t.spans, s.fault? = none) :
    printed markup = .ok (String.ofList (t.chars ++ ['\n'])) := by
  have hLines : t.lines.map Styled.expandTabs = [t] := by
    rw [Styled.lines, if_neg hLine, List.map_singleton, Styled.expandTabs, if_neg hTab]
  have hFault : [t].findSome? Styled.fault? = none := by
    simpa [Styled.fault?] using hStyles
  unfold printed
  rw [hRender]
  show (printedLines t >>= _) = _
  rw [printedLines, hLines, hFault]
  rfl

section

variable {markup : String} {middle path : List Char}

/-- A mark in green comes before the text, and a path in cyan after it. -/
theorem exists_render_message
    (hMarkup : markup.toList = inStyle "green" ['✓'] ++ (middle ++ inStyle "cyan" path))
    (hMiddle : middle ≠ []) (hMiddlePlain : ∀ c ∈ middle, c ≠ '[' ∧ c ≠ '\\')
    (hPath : path ≠ []) (hPathPlain : ∀ c ∈ path, c ≠ '[' ∧ c ≠ '\\') :
    ∃ t, render markup = .ok t ∧
      t.chars = '✓' :: (shown (unescape middle) ++ shown (unescape path)) ∧
      ∀ s ∈ t.spans, s.fault? = none := by
  -- The measure of the text, which is more than its pieces need.
  obtain ⟨fuel, hMeasure⟩ : ∃ fuel, markup.length + 1 =
      fuel + 1 + path.length + 1 + middle.length + 1 + ['✓'].length + 1 := by
    rw [← String.length_toList, hMarkup]
    refine ⟨25, ?_⟩
    simp [inStyle]
    omega
  have hMark : ∀ c ∈ ['✓'], c ≠ '[' ∧ c ≠ '\\' := List.forall_mem_singleton.2 (by decide)
  obtain ⟨j, next, hGreen⟩ := NamesStyle.green.exists_pieces_inStyle (by decide) hMark
    (fuel + 1 + path.length + 1 + middle.length) 0 (middle ++ inStyle "cyan" path)
  obtain ⟨l, last, hCyan⟩ := NamesStyle.cyan.exists_pieces_inStyle hPath hPathPlain
    fuel (next + Text.pointCount middle) []
  rw [List.append_nil, pieces_nil] at hCyan
  rw [pieces_append hMiddle hMiddlePlain hCyan] at hGreen
  let green : Span := { start := 0, stop := 1, style := some "green" }
  let cyan : Span :=
    { start := 1 + (shown (unescape middle)).length
      stop := 1 + (shown (unescape middle)).length + (shown (unescape path)).length
      style := some "cyan" }
  have hShown : shown (unescape ['✓']) = ['✓'] := by decide +kernel
  refine ⟨{ chars := '✓' :: (shown (unescape middle) ++ shown (unescape path))
            spans := [green, cyan] }, ?_, rfl, ?_⟩
  · unfold render
    rw [hMarkup, hMeasure, hGreen, NamesStyle.green.assemble_eq, assemble,
      NamesStyle.cyan.assemble_eq, assemble, hShown]
    simp [List.mergeSort, List.MergeSort.Internal.splitInTwo, green, cyan]
    omega
  · simp [green, cyan, NamesStyle.green.fault?_eq, NamesStyle.cyan.fault?_eq]

/-- What is printed for a class that was written shows its package and its path as they
are. -/
theorem printed_wrote {package path : String} (hPackage : ∀ c ∈ package.toList, isPlain c)
    (hPath : path ≠ "") (hPathPlain : ∀ c ∈ path.toList, isPlain c) :
    printed s!"[green]✓[/green] {package}: wrote [cyan]{path}[/cyan]" =
      .ok s!"✓ {package}: wrote {path}\n" := by
  let said := ": wrote ".toList
  let middle := ' ' :: package.toList ++ said
  have hStart : ∀ c ∈ ' ' :: package.toList, isPlain c :=
    List.forall_mem_cons.2 ⟨by decide, hPackage⟩
  have hMiddlePlain : ∀ c ∈ middle, c ≠ '[' ∧ c ≠ '\\' :=
    List.forall_mem_append.2 ⟨fun c hc => (isPlain_iff.1 (hStart c hc)).1, by simp [said]⟩
  have hMiddle : shown (unescape middle) = middle := by
    have hSaid : shown (unescape said) = said := by decide +kernel
    rw [unescape_append hStart, shown_append hStart, hSaid]
  have hMarkup : String.toList s!"[green]✓[/green] {package}: wrote [cyan]{path}[/cyan]" =
      inStyle "green" ['✓'] ++ (middle ++ inStyle "cyan" path.toList) := by
    simp [inStyle, middle, said, toString]
  obtain ⟨t, hRender, hChars, hStyles⟩ := exists_render_message hMarkup (List.cons_ne_nil _ _)
    hMiddlePlain (fun hEmpty => hPath (String.ext hEmpty))
    (fun c hc => (isPlain_iff.1 (hPathPlain c hc)).1)
  rw [hMiddle, shown_unescape hPathPlain] at hChars
  have hOneLine : ∀ c ∈ t.chars, c ≠ '\n' ∧ c ≠ '\t' := by
    rw [hChars, List.forall_mem_cons, List.forall_mem_append, List.forall_mem_append]
    exact ⟨by decide, ⟨fun c hc => (isPlain_iff.1 (hStart c hc)).2.2.1, by simp [said]⟩,
      fun c hc => (isPlain_iff.1 (hPathPlain c hc)).2.2.1⟩
  rw [printed_of_render hRender (fun hMem => (hOneLine _ hMem).1 rfl)
    (fun hMem => (hOneLine _ hMem).2 rfl) hStyles, hChars]
  refine congrArg Except.ok (String.toList_injective ?_)
  simp [middle, said, toString]

end

end Console

end ResourceSymbols
