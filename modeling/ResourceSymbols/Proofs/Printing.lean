import ResourceSymbols.Console.Sheet
import ResourceSymbols.Proofs.Messages
import ResourceSymbols.Proofs.Outcome

/-!
# Texts that can be printed

The tags that belong to a message name known styles and end in order.  What a message
says may hold anything, backslashes in front of a tag included: as long as no tag may
start in it, the message is printed, and so is a cell of a sheet.

## Main results

* `Styled.Clear.lines`, `Styled.Clear.expandTabs`, `Styled.Clear.fitted` — a text keeps
  its styles when it is laid out.
* `assemble_of_nested` — pieces whose tags end in order are a text with known styles.
* `Follows.tame_backslashes`, `Tame.append` — text in front of a tag may leave it open,
  and does nothing else.
* `exists_printed_warning` and its siblings, `exists_sheet` — what can be printed.
-/

namespace ResourceSymbols.Console

/-! ## Known styles -/

/-- A span in the style of another has its fault. -/
theorem Span.fault?_congr {s u : Span} (hStyle : s.style = u.style) : s.fault? = u.fault? := by
  unfold fault?
  rw [hStyle]

namespace Styled

/-- Every style of the text can be made out. -/
def Clear (t : Styled) : Prop := ∀ s ∈ t.spans, s.fault? = none

variable {t : Styled}

theorem Clear.fault? (h : t.Clear) : t.fault? = none := List.findSome?_eq_none_iff.2 h

theorem findSome?_fault? {ts : List Styled} (hAll : ∀ t ∈ ts, t.Clear) :
    ts.findSome? Styled.fault? = none :=
  List.findSome?_eq_none_iff.2 fun t ht => (hAll t ht).fault?

theorem Clear.part (h : t.Clear) (first last : Nat) : (t.part first last).Clear := by
  intro s hs
  obtain ⟨u, hu, hBetween⟩ := List.mem_filterMap.1 hs
  have hStyle : s.style = u.style := by
    unfold Span.between? at hBetween
    simp only [Option.ite_none_right_eq_some, Option.some.injEq] at hBetween
    rw [← hBetween.2]
  rw [Span.fault?_congr hStyle]
  exact h u hu

theorem Clear.cutAt (h : t.Clear) (places : List Nat) : ∀ u ∈ t.cutAt places, u.Clear := by
  unfold Styled.cutAt
  split
  · exact List.forall_mem_singleton.2 h
  · exact List.forall_mem_map.2 fun r _ => h.part r.1 r.2

theorem Clear.lines (h : t.Clear) : ∀ u ∈ t.lines, u.Clear := by
  unfold Styled.lines
  split
  · exact List.forall_mem_map.2 fun r _ => h.part r.1 r.2
  · exact List.forall_mem_singleton.2 h

theorem Clear.toTabStop (h : t.Clear) : t.toTabStop.Clear := by
  intro s hs
  obtain ⟨u, hu, rfl⟩ := List.mem_map.1 hs
  have hStyle : (if t.chars.length ≤ u.stop then
      { u with stop := u.stop + (tabSize - Text.cellLength t.chars % tabSize) % tabSize }
      else u).style = u.style := by
    split <;> rfl
  rw [Span.fault?_congr hStyle]
  exact h u hu

theorem Clear.fillTab (h : t.Clear) : t.fillTab.Clear := by
  unfold Styled.fillTab
  split
  · exact Clear.toTabStop h
  · exact h

theorem clear_joined {ts : List Styled} (hAll : ∀ t ∈ ts, t.Clear) : (joined ts).Clear := by
  induction ts with
  | nil =>
      intro s hs
      cases hs
  | cons t ts ih =>
      rw [List.forall_mem_cons] at hAll
      intro s hs
      rcases List.mem_append.1 hs with hs | hs
      · exact hAll.1 s hs
      · obtain ⟨u, hu, rfl⟩ := List.mem_map.1 hs
        exact ih hAll.2 u hu

theorem Clear.expandTabs (h : t.Clear) : t.expandTabs.Clear := by
  unfold Styled.expandTabs
  split
  · exact clear_joined (List.forall_mem_map.2 fun u hu => (h.cutAt _ u hu).fillTab)
  · exact h

theorem Clear.withChars (h : t.Clear) (chars : List Char) : (t.withChars chars).Clear := by
  unfold Styled.withChars
  dsimp only
  split
  · intro s hs
    obtain ⟨u, hu, rfl⟩ := List.mem_map.1 hs
    exact h u (List.mem_filter.1 hu).1
  · exact h

theorem Clear.trimTo (h : t.Clear) (n : Nat) : (t.trimTo n).Clear := h.withChars _

theorem Clear.fitted (h : t.Clear) (n : Nat) : (t.fitted n).Clear := by
  unfold Styled.fitted
  split
  · exact h.withChars _
  · exact h.withChars _

end Styled

/-! ## Tags that end in order -/

/-- The tags among the pieces name styles, and each of them ends what was opened last.
The names are those that are open before, the last one first. -/
inductive Nested : List String → List Piece → Prop
  | nil {names : List String} : Nested names []
  | plain {names : List String} {ps : List Piece} (text : List Char) (h : Nested names ps) :
      Nested names (.plain text :: ps)
  | literal {names : List String} {ps : List Piece} (text : List Char) (h : Nested names ps) :
      Nested names (.literal text :: ps)
  | opens {names : List String} {ps : List Piece} {name : String} (i : Nat)
      (hName : NamesStyle name) (h : Nested (name :: names) ps) :
      Nested names (.tag i name.toList :: ps)
  | closes {names : List String} {ps : List Piece} {name : String} (i : Nat)
      (hName : NamesStyle name) (h : Nested names ps) :
      Nested (name :: names) (.tag i ('/' :: name.toList) :: ps)

theorem Nested.addPlain {names : List String} {ps : List Piece} (h : Nested names ps)
    (text : List Char) : Nested names (addPlain text ps) := by
  cases h with
  | plain more h => exact .plain (text ++ more) h
  | nil => exact .plain text .nil
  | literal more h => exact .plain text (.literal more h)
  | opens i hName h => exact .plain text (.opens i hName h)
  | closes i hName h => exact .plain text (.closes i hName h)

/-- A tag that is open, for the name of a style. -/
structure OpenTag.Named (name : String) (t : OpenTag) : Prop where
  style : NamesStyle name
  name_eq : t.name = name
  parameters_eq : t.parameters = none

theorem assemble_of_nested {names : List String} {ps : List Piece} (h : Nested names ps)
    {opened : List OpenTag} (hOpened : List.Forall₂ OpenTag.Named names opened)
    (before : List Char) {spans : List Span} (hSpans : ∀ s ∈ spans, s.fault? = none) :
    ∃ t : Styled, assemble before opened spans ps = .ok t ∧ t.Clear := by
  induction h generalizing opened before spans with
  | nil =>
      refine ⟨_, rfl, fun s hs => ?_⟩
      rcases List.mem_append.1 ((List.mem_mergeSort).1 hs) with hs | hs
      · obtain ⟨tag, hTag, rfl⟩ := List.mem_map.1 (List.mem_reverse.1 hs)
        obtain ⟨name, -, hNamed⟩ := Outcome.exists_of_mem_right hOpened hTag
        rw [OpenTag.style, hNamed.parameters_eq, hNamed.name_eq]
        exact hNamed.style.fault?_eq _ _
      · exact hSpans s hs
  | plain text _ ih => exact ih hOpened _ hSpans
  | literal text _ ih => exact ih hOpened _ hSpans
  | opens i hName _ ih =>
      rw [hName.assemble_opens]
      exact ih (.cons ⟨hName, rfl, rfl⟩ hOpened) _ hSpans
  | closes i hName _ ih =>
      obtain ⟨⟨start, _, _⟩, others, ⟨-, hSame, hBare⟩, hOthers, rfl⟩ :=
        List.forall₂_cons_left_iff.1 hOpened
      dsimp only at hSame hBare
      subst hSame hBare
      rw [hName.assemble_closes]
      refine ih hOthers _ (List.forall_mem_cons.2 ⟨hName.fault?_eq _ _, hSpans⟩)

/-! ## Texts with tags -/

/-- A tag may start in the text: with a bracket, and a character that tags start with. -/
def MayTag (cs : List Char) : Prop := ∃ c, startsTag c = true ∧ ['[', c] <:+: cs

theorem not_mayTag_of_not_mem {cs : List Char} (hNone : '[' ∉ cs) : ¬ MayTag cs := by
  rintro ⟨c, -, hInfix⟩
  exact hNone (hInfix.mem List.mem_cons_self)

/-- However far it is into a text, the tags of the rest end in order. -/
def Tame (names : List String) (cs : List Char) : Prop :=
  ∀ fuel position, cs.length < fuel → Nested names (pieces fuel position cs)

section

variable {names : List String} {name : String} {c : Char} {cs front rest : List Char}

theorem tagAt?_of_ne (hc : c ≠ '[') : tagAt? (c :: cs) = none := by
  simp [tagAt?, hc]

theorem tagAt?_bracket (hHead : ∀ c ∈ cs.head?, startsTag c = false) :
    tagAt? ('[' :: cs) = none := by
  cases cs with
  | nil => rfl
  | cons c cs => simp [tagAt?, hHead c rfl]

theorem tame_nil : Tame names [] := by
  intro fuel position _
  rw [pieces_nil]
  exact .nil

theorem Tame.cons (hTag : tagAt? (c :: cs) = none) (hSlash : c ≠ '\\') (h : Tame names cs) :
    Tame names (c :: cs) := by
  intro fuel position hFuel
  obtain ⟨n, rfl⟩ : ∃ n, fuel = n + 1 := ⟨fuel - 1, by simp at hFuel; omega⟩
  have hStep : pieces (n + 1) position (c :: cs) =
      addPlain [c] (pieces n (position + Text.pointCount [c]) cs) := by
    simp [pieces, hSlash, hTag]
  rw [hStep]
  exact (h n _ (by simpa using hFuel)).addPlain [c]

/-- Text without brackets and backslashes makes no difference. -/
theorem Tame.after (hFront : (front.all fun c => c ≠ '[' && c ≠ '\\') = true)
    (h : Tame names cs) : Tame names (front ++ cs) := by
  induction front with
  | nil => exact h
  | cons c front ih =>
      simp only [List.all_cons, Bool.and_eq_true, decide_eq_true_eq] at hFront
      exact .cons (tagAt?_of_ne hFront.1.1) hFront.1.2 (ih hFront.2)

theorem Tame.opens (hName : NamesStyle name) (h : Tame (name :: names) rest) :
    Tame names ('[' :: (name.toList ++ ']' :: rest)) := by
  intro fuel position hFuel
  obtain ⟨n, rfl⟩ : ∃ n, fuel = n + 1 := ⟨fuel - 1, by simp at hFuel; omega⟩
  rw [pieces_tag hName.starts hName.not_bracket]
  exact .opens _ hName (h n _ (by simp at hFuel; omega))

theorem Tame.closes (hName : NamesStyle name) (h : Tame names rest) :
    Tame (name :: names) ('[' :: ('/' :: name.toList ++ ']' :: rest)) := by
  intro fuel position hFuel
  obtain ⟨n, rfl⟩ : ∃ n, fuel = n + 1 := ⟨fuel - 1, by simp at hFuel; omega⟩
  rw [pieces_tag rfl hName.not_bracket_end]
  exact .closes _ hName (h n _ (by simp at hFuel; omega))

/-- What may come after backslashes: nothing, a character of the text, or the end of a tag,
which they may keep from ending it. -/
inductive Follows : List String → List Char → Prop
  | nil {names : List String} : Follows names []
  | cons {names : List String} {c : Char} {cs : List Char} (hTag : tagAt? (c :: cs) = none)
      (hSlash : c ≠ '\\') (h : Tame names (c :: cs)) : Follows names (c :: cs)
  | closes {names : List String} {name : String} {rest : List Char} (hName : NamesStyle name)
      (hClosed : Tame names rest) (hOpen : Tame (name :: names) rest) :
      Follows (name :: names) ('[' :: ('/' :: name.toList ++ ']' :: rest))

theorem Follows.tame (h : Follows names cs) : Tame names cs := by
  cases h with
  | nil => exact tame_nil
  | cons hTag hSlash h => exact h
  | closes hName hClosed hOpen => exact .closes hName hClosed

theorem Follows.head?_ne (h : Follows names cs) : cs.head? ≠ some '\\' := by
  cases h with
  | nil => simp
  | cons hTag hSlash h => simpa using hSlash
  | closes hName hClosed hOpen => simp

/-- The backslashes in front of a text are taken together. -/
theorem takeWhile_backslashes (n : Nat) (hHead : cs.head? ≠ some '\\') :
    (List.replicate n '\\' ++ cs).takeWhile (· = '\\') = List.replicate n '\\' ∧
      (List.replicate n '\\' ++ cs).dropWhile (· = '\\') = cs := by
  have hAll : ∀ c ∈ List.replicate n '\\', decide (c = '\\') = true := fun c hc =>
    decide_eq_true (List.eq_of_mem_replicate hc)
  rw [List.takeWhile_append_of_pos hAll, List.dropWhile_append_of_pos hAll]
  cases cs with
  | nil => simp
  | cons c cs =>
      have hFirst : c ≠ '\\' := by simpa using hHead
      simp [hFirst]

/-- Backslashes in front of a tag may leave it open, and do nothing else. -/
theorem Follows.tame_backslashes (h : Follows names cs) (n : Nat) :
    Tame names (List.replicate n '\\' ++ cs) := by
  cases n with
  | zero => exact h.tame
  | succ n =>
      intro fuel position hFuel
      obtain ⟨m, rfl⟩ : ∃ m, fuel = m + 1 := ⟨fuel - 1, by simp at hFuel; omega⟩
      have hRest : cs.length < m := by simp at hFuel; omega
      obtain ⟨hTake, hDrop⟩ := takeWhile_backslashes (n + 1) h.head?_ne
      have hLeft : (List.replicate (n + 1) '\\' ++ cs).drop (n + 1) = cs := by
        rw [List.drop_left' List.length_replicate]
      -- Without a tag after them they are text.
      have hPlain : tagAt? cs = none → Nested names
          (pieces (m + 1) position (List.replicate (n + 1) '\\' ++ cs)) := by
        intro hNone
        have hPieces := (h.tame m (position + (n + 1)) hRest).addPlain
          (List.replicate (n + 1) '\\')
        rw [List.replicate_succ, List.cons_append] at hTake hDrop hLeft ⊢
        unfold pieces
        simpa [hTake, hDrop, hNone, hLeft, List.replicate_succ] using hPieces
      cases h with
      | nil => exact hPlain rfl
      | cons hTag hSlash h => exact hPlain hTag
      | @closes names name rest hName hClosed hOpen =>
          have hTag : tagAt? ('[' :: ('/' :: name.toList ++ ']' :: rest)) =
              some ('/' :: name.toList, rest) := tagAt?_tag rfl hName.not_bracket_end
          have hLonger : rest.length < m := by simp at hRest; omega
          have hText : ∀ text q, Nested (name :: names) (.literal text :: pieces m q rest) :=
            fun text q => .literal text (hOpen m q hLonger)
          have hEnd : ∀ i q, Nested (name :: names)
              (.tag i ('/' :: name.toList) :: pieces m q rest) :=
            fun i q => .closes i hName (hClosed m q hLonger)
          rw [List.replicate_succ, List.cons_append] at hTake hDrop ⊢
          unfold pieces
          simp only [hTake, hDrop, hTag]
          -- The last backslash of an odd number makes text of the tag.
          by_cases hOdd : ('\\' :: List.replicate n '\\').length % 2 = 1
          · rw [if_pos hOdd]
            split
            · exact hText _ _
            · exact .literal _ (hText _ _)
          · rw [if_neg hOdd]
            split
            · exact hEnd _ _
            · exact .literal _ (hEnd _ _)

/-- A text in which no tag may start makes no difference, whatever else is in it. -/
theorem Tame.append (hFront : ¬ MayTag front) (h : Follows names cs)
    (hHead : ∀ c ∈ cs.head?, startsTag c = false) : Tame names (front ++ cs) := by
  -- Backslashes wait for the first character after them.
  suffices hAll : ∀ n, Tame names (List.replicate n '\\' ++ (front ++ cs)) from hAll 0
  induction front with
  | nil => exact h.tame_backslashes
  | cons c front ih =>
      have hRest : ¬ MayTag front := by
        rintro ⟨d, hStarts, hInfix⟩
        exact hFront ⟨d, hStarts, hInfix.trans (List.suffix_cons c front).isInfix⟩
      intro n
      by_cases hSlash : c = '\\'
      · subst hSlash
        have hMore := ih hRest (n + 1)
        rwa [List.replicate_succ', List.append_assoc] at hMore
      · have hTag : tagAt? (c :: (front ++ cs)) = none := by
          by_cases hBracket : c = '['
          · subst hBracket
            refine tagAt?_bracket fun d hd => ?_
            cases front with
            | nil => exact hHead d hd
            | cons e front =>
                cases hd
                by_contra hStarts
                exact hFront ⟨d, by simpa using hStarts,
                  (List.prefix_append ['[', d] front).isInfix⟩
          · exact tagAt?_of_ne hBracket
        exact (Follows.cons hTag hSlash (.cons hTag hSlash (ih hRest 0))).tame_backslashes n

theorem tame_text (hText : ¬ MayTag cs) : Tame names cs := by
  have hNil : Follows names [] := .nil
  have hAlone := Tame.append hText hNil (by simp)
  rwa [List.append_nil] at hAlone

end

/-! ## What is printed -/

section

variable {markup : String}

theorem exists_render_of_tame (h : Tame [] markup.toList) :
    ∃ t : Styled, render markup = .ok t ∧ t.Clear := by
  have hNested := h (markup.length + 1) 0 (String.length_toList ▸ Nat.lt_succ_self _)
  exact assemble_of_nested hNested .nil [] (List.forall_mem_nil _)

theorem exists_printed_of_tame (h : Tame [] markup.toList) :
    ∃ text, printed markup = .ok text := by
  obtain ⟨t, hRender, hClear⟩ := exists_render_of_tame h
  have hLines : (t.lines.map Styled.expandTabs).findSome? Styled.fault? = none :=
    Styled.findSome?_fault? (List.forall_mem_map.2 fun u hu => (hClear.lines u hu).expandTabs)
  have hPrinted : printedLines t = .ok (t.lines.map Styled.expandTabs) := by
    unfold printedLines
    simp only [hLines]
  exact ⟨_, Outcome.bind_eq_ok_iff.2 ⟨t, hRender,
    Outcome.bind_eq_ok_iff.2 ⟨_, hPrinted, rfl⟩⟩⟩

/-- A text in a style, before what makes no difference either. -/
theorem tame_inStyle {name : String} (hName : NamesStyle name) {text rest : List Char}
    (hText : ∀ names cs, Follows names cs → (∀ c ∈ cs.head?, startsTag c = false) →
      Tame names (text ++ cs))
    (hRest : ∀ names, Tame names rest) (names : List String) :
    Tame names (inStyle name text ++ rest) := by
  have hEnd := hText (name :: names) ('[' :: ('/' :: name.toList ++ ']' :: rest))
    (.closes hName (hRest names) (hRest _)) (by simp [startsTag])
  have hChars : inStyle name text ++ rest = '[' :: (name.toList ++ ']' ::
      (text ++ '[' :: ('/' :: name.toList ++ ']' :: rest))) := by
    simp only [inStyle, List.cons_append, List.append_assoc, List.nil_append]
  rw [hChars]
  exact .opens hName hEnd

theorem tame_inStyle_last {name : String} (hName : NamesStyle name) {text : List Char}
    (hText : ¬ MayTag text) (names : List String) : Tame names (inStyle name text) := by
  have hAlone := tame_inStyle hName (fun _ _ => Tame.append hText) (fun _ => tame_nil) names
  rwa [List.append_nil] at hAlone

end

/-! ## Messages -/

section

variable {x y : String}

theorem exists_printed_warning (hx : ¬ MayTag x.toList) :
    ∃ text, printed s!"[yellow]⚠️  {x}[/yellow]" = .ok text := by
  have hChars : String.toList s!"[yellow]⚠️  {x}[/yellow]" =
      inStyle "yellow" ("⚠️  ".toList ++ x.toList) ++ [] := by
    simp [inStyle, toString]
  refine exists_printed_of_tame (hChars ▸ tame_inStyle .yellow ?_ (fun _ => tame_nil) _)
  intro names cs hFollows hHead
  rw [List.append_assoc]
  exact .after (by decide) (.append hx hFollows hHead)

theorem exists_printed_error (hx : ¬ MayTag x.toList) :
    ∃ text, printed s!"[red]✗ Error:[/red] {x}" = .ok text := by
  have hChars : String.toList s!"[red]✗ Error:[/red] {x}" =
      inStyle "red" "✗ Error:".toList ++ (" ".toList ++ x.toList) := by
    simp [inStyle, toString]
  refine exists_printed_of_tame (hChars ▸ tame_inStyle .red ?_ (fun _ => ?_) _)
  · exact fun _ _ hFollows _ => .after (by decide) hFollows.tame
  · exact .after (by decide) (tame_text hx)

theorem exists_printed_unwritten (hx : ¬ MayTag x.toList) (hy : ¬ MayTag y.toList) :
    ∃ text, printed s!"[red]✗ Failed to write to {x}:[/red] {y}" = .ok text := by
  have hChars : String.toList s!"[red]✗ Failed to write to {x}:[/red] {y}" =
      inStyle "red" ("✗ Failed to write to ".toList ++ (x.toList ++ [':'])) ++
        (" ".toList ++ y.toList) := by
    simp [inStyle, toString]
  refine exists_printed_of_tame (hChars ▸ tame_inStyle .red ?_ (fun _ => ?_) _)
  · intro names cs hFollows hHead
    have hColon : Follows names (':' :: cs) :=
      .cons (tagAt?_of_ne (by decide)) (by decide)
        (.cons (tagAt?_of_ne (by decide)) (by decide) hFollows.tame)
    rw [List.append_assoc, List.append_assoc]
    exact .after (by decide) (.append hx hColon (by simp [startsTag]))
  · exact .after (by decide) (tame_text hy)

theorem exists_printed_saved (hx : ¬ MayTag x.toList) :
    ∃ text, printed s!"[green]✓[/green] R class saved to [cyan]{x}[/cyan]" = .ok text := by
  have hChars : String.toList s!"[green]✓[/green] R class saved to [cyan]{x}[/cyan]" =
      inStyle "green" ['✓'] ++ (" R class saved to ".toList ++ inStyle "cyan" x.toList) := by
    simp [inStyle, toString]
  refine exists_printed_of_tame (hChars ▸ tame_inStyle .green ?_ (fun names => ?_) _)
  · exact fun _ _ hFollows _ => .after (by decide) hFollows.tame
  · exact .after (by decide) (tame_inStyle_last .cyan hx names)

theorem exists_printed_wrote (hx : ¬ MayTag x.toList) (hy : ¬ MayTag y.toList) :
    ∃ text, printed s!"[green]✓[/green] {x}: wrote [cyan]{y}[/cyan]" = .ok text := by
  have hChars : String.toList s!"[green]✓[/green] {x}: wrote [cyan]{y}[/cyan]" =
      inStyle "green" ['✓'] ++ (" ".toList ++ (x.toList ++
        (": wrote ".toList ++ inStyle "cyan" y.toList))) := by
    simp [inStyle, toString]
  refine exists_printed_of_tame (hChars ▸ tame_inStyle .green ?_ (fun names => ?_) _)
  · exact fun _ _ hFollows _ => .after (by decide) hFollows.tame
  · have hPath : Tame names (": wrote ".toList ++ inStyle "cyan" y.toList) :=
      .after (by decide) (tame_inStyle_last .cyan hy names)
    exact .after (by decide)
      (.append hx (.cons (tagAt?_of_ne (by decide)) (by decide) hPath) (by simp [startsTag]))

end

/-! ## Sheets -/

theorem exists_cellLines {t : Styled} (h : t.Clear) (n : Nat) :
    ∃ lines, cellLines n t = .ok lines := by
  have hLines : (wrapped n t).findSome? Styled.fault? = none := by
    refine Styled.findSome?_fault? fun u hu => ?_
    obtain ⟨line, hLine, hu⟩ := List.mem_flatMap.1 hu
    obtain ⟨v, hv, rfl⟩ := List.mem_map.1 hu
    exact (((h.lines line hLine).expandTabs.cutAt _ v hv).trimTo n).fitted n
  unfold cellLines
  simp only [hLines]
  exact ⟨_, rfl⟩

/-- Cells in which no tag may start are texts with known styles. -/
theorem exists_render_cells (cell : Row → String) {rows : List Row}
    (hRows : ∀ r ∈ rows, ¬ MayTag (cell r).toList) :
    ∃ ts : List Styled, rows.mapM (fun r => render (cell r)) = .ok ts ∧ ∀ t ∈ ts, t.Clear :=
  Outcome.exists_mapM_eq_ok fun r hr => exists_render_of_tame (tame_text (hRows r hr))

theorem exists_sheet {title : String} {header : Row} {rows : List Row}
    (hRows : ∀ r ∈ header :: rows, ¬ MayTag r.property.toList ∧ ¬ MayTag r.value.toList) :
    ∃ text, sheet title header rows = .ok text := by
  obtain ⟨properties, hProperties, hClear⟩ :=
    exists_render_cells Row.property fun r hr => (hRows r hr).1
  obtain ⟨values, hValues, hClear'⟩ :=
    exists_render_cells Row.value fun r hr => (hRows r hr).2
  let first := (properties.map widest).foldl max 0
  let second := (values.map widest).foldl max 0
  have hLines : ∀ r ∈ properties.zip values, ∃ lines,
      (do return rowLines first second (← cellLines first r.1) (← cellLines second r.2) :
        Except Error (List (List Char))) = .ok lines ∧ True := by
    intro r hr
    have hMem := List.of_mem_zip hr
    obtain ⟨ls, hLeft⟩ := exists_cellLines (hClear _ hMem.1) first
    obtain ⟨rs, hRight⟩ := exists_cellLines (hClear' _ hMem.2) second
    simp only [hLeft, hRight]
    exact ⟨_, rfl, trivial⟩
  obtain ⟨shown, hShown, -⟩ := Outcome.exists_mapM_eq_ok hLines
  unfold sheet
  exact ⟨_, Outcome.bind_eq_ok_iff.2 ⟨_, hProperties, Outcome.bind_eq_ok_iff.2 ⟨_, hValues,
    Outcome.bind_eq_ok_iff.2 ⟨_, hShown, rfl⟩⟩⟩⟩

end ResourceSymbols.Console
