import ResourceSymbols.Proofs.Encoding
import ResourceSymbols.Proofs.PrintedDocuments

/-!
# Documents in pieces

A document is written to a file piece by piece.  All its pieces together are the document, and
they have octets exactly if no text in it, names among them, holds half of a surrogate pair:
such a half is written as it stands.

## Main results

* `exists_pieces` — the pieces make the document.
* `whole_writtenText_iff` — a half in a text is kept.
* `encodable_pieces_iff` — whether all pieces have octets.
-/

namespace ResourceSymbols

namespace Text

/-! ## Texts that hold no half of a pair -/

/-- Characters before the first mark say nothing about halves. -/
theorem whole_append_iff {as bs : List Char} (hPlain : mark ∉ as) :
    Whole (as ++ bs) ↔ Whole bs := by
  have hPoints : codePoints (as ++ bs) = as.map .char ++ codePoints bs := by
    have hAll := codePoints_spelled_append as bs
    rwa [spelled_of_not_mem hPlain] at hAll
  have hNever : ∀ n, CodePoint.half n ∉ as.map CodePoint.char := by simp
  simp only [Whole, hPoints, List.mem_append, hNever, false_or]

theorem whole_of_not_mem {cs : List Char} (hPlain : mark ∉ cs) : Whole cs := by
  rw [← List.append_nil cs, whole_append_iff hPlain]
  exact fun _ => List.not_mem_nil

/-- A mark is the start of a half, unless the character after it stands for the mark. -/
theorem whole_mark_iff {c : Char} {cs : List Char} :
    Whole (mark :: c :: cs) ↔ c = markItself ∧ Whole cs := by
  have hPoints : codePoints (mark :: c :: cs) = .ofMarked c :: codePoints cs := rfl
  unfold Whole
  rw [hPoints, CodePoint.ofMarked]
  by_cases hItself : c = markItself
  · simp [hItself]
  · rw [if_neg hItself]
    exact iff_of_false (fun hWhole => hWhole _ List.mem_cons_self) fun hWhole => hItself hWhole.1

end Text

namespace Json

open Text (Foreign Whole mark whole_append_iff whole_of_not_mem foreign_mark)

/-! ## Written texts -/

theorem mark_not_mem_writtenChar {c : Char} (hPlain : c ≠ mark) :
    mark ∉ writtenChar (fun _ => true) c := by
  rcases writtenChar_cases c with ⟨e, hWritten, hEscape, -, -⟩ | ⟨hWritten, -⟩ | ⟨hWritten, -⟩
  · rw [hWritten]
    have hBackslash := foreign_mark.ne (d := '\\') (by decide)
    have hNone : Reader.escaped? mark = none := by decide
    have hLetter : mark ≠ e := by
      rintro rfl
      cases hNone.symm.trans hEscape
    simp [hBackslash, hLetter]
  · rw [hWritten]
    exact not_mem_unitEscape foreign_mark _
  · rw [hWritten, List.mem_singleton]
    exact hPlain.symm

/-- What is written for a character starts as what stands for the mark only if the character
does. -/
theorem head_writtenChar {c : Char} (hOther : c ≠ Text.markItself) :
    ∃ d ds, writtenChar (fun _ => true) c = d :: ds ∧ d ≠ Text.markItself := by
  rcases writtenChar_cases c with ⟨e, hWritten, -⟩ | ⟨hWritten, -⟩ | ⟨hWritten, -⟩
  · exact ⟨_, _, hWritten, by decide⟩
  · exact ⟨_, _, hWritten, by decide⟩
  · exact ⟨_, _, hWritten, hOther⟩

/-- The characters of a text are written with a half exactly if they spell one.  The quote
after them keeps a mark at their end from finding what belongs to it. -/
theorem whole_writtenChars_iff (cs : List Char) :
    Whole (cs.flatMap (writtenChar fun _ => true) ++ ['"']) ↔ Whole cs := by
  fun_induction Text.codePoints cs with
  | case1 => exact iff_of_true (whole_of_not_mem (by decide)) (whole_of_not_mem (by decide))
  | case2 =>
      refine iff_of_false (fun hWhole => ?_) fun hWhole => hWhole 0 List.mem_cons_self
      exact absurd (Text.whole_mark_iff.1 hWhole).1 (by decide)
  | case3 c cs ih =>
      have hMark : writtenChar (fun _ => true) '\uE000' = [mark] := by decide
      rw [List.flatMap_cons, hMark, List.flatMap_cons]
      by_cases hItself : c = Text.markItself
      · have hWritten : writtenChar (fun _ => true) Text.markItself = [Text.markItself] := by
          decide
        have hMarked : ∀ rest, Whole (mark :: Text.markItself :: rest) ↔ Whole rest :=
          fun _ => Text.whole_mark_iff.trans (and_iff_right rfl)
        rw [hItself, hWritten]
        exact (hMarked _).trans (ih.trans (hMarked cs).symm)
      · obtain ⟨d, ds, hWritten, hOther⟩ := head_writtenChar hItself
        rw [hWritten]
        exact iff_of_false (fun hWhole => hOther (Text.whole_mark_iff.1 hWhole).1)
          fun hWhole => hItself (Text.whole_mark_iff.1 hWhole).1
  | case4 c cs hNotLast hNotMark ih =>
      have hPlain : c ≠ mark := by
        rintro rfl
        cases cs with
        | nil => exact hNotLast rfl rfl
        | cons d ds => exact hNotMark d ds rfl rfl
      have hAlone : mark ∉ [c] := fun hMem => hPlain (List.mem_singleton.1 hMem).symm
      rw [List.flatMap_cons, List.append_assoc, whole_append_iff (mark_not_mem_writtenChar hPlain),
        ih, ← whole_append_iff hAlone]
      rfl

/-- A half in a text is kept. -/
theorem whole_writtenText_iff (s : String) : Whole (writtenText s).toList ↔ Whole s.toList := by
  have hQuote : mark ∉ ['"'] := by decide
  rw [writtenText, String.toList_ofList]
  exact (whole_append_iff hQuote).trans (whole_writtenChars_iff s.toList)

namespace Value

/-! ## The pieces together -/

/-- The parts, with `front` before the first and a separator before each of the others. -/
def fronted (sep : String) : String → List String → String
  | _, [] => ""
  | front, part :: parts => front ++ part ++ fronted sep sep parts

theorem fronted_eq {sep front : String} {parts : List String} (hSome : parts ≠ []) :
    fronted sep front parts = front ++ sep.intercalate parts := by
  induction parts generalizing front with
  | nil => exact absurd rfl hSome
  | cons part parts ih =>
      cases parts with
      | nil => rw [fronted, fronted, String.append_empty, String.intercalate_singleton]
      | cons next rest =>
          rw [fronted, ih (List.cons_ne_nil _ _), String.intercalate_cons_cons]
          simp only [String.append_assoc]

/-- A value without parts is one piece. -/
theorem piecesAt_of_plain {v : Value} (hPlain : v.hasParts = false) (depth : Nat) :
    v.piecesAt depth = [v.plain?] ∧ v.indentedAt? depth = v.plain? := by
  cases v with
  | list | object => cases hPlain
  | _ => exact ⟨rfl, rfl⟩

theorem join_singleton (t : String) : String.join [t] = t := by
  rw [String.join_cons, String.join_nil, String.append_empty]

mutual

/-- The pieces of a value make what is written for it. -/
theorem exists_piecesAt : ∀ (v : Value) (depth : Nat) (t : String),
    v.indentedAt? depth = some t → ∃ ts, v.piecesAt depth = ts.map some ∧ String.join ts = t
  | .null | .bool _ | .int _ | .real _ | .text _ => by
      intro depth t hText
      refine ⟨[t], ?_, join_singleton t⟩
      rw [(piecesAt_of_plain rfl depth).1, ← (piecesAt_of_plain rfl depth).2, hText]
      rfl
  | .list [] => by
      rintro depth t ⟨⟩
      exact ⟨["[]"], rfl, rfl⟩
  | .list (v :: vs) => by
      intro depth t hText
      rw [indentedAt?] at hText
      obtain ⟨parts, hParts, rfl⟩ := Option.map_eq_some_iff.1 hText
      obtain ⟨ts, hPieces, hJoin⟩ := exists_itemPieces (v :: vs) (depth + 1)
        ("[" ++ newLine (depth + 1)) parts hParts
      obtain ⟨t, rest, -, -, rfl⟩ := indentedItems?_cons hParts
      refine ⟨ts ++ [newLine depth, "]"], ?_, ?_⟩
      · rw [piecesAt, hPieces, List.map_append]
        rfl
      · rw [String.join_append, hJoin, fronted_eq (List.cons_ne_nil _ _), bracketed,
          String.join_cons, join_singleton]
        simp only [List.isEmpty_cons, Bool.false_eq_true, if_false, String.append_assoc]
  | .object [] => by
      rintro depth t ⟨⟩
      exact ⟨["\x7b\x7d"], rfl, rfl⟩
  | .object (m :: ms) => by
      intro depth t hText
      rw [indentedAt?] at hText
      obtain ⟨parts, hParts, rfl⟩ := Option.map_eq_some_iff.1 hText
      obtain ⟨ts, hPieces, hJoin⟩ := exists_memberPieces (m :: ms) (depth + 1) parts hParts
      obtain ⟨t, rest, -, -, rfl⟩ := indentedMembers?_cons hParts
      refine ⟨"\x7b" :: newLine (depth + 1) :: ts ++ [newLine depth, "\x7d"], ?_, ?_⟩
      · rw [piecesAt, hPieces]
        simp
      · rw [String.join_append, String.join_cons, String.join_cons, hJoin, bracketed,
          String.join_cons, join_singleton]
        simp only [List.isEmpty_cons, Bool.false_eq_true, if_false, String.append_assoc]

theorem exists_itemPieces : ∀ (vs : List Value) (depth : Nat) (front : String)
    (parts : List String), indentedItems? depth vs = some parts →
      ∃ ts, itemPieces depth front vs = ts.map some ∧
        String.join ts = fronted ("," ++ newLine depth) front parts
  | [] => by
      rintro depth front parts ⟨⟩
      exact ⟨[], rfl, rfl⟩
  | v :: vs => by
      intro depth front parts hParts
      obtain ⟨t, rest, hHead, hTail, rfl⟩ := indentedItems?_cons hParts
      obtain ⟨ts, hPieces, hJoin⟩ := exists_itemPieces vs depth ("," ++ newLine depth) rest hTail
      cases hHas : v.hasParts with
      | true =>
          obtain ⟨us, hInner, rfl⟩ := exists_piecesAt v depth t hHead
          refine ⟨front :: us ++ ts, ?_, ?_⟩
          · rw [itemPieces, hHas, if_pos rfl, hInner, hPieces]
            simp
          · rw [String.join_append, String.join_cons, hJoin, fronted]
      | false =>
          rw [(piecesAt_of_plain hHas depth).2] at hHead
          refine ⟨(front ++ t) :: ts, ?_, ?_⟩
          · rw [itemPieces, hHas, if_neg Bool.false_ne_true, hHead, hPieces]
            rfl
          · rw [String.join_cons, hJoin, fronted]

theorem exists_memberPieces : ∀ (ms : List (String × Value)) (depth : Nat)
    (parts : List String), indentedMembers? depth ms = some parts →
      ∃ ts, memberPieces depth ms = ts.map some ∧
        String.join ts = ("," ++ newLine depth).intercalate parts
  | [] => by
      rintro depth parts ⟨⟩
      exact ⟨[], rfl, rfl⟩
  | (name, v) :: ms => by
      intro depth parts hParts
      obtain ⟨t, rest, hHead, hTail, rfl⟩ := indentedMembers?_cons hParts
      obtain ⟨us, hInner, rfl⟩ := exists_piecesAt v depth t hHead
      obtain ⟨ts, hPieces, hJoin⟩ := exists_memberPieces ms depth rest hTail
      have hFirst : writtenMember name (String.join us) =
          writtenText name ++ ": " ++ String.join us := rfl
      cases ms with
      | nil =>
          cases hTail
          refine ⟨writtenText name :: ": " :: us, ?_, ?_⟩
          · rw [memberPieces, hInner]
            simp
          · rw [String.join_cons, String.join_cons, String.intercalate_singleton, hFirst,
              String.append_assoc]
      | cons n ms =>
          obtain ⟨t', rest', -, -, rfl⟩ := indentedMembers?_cons hTail
          refine ⟨writtenText name :: ": " :: us ++ ("," ++ newLine depth) :: ts, ?_, ?_⟩
          · rw [memberPieces, hInner, hPieces]
            simp
          · rw [String.join_append, String.join_cons, String.join_cons, String.join_cons, hJoin,
              String.intercalate_cons_cons, hFirst]
            simp only [String.append_assoc]

end

/-- The pieces of a document make the document. -/
theorem exists_pieces {v : Value} {t : String} (hText : v.indented? = some t) :
    ∃ ts, v.pieces = ts.map some ∧ String.join ts = t :=
  exists_piecesAt v 0 t hText

/-! ## Halves in the pieces -/

mutual

/-- The texts in the value, names among them. -/
def texts : Value → List String
  | text s => [s]
  | list items => itemTexts items
  | object members => memberTexts members
  | _ => []

/-- The texts in the values. -/
def itemTexts : List Value → List String
  | [] => []
  | v :: vs => texts v ++ itemTexts vs

/-- The names of the members, and the texts in their values. -/
def memberTexts : List (String × Value) → List String
  | [] => []
  | (name, v) :: members => name :: texts v ++ memberTexts members

end

/-- No piece that can be written holds half of a pair. -/
def AllWhole (pieces : List (Option String)) : Prop :=
  ∀ piece ∈ pieces, ∀ t, piece = some t → Whole t.toList

theorem allWhole_append_iff {ps qs : List (Option String)} :
    AllWhole (ps ++ qs) ↔ AllWhole ps ∧ AllWhole qs :=
  List.forall_mem_append

theorem allWhole_cons_iff {t : String} {ps : List (Option String)} :
    AllWhole (some t :: ps) ↔ Whole t.toList ∧ AllWhole ps := by
  simp [AllWhole]

theorem allWhole_plain_cons_iff {t : String} {ps : List (Option String)}
    (hPlain : mark ∉ t.toList) : AllWhole (some t :: ps) ↔ AllWhole ps :=
  allWhole_cons_iff.trans (and_iff_right (whole_of_not_mem hPlain))

theorem allWhole_nil : AllWhole [] := List.forall_mem_nil _

theorem mark_not_mem_newLine (depth : Nat) : mark ∉ (newLine depth).toList :=
  not_mem_newLine foreign_mark depth

theorem mark_not_mem_before_newLine {front : String} (hFront : mark ∉ front.toList)
    (depth : Nat) : mark ∉ (front ++ newLine depth).toList := by
  rw [String.toList_append]
  exact List.not_mem_append hFront (mark_not_mem_newLine depth)

/-- A value without parts holds a half in its piece exactly if it is a text with one. -/
theorem allWhole_plain_iff {v : Value} (hPlain : v.hasParts = false) {front : String}
    (hFront : mark ∉ front.toList) :
    AllWhole [v.plain?.map (front ++ ·)] ↔ ∀ s ∈ v.texts, Whole s.toList := by
  have hPiece : AllWhole [v.plain?.map (front ++ ·)] ↔
      ∀ t, v.plain? = some t → Whole t.toList := by
    simp only [AllWhole, List.mem_singleton, forall_eq, Option.map_eq_some_iff,
      forall_exists_index, and_imp]
    constructor
    · intro hWhole t hText
      have hAll := hWhole _ t hText rfl
      rwa [String.toList_append, whole_append_iff hFront] at hAll
    · rintro hWhole _ t hText rfl
      rw [String.toList_append, whole_append_iff hFront]
      exact hWhole t hText
  rw [hPiece]
  cases v with
  | list | object => cases hPlain
  | text s => simp [plain?, texts, whole_writtenText_iff]
  | null => simpa [plain?, texts] using whole_of_not_mem (by decide)
  | bool b =>
      have hWord : mark ∉ (if b then "true" else "false").toList := by cases b <;> decide
      simpa [plain?, texts] using whole_of_not_mem hWord
  | int n =>
      simp only [plain?, texts, List.not_mem_nil, false_imp_iff, implies_true, iff_true]
      exact fun t hText => whole_of_not_mem (Number.not_mem_decimal? foreign_mark hText)
  | real x =>
      have hText : mark ∉ (x.text jsonWords).toList :=
        Number.not_mem_text foreign_mark (by decide) (by decide) x
      simpa [plain?, texts] using whole_of_not_mem hText

mutual

/-- The pieces of a value hold a half exactly if one of its texts does. -/
theorem allWhole_piecesAt_iff : ∀ (v : Value) (depth : Nat),
    AllWhole (v.piecesAt depth) ↔ ∀ s ∈ v.texts, Whole s.toList
  | .null | .bool _ | .int _ | .real _ | .text _ => by
      intro depth
      have hFront : mark ∉ "".toList := List.not_mem_nil
      rw [(piecesAt_of_plain rfl depth).1, ← allWhole_plain_iff rfl hFront]
      simp
  | .list [] => fun _ => by
      refine iff_of_true ?_ (List.forall_mem_nil _)
      exact (allWhole_plain_cons_iff (by decide)).2 allWhole_nil
  | .list (v :: vs) => by
      intro depth
      have hFront : mark ∉ ("[" ++ newLine (depth + 1)).toList :=
        mark_not_mem_before_newLine (by decide) _
      rw [piecesAt]
      simp only [List.isEmpty_cons, Bool.false_eq_true, if_false, texts]
      rw [allWhole_append_iff, allWhole_itemPieces_iff (v :: vs) _ _ hFront,
        allWhole_plain_cons_iff (mark_not_mem_newLine _), allWhole_plain_cons_iff (by decide)]
      exact and_iff_left allWhole_nil
  | .object [] => fun _ => by
      refine iff_of_true ?_ (List.forall_mem_nil _)
      exact (allWhole_plain_cons_iff (by decide)).2 allWhole_nil
  | .object (m :: ms) => by
      intro depth
      rw [piecesAt]
      simp only [List.isEmpty_cons, Bool.false_eq_true, if_false, texts]
      rw [allWhole_append_iff, allWhole_plain_cons_iff (by decide),
        allWhole_plain_cons_iff (mark_not_mem_newLine _), allWhole_memberPieces_iff (m :: ms),
        allWhole_plain_cons_iff (mark_not_mem_newLine _), allWhole_plain_cons_iff (by decide)]
      exact and_iff_left allWhole_nil

theorem allWhole_itemPieces_iff : ∀ (vs : List Value) (depth : Nat) (front : String),
    mark ∉ front.toList →
      (AllWhole (itemPieces depth front vs) ↔ ∀ s ∈ itemTexts vs, Whole s.toList)
  | [] => fun _ _ _ => iff_of_true allWhole_nil (List.forall_mem_nil _)
  | v :: vs => by
      intro depth front hFront
      have hSep : mark ∉ ("," ++ newLine depth).toList :=
        mark_not_mem_before_newLine (by decide) _
      rw [itemPieces, allWhole_append_iff, allWhole_itemPieces_iff vs depth _ hSep, itemTexts,
        List.forall_mem_append]
      refine and_congr_left' ?_
      cases hParts : v.hasParts with
      | true => rw [if_pos rfl, allWhole_plain_cons_iff hFront, allWhole_piecesAt_iff v depth]
      | false => rw [if_neg Bool.false_ne_true, allWhole_plain_iff hParts hFront]

theorem allWhole_memberPieces_iff : ∀ (ms : List (String × Value)) (depth : Nat),
    AllWhole (memberPieces depth ms) ↔ ∀ s ∈ memberTexts ms, Whole s.toList
  | [] => fun _ => iff_of_true allWhole_nil (List.forall_mem_nil _)
  | (name, v) :: ms => by
      intro depth
      have hSep : mark ∉ ("," ++ newLine depth).toList :=
        mark_not_mem_before_newLine (by decide) _
      have hRest : AllWhole (if ms.isEmpty then [] else
          some ("," ++ newLine depth) :: memberPieces depth ms) ↔
            ∀ s ∈ memberTexts ms, Whole s.toList := by
        rw [← allWhole_memberPieces_iff ms depth]
        cases ms with
        | nil => rfl
        | cons m ms => exact allWhole_plain_cons_iff hSep
      rw [memberPieces, allWhole_append_iff, hRest, allWhole_cons_iff,
        allWhole_plain_cons_iff (by decide), allWhole_piecesAt_iff v depth, whole_writtenText_iff,
        memberTexts, List.forall_mem_append, List.forall_mem_cons]

end

/-- No text in the value holds half of a surrogate pair. -/
def NoHalves (v : Value) : Prop := ∀ s ∈ v.texts, Whole s.toList

/-- The pieces of a document have octets exactly if no text in it holds half of a pair. -/
theorem encodable_pieces_iff {v : Value} {ts : List String} (hPieces : v.pieces = ts.map some) :
    (∀ t ∈ ts, Text.Utf8.Encodable t) ↔ v.NoHalves := by
  rw [NoHalves, ← allWhole_piecesAt_iff v 0, ← pieces, hPieces]
  simp [AllWhole, Text.Utf8.encodable_iff]

end Value

end Json

end ResourceSymbols
