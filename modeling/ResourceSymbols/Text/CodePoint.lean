/-!
# Code points

A text may hold code points that are no characters: halves of surrogate pairs, each without
its other half.  An escape in a document brings them in, and so may an argument.

A half is spelled in two characters, a mark and another that stands for the half.  The mark
is a character for private use, and where a text has that character it is spelled in two as
well.  So no two texts are spelled alike, and spellings are in the order of the code points.
A mark that nothing proper follows is taken for a half, and no text is spelled with it.

## Main results

* `codePoints_spelled` — a spelling has the code points that it was made of.
* `eq_spelled_of_codePoints` — a text without halves is a spelling of characters.
-/

namespace ResourceSymbols.Text

/-- A code point: a character, or half of a surrogate pair. -/
inductive CodePoint
  | char (c : Char)
  | half (n : Nat)
deriving DecidableEq, Repr

/-- The character that is spelled in two, and starts the spelling of every half. -/
def mark : Char := '\uE000'

/-- What follows the mark where a text has the character that marks are made of. -/
def markItself : Char := '\uE801'

namespace CodePoint

/-- Whether the code point is half of a pair. -/
def isHalf : CodePoint → Bool
  | char _ => false
  | half _ => true

/-- The characters that spell the code point. -/
def spelling : CodePoint → List Char
  | char c => if c = mark then [mark, markItself] else [c]
  | half n => [mark, Char.ofNat (n + 0x801)]

/-- The code point that a mark and the character after it spell. -/
def ofMarked (c : Char) : CodePoint :=
  if c = markItself then char mark else half (c.toNat - 0x801)

end CodePoint

/-- The spelling of characters. -/
def spelled (cs : List Char) : List Char := cs.flatMap fun c => (CodePoint.char c).spelling

/-- The code points of a text. -/
def codePoints : List Char → List CodePoint
  | [] => []
  | ['\uE000'] => [.half 0]
  | '\uE000' :: c :: cs => .ofMarked c :: codePoints cs
  | c :: cs => .char c :: codePoints cs

/-- The characters among the code points of a text. -/
def characters (cs : List Char) : List Char :=
  (codePoints cs).filterMap fun
    | .char c => some c
    | .half _ => none

/-- The characters spell no half of a pair. -/
def Whole (cs : List Char) : Prop := ∀ n, .half n ∉ codePoints cs

/-- How many code points the characters spell.  What stands after a mark is no part of the
count. -/
def pointCount (cs : List Char) : Nat := cs.countP (· ≠ mark)

theorem pointCount_append (cs ds : List Char) :
    pointCount (cs ++ ds) = pointCount cs + pointCount ds := List.countP_append

theorem codePoints_cons {c : Char} (hPlain : c ≠ mark) (cs : List Char) :
    codePoints (c :: cs) = .char c :: codePoints cs := by
  rw [codePoints.eq_def]
  split
  · contradiction
  · rename_i hSame
    exact absurd (List.cons.inj hSame).1 hPlain
  · rename_i hSame
    exact absurd (List.cons.inj hSame).1 hPlain
  · rename_i hSame
    obtain ⟨rfl, rfl⟩ := List.cons.inj hSame
    rfl

/-- A text without the mark has its characters for code points. -/
theorem codePoints_of_not_mem {cs : List Char} (hPlain : mark ∉ cs) :
    codePoints cs = cs.map .char := by
  induction cs with
  | nil => rfl
  | cons c cs ih =>
      rw [List.mem_cons, not_or] at hPlain
      rw [codePoints_cons (Ne.symm hPlain.1), ih hPlain.2, List.map_cons]

/-- What spells a code point spells one. -/
theorem exists_codePoints_spelling (p : CodePoint) : ∃ q, codePoints p.spelling = [q] := by
  cases p with
  | half n => exact ⟨.ofMarked (Char.ofNat (n + 0x801)), rfl⟩
  | char c =>
      rw [CodePoint.spelling]
      split
      · exact ⟨.ofMarked markItself, rfl⟩
      · rename_i hPlain
        exact ⟨.char c, codePoints_cons hPlain []⟩

/-- After a spelling come the code points of the rest. -/
theorem codePoints_spelled_append (cs rest : List Char) :
    codePoints (spelled cs ++ rest) = cs.map .char ++ codePoints rest := by
  induction cs with
  | nil => rfl
  | cons c cs ih =>
      rw [spelled, List.flatMap_cons, List.map_cons, CodePoint.spelling, List.append_assoc]
      rw [spelled] at ih
      split
      · rename_i hMark
        rw [hMark, List.cons_append, List.cons_append, List.nil_append, List.cons_append, ← ih]
        rfl
      · rename_i hPlain
        rw [List.cons_append, List.nil_append, codePoints_cons hPlain, ih, List.cons_append]

/-- Characters other than the mark are spelled as they are. -/
theorem spelled_of_not_mem {cs : List Char} (hPlain : mark ∉ cs) : spelled cs = cs := by
  induction cs with
  | nil => rfl
  | cons c cs ih =>
      rw [List.mem_cons, not_or] at hPlain
      rw [spelled, List.flatMap_cons, CodePoint.spelling, if_neg (Ne.symm hPlain.1), ← spelled,
        ih hPlain.2, List.cons_append, List.nil_append]

/-- A spelling has the code points that it was made of. -/
theorem codePoints_spelled (cs : List Char) : codePoints (spelled cs) = cs.map .char := by
  have hAll := codePoints_spelled_append cs []
  rwa [List.append_nil, codePoints, List.append_nil] at hAll

/-- A text without halves is a spelling of its characters. -/
theorem eq_spelled_of_codePoints {cs : List Char} {plain : List Char}
    (hPoints : codePoints cs = plain.map .char) : cs = spelled plain := by
  fun_induction codePoints cs generalizing plain with
  | case1 =>
      rw [eq_comm, List.map_eq_nil_iff] at hPoints
      rw [hPoints]
      rfl
  | case2 =>
      cases plain with
      | nil => cases hPoints
      | cons c plain => cases hPoints
  | case3 c cs ih =>
      cases plain with
      | nil => cases hPoints
      | cons d plain =>
          obtain ⟨hFirst, hRest⟩ := List.cons.inj hPoints
          unfold CodePoint.ofMarked at hFirst
          split at hFirst
          · rename_i hItself
            rw [hItself, ih hRest, ← CodePoint.char.inj hFirst]
            rfl
          · cases hFirst
  | case4 c cs hNotLast hNotMark ih =>
      cases plain with
      | nil => cases hPoints
      | cons d plain =>
          obtain ⟨hFirst, hRest⟩ := List.cons.inj hPoints
          obtain rfl := CodePoint.char.inj hFirst
          have hPlain : c ≠ mark := by
            rintro rfl
            cases cs with
            | nil => exact hNotLast rfl rfl
            | cons e es => exact hNotMark e es rfl rfl
          rw [ih hRest, spelled, spelled, List.flatMap_cons, CodePoint.spelling,
            if_neg hPlain, List.cons_append, List.nil_append]

end ResourceSymbols.Text
