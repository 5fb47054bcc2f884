import ResourceSymbols.Number.Binary64
import ResourceSymbols.Text.Language
import ResourceSymbols.Text.Letter
import ResourceSymbols.Text.LowerCase

/-!
# Likeness to a language

A text is like one in a language if its letters are about as common in it as in the
language.  The letters are ranked by how often they come; a letter agrees with the
language if its rank is near to the one that it has there and it has enough of the
letters before or behind it that it has there.

The letters of a text are judged in strands, one for each of its scripts, and a strand
of few letters says nothing.

## Main results

* `ranked_subset` — only letters of the strand are ranked.
-/

namespace ResourceSymbols.Text.Likeness

/-- How many letters of a strand say nothing. -/
def fewLetters : Nat := 32

/-- Adds the small letters to the first strand of a block that adjoins theirs. -/
def addTo (block : Block) (small : List Char) :
    List (Block × List Char) → List (Block × List Char)
  | [] => [(block, small.reverse)]
  | (first, letters) :: strands =>
    if first.adjoin block then (first, small.reverse ++ letters) :: strands
    else (first, letters) :: addTo block small strands

/-- The letters of a text in strands, as small letters, those of each in their order. -/
def strands (text : List Char) : List (List Char) :=
  let found := text.foldl (fun found c =>
    if !isLetter c then found
    else
      match block? c with
      | some block => addTo block (lowerCase [c]) found
      | none => found) []
  found.map fun s => s.2.reverse

/-- Counts a letter among those that were counted. -/
def count (c : Char) : List (Char × Nat) → List (Char × Nat)
  | [] => [(c, 1)]
  | (d, n) :: rest => if c = d then (d, n + 1) :: rest else (d, n) :: count c rest

/-- The letters of a strand, each once, the most frequent ones first.  Of equally
frequent ones the first to come is first. -/
def ranked (strand : List Char) : List Char :=
  ((strand.foldl (fun counted c => count c counted) []).mergeSort
    fun a b => decide (b.2 ≤ a.2)).map Prod.fst

theorem count_subset (c : Char) (counted : List (Char × Nat)) :
    ∀ d ∈ (count c counted).map Prod.fst, d = c ∨ d ∈ counted.map Prod.fst := by
  induction counted with
  | nil => simp [count]
  | cons e rest ih =>
    obtain ⟨d, n⟩ := e
    by_cases h : c = d
    · simp_all [count]
    · intro x hx
      simp only [count, h, if_false, List.map_cons, List.mem_cons] at hx ⊢
      rcases hx with hx | hx
      · exact .inr (.inl hx)
      · exact (ih x hx).imp id .inr

theorem foldl_count_subset (strand : List Char) (counted : List (Char × Nat)) :
    ∀ d ∈ (strand.foldl (fun counted c => count c counted) counted).map Prod.fst,
      d ∈ strand ∨ d ∈ counted.map Prod.fst := by
  induction strand generalizing counted with
  | nil => simp
  | cons c rest ih =>
    intro d hd
    rcases ih _ d hd with h | h
    · exact .inl (List.mem_cons_of_mem _ h)
    · rcases count_subset c counted d h with rfl | h
      · exact .inl List.mem_cons_self
      · exact .inr h

/-- Only letters of the strand are ranked. -/
theorem ranked_subset (strand : List Char) : ∀ c ∈ ranked strand, c ∈ strand := by
  intro c hc
  simp only [ranked, List.mem_map, List.mem_mergeSort] at hc
  obtain ⟨e, he, rfl⟩ := hc
  rcases foldl_count_subset strand [] e.1 (List.mem_map_of_mem he) with h | h
  · exact h
  · simp at h

/-- How many letters the two lists share. -/
def shared (xs ys : List Char) : Nat := xs.countP ys.contains

/-- Whether a part is at least two fifths of a whole. -/
def isLargePart (part whole : Nat) : Bool := decide (2 * whole ≤ 5 * part)

/-- Whether the letter at a rank agrees with the language, which has `letters`. -/
def agrees (letters ranked : List Char) (rank : Nat) (c : Char) : Bool :=
  match letters.idxOf? c with
  | none => false
  | some place =>
    let scale := letters.length.toFloat / ranked.length.toFloat
    let projected := (rank.toFloat * scale).toUInt64.toNat
    let distance := max projected place - min projected place
    let isLarge := decide (26 < letters.length)
    if !isLarge && decide (4 < distance) then false
    else if isLarge && decide (3 * distance < letters.length) then true
    else
      place = 0 ||
        isLargePart (shared (ranked.take rank) (letters.take place)) place ||
        isLargePart (shared (ranked.drop rank) (letters.drop place)) (letters.length - place)

/-- How many of the ranked letters agree with the language. -/
def agreement (l : Language) (ranked : List Char) : Nat :=
  ranked.zipIdx.countP fun e => agrees l.letters ranked e.2 e.1

/-- The languages, whether all their letters are Latin, and whether some carry
accents. -/
def described : List (Language × Bool × Bool) :=
  languages.map fun l => (l, l.isLatin, l.hasAccents)

/-- The languages that a text may be in. -/
inductive Candidates
  /-- Any that shares enough letters with it. -/
  | all
  /-- Any with Latin letters that shares enough of them with it. -/
  | latin
  | listed (ls : List Language)

/-- The languages that share at least a fifth of their letters with the ranked ones,
those that share most of them first.  Letters with accents rule out the languages
without any. -/
def sharing (latinOnly : Bool) (ranked : List Char) : List Language :=
  let accented := ranked.any isAccented
  let found := described.filterMap fun (l, isLatin, hasAccents) =>
    if (latinOnly && !isLatin) || (accented && !hasAccents) then none
    else
      let n := shared l.letters ranked
      if l.letters.length ≤ 5 * n then some (l, n.toFloat / l.letters.length.toFloat) else none
  (found.mergeSort fun a b => decide (b.2 ≤ a.2)).map Prod.fst

/-- The candidates in the order in which the ranked letters are held against them. -/
def Candidates.inOrder (candidates : Candidates) (ranked : List Char) : List Language :=
  match candidates with
  | .all => sharing false ranked
  | .latin => sharing true ranked
  | .listed ls => ls

/-- A number that is not negative in ten-thousandths. -/
def tenThousandths (x : Float) : Nat := Number.Binary64.scaled 10000 ⟨x.toBits⟩

/-- A language, with its way of writing, and the likeness to it in ten-thousandths. -/
abbrev Match := (String × Nat) × Nat

/-- Holds ranked letters against languages.  Less than a tenth is no match; the third
good match, of four fifths and more, is the last one that is looked for.  `good` is the
number of those found so far. -/
def hold (ranked : List Char) : Nat → List Language → List Match × Nat
  | good, [] => ([], good)
  | good, l :: ls =>
    let n := agreement l ranked
    if 10 * n < ranked.length then hold ranked good ls
    else
      let good := if 4 * ranked.length ≤ 5 * n then good + 1 else good
      let found := ((l.name, l.writing), tenThousandths (n.toFloat / ranked.length.toFloat))
      if 3 ≤ good then ([found], good)
      else
        let (more, good) := hold ranked good ls
        (found :: more, good)

/-- The matches without their ways of writing, of each language the best, if a language
comes more than once. -/
def joined (found : List Match) : List Match :=
  let names := (found.map fun m => m.1.1).eraseDups
  if names.length = found.length then found
  else names.map fun name =>
    ((name, 0), ((found.filter fun m => m.1.1 = name).map Prod.snd).foldl max 0)

/-- The languages that a text is like. -/
def ofText (candidates : Candidates) (text : List Char) : List Match :=
  let (found, _) := (strands text).foldl (fun (found, good) strand =>
    if strand.length ≤ fewLetters then (found, good)
    else
      let letters := ranked strand
      let (more, good) := hold letters good (candidates.inOrder letters)
      (found ++ more, good)) ([], 0)
  joined found

/-- The likeness of some texts to the language that they are most like: to each it is
the mean over the texts that are like it. -/
def best (found : List (List Match)) : Nat :=
  let all := found.flatten
  ((all.map Prod.fst).eraseDups.map fun label =>
    let values := (all.filter fun m => m.1 = label).map fun m => Float.ofScientific m.2 true 4
    tenThousandths (values.foldl (· + ·) 0 / values.length.toFloat)).foldl max 0

end ResourceSymbols.Text.Likeness
