import ResourceSymbols.Charset.Basic

/-!
# Samples of a text

A short text is judged as a whole, and a long one by a few parts of it.  The parts of a
text in a charset of several octets for a character are cut from the octets, so that one
may start within a character.

## Main results

* `place_lt` — a sample starts within the text.
-/

namespace ResourceSymbols.Charset

/-- How long a sample is. -/
def sampleSize : Nat := 512

/-- How many samples follow one another at least. -/
def sampleCount : Nat := 5

/-- Where the samples start. -/
def places (size : Nat) : List Nat :=
  ((List.range (sampleCount + 1)).map (· * (size / sampleCount))).filter (· < size)

/-- A sample starts within the text. -/
theorem place_lt {size place : Nat} (h : place ∈ places size) : place < size := by
  simp only [places, List.mem_filter, decide_eq_true_eq] at h
  exact h.2

/-- As much of a text as the octets spell.  Octets that spell nothing are passed
over. -/
def readSome : Charset → List UInt8 → List Char
  | .unicode _ e, octets => e.readSome octets
  | .page p, octets => (p.decode? octets).getD []
  | .wide w, octets => w.spelling.readSome octets

/-- Whether some characters follow one another in a text. -/
def occursIn (part : List Char) : List Char → Bool
  | [] => part.isEmpty
  | c :: rest => part.isPrefixOf (c :: rest) || occursIn part rest

/-- The sample of octets that starts at a place, or up to three octets in front of it
where its first characters are found in the text. -/
def sampleAt (charset : Charset) (octets : List UInt8) (text : List Char) (place : Nat) :
    List Char :=
  let cut (start : Nat) : List Char :=
    charset.readSome ((octets.drop start).take (place + sampleSize - start))
  if place = 0 then cut 0
  else
    let starts := (List.range 4).map (place - ·)
    (starts.findSome? fun start =>
      let sample := cut start
      if occursIn (sample.take 16) text then some sample else none).getD (cut (place - 3))

/-- The samples of the text that octets spell in a charset. -/
def samples (charset : Charset) (octets : List UInt8) (text : List Char) : List (List Char) :=
  let size := octets.length
  if size ≤ sampleSize * sampleCount then [text]
  else
    match charset with
    | .page _ => (places size).map fun place => (text.drop place).take sampleSize
    | _ =>
      ((places size).filter fun place => decide (place + sampleSize ≤ size + 8)).map
        (sampleAt charset octets text)

end ResourceSymbols.Charset
