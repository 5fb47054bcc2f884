import Mathlib.Data.List.Basic
import ResourceSymbols.Proofs.Outcome
import ResourceSymbols.Text.Utf8

/-!
# Texts in UTF-8

What a text is encoded as is read as that text again.  A character is encoded as one to four
octets; the first of them tells how many follow and holds the high bits, and each of the
others holds six more.  Half of a surrogate pair is not encoded at all, and so the texts
that have octets are the spellings of characters.

## Main results

* `decodeFrom_character` — a character is read off its octets.
* `encode_eq_ok_iff` — which texts have octets, and which octets.
* `decode_encode` — a text is read off its octets.
-/

namespace ResourceSymbols.Text.Utf8

open ResourceSymbols.Outcome (map_eq_ok_iff map_eq_error_iff)

/-- The octets of characters. -/
def octetsOf (cs : List Char) : List UInt8 := cs.flatMap String.utf8EncodeChar

theorem toNat_octet {n : Nat} (hn : n < 256) : (UInt8.ofNat n).toNat = n :=
  UInt8.toNat_ofNat_of_lt' hn

/-! ## The first octet of a character -/

section

variable (position : Nat)

theorem lead_one {n : Nat} (hn : n < 0x80) :
    lead position (UInt8.ofNat n) = .whole (Char.ofNat n) := by
  unfold lead
  rw [toNat_octet (by omega), if_pos hn]

/-- One more octet is to follow. -/
theorem lead_two {n : Nat} (hLow : 2 ≤ n) (hHigh : n < 32) :
    ∃ p, lead position (UInt8.ofNat (n + 192)) = .more p ∧ p.bits = n ∧ p.missing = 1 ∧
      p.low = 0x80 ∧ p.high = 0xBF := by
  unfold lead
  rw [toNat_octet (by omega)]
  dsimp only
  rw [if_neg (by omega), if_neg (by omega), if_pos (by omega)]
  exact ⟨_, rfl, Nat.add_sub_cancel n 192, rfl, rfl, rfl⟩

/-- Two more octets are to follow.  The first of them leaves out what is shorter in two
octets, and the surrogates. -/
theorem lead_three {n m : Nat} (hn : n < 16) (hm : m < 64) (hDense : n = 0 → 32 ≤ m)
    (hPlain : n = 13 → m < 32) :
    ∃ p, lead position (UInt8.ofNat (n + 224)) = .more p ∧ p.bits = n ∧ p.missing = 2 ∧
      p.low ≤ m + 128 ∧ m + 128 ≤ p.high := by
  unfold lead
  rw [toNat_octet (by omega)]
  dsimp only
  rw [if_neg (by omega), if_neg (by omega), if_neg (by omega)]
  split
  · exact ⟨_, rfl, by dsimp only; omega, rfl, by dsimp only; omega, by dsimp only; omega⟩
  · split
    · exact ⟨_, rfl, by dsimp only; omega, rfl, by dsimp only; omega, by dsimp only; omega⟩
    · rw [if_pos (by omega)]
      exact ⟨_, rfl, by dsimp only; omega, rfl, by dsimp only; omega, by dsimp only; omega⟩

/-- Three more octets are to follow.  The first of them leaves out what is shorter in three
octets, and what is beyond the last code point. -/
theorem lead_four {n m : Nat} (hn : n ≤ 4) (hm : m < 64) (hDense : n = 0 → 16 ≤ m)
    (hLast : n = 4 → m < 16) :
    ∃ p, lead position (UInt8.ofNat (n + 240)) = .more p ∧ p.bits = n ∧ p.missing = 3 ∧
      p.low ≤ m + 128 ∧ m + 128 ≤ p.high := by
  unfold lead
  rw [toNat_octet (by omega)]
  dsimp only
  rw [if_neg (by omega), if_neg (by omega), if_neg (by omega), if_neg (by omega),
    if_neg (by omega), if_neg (by omega)]
  split
  · exact ⟨_, rfl, by dsimp only; omega, rfl, by dsimp only; omega, by dsimp only; omega⟩
  · split
    · exact ⟨_, rfl, by dsimp only; omega, rfl, by dsimp only; omega, by dsimp only; omega⟩
    · rw [if_pos (by omega)]
      exact ⟨_, rfl, by dsimp only; omega, rfl, by dsimp only; omega, by dsimp only; omega⟩

end

/-! ## The other octets -/

section

variable {p : Pending} {n : Nat}

theorem next_more (hn : n < 64) (hLow : p.low ≤ n + 128) (hHigh : n + 128 ≤ p.high)
    (hMissing : 1 < p.missing) :
    ∃ q, p.next (UInt8.ofNat (n + 128)) = .more q ∧ q.bits = p.bits * 64 + n ∧
      q.missing = p.missing - 1 ∧ q.low = 0x80 ∧ q.high = 0xBF := by
  have hBits : (n + 128) % 64 = n := by omega
  unfold Pending.next
  rw [toNat_octet (by omega), if_pos ⟨hLow, hHigh⟩, hBits, if_neg (by omega)]
  exact ⟨_, rfl, rfl, rfl, rfl, rfl⟩

theorem next_whole (hn : n < 64) (hLow : p.low ≤ n + 128) (hHigh : n + 128 ≤ p.high)
    (hMissing : p.missing ≤ 1) :
    p.next (UInt8.ofNat (n + 128)) = .whole (Char.ofNat (p.bits * 64 + n)) := by
  have hBits : (n + 128) % 64 = n := by omega
  unfold Pending.next
  rw [toNat_octet (by omega), if_pos ⟨hLow, hHigh⟩, hBits, if_pos hMissing]

end

/-! ## Characters -/

section

variable {position : Nat} {octet : UInt8} {p q : Pending} {c : Char} (rest : List UInt8)

theorem decodeFrom_whole (hLead : lead position octet = .whole c) :
    decodeFrom position none (octet :: rest) =
      (decodeFrom (position + 1) none rest).map (c :: ·) := by
  rw [decodeFrom, hLead]

theorem decodeFrom_more (hLead : lead position octet = .more p) :
    decodeFrom position none (octet :: rest) = decodeFrom (position + 1) (some p) rest := by
  rw [decodeFrom, hLead]

theorem decodeFrom_next_whole (hNext : p.next octet = .whole c) :
    decodeFrom position (some p) (octet :: rest) =
      (decodeFrom (position + 1) none rest).map (c :: ·) := by
  rw [decodeFrom, hNext]

theorem decodeFrom_next_more (hNext : p.next octet = .more q) :
    decodeFrom position (some p) (octet :: rest) = decodeFrom (position + 1) (some q) rest := by
  rw [decodeFrom, hNext]

end

section

variable (position : Nat) {n : Nat} (rest : List UInt8)

theorem decodeFrom_two (hLow : 0x80 ≤ n) (hHigh : n < 0x800) :
    decodeFrom position none
        (UInt8.ofNat (n / 64 + 192) :: UInt8.ofNat (n % 64 + 128) :: rest) =
      (decodeFrom (position + 2) none rest).map (Char.ofNat n :: ·) := by
  obtain ⟨p, hLead, hBits, hMissing, hFrom, hTo⟩ :=
    lead_two position (n := n / 64) (by omega) (by omega)
  have hLast := next_whole (p := p) (n := n % 64) (by omega) (by omega) (by omega) (by omega)
  have hAll : p.bits * 64 + n % 64 = n := by omega
  rw [hAll] at hLast
  rw [decodeFrom_more _ hLead, decodeFrom_next_whole rest hLast]

theorem decodeFrom_three (hLow : 0x800 ≤ n) (hHigh : n < 0x10000)
    (hValid : n < 0xD800 ∨ 0xDFFF < n) :
    decodeFrom position none
        (UInt8.ofNat (n / 4096 + 224) :: UInt8.ofNat (n / 64 % 64 + 128) ::
          UInt8.ofNat (n % 64 + 128) :: rest) =
      (decodeFrom (position + 3) none rest).map (Char.ofNat n :: ·) := by
  obtain ⟨p, hLead, hBits, hMissing, hFrom, hTo⟩ := lead_three position (n := n / 4096)
    (m := n / 64 % 64) (by omega) (by omega) (by omega) (by omega)
  obtain ⟨q, hSecond, hBits', hMissing', hFrom', hTo'⟩ :=
    next_more (p := p) (n := n / 64 % 64) (by omega) hFrom hTo (by omega)
  have hLast := next_whole (p := q) (n := n % 64) (by omega) (by omega) (by omega) (by omega)
  have hAll : q.bits * 64 + n % 64 = n := by omega
  rw [hAll] at hLast
  rw [decodeFrom_more _ hLead, decodeFrom_next_more _ hSecond, decodeFrom_next_whole rest hLast]

theorem decodeFrom_four (hLow : 0x10000 ≤ n) (hHigh : n < 0x110000) :
    decodeFrom position none
        (UInt8.ofNat (n / 262144 + 240) :: UInt8.ofNat (n / 4096 % 64 + 128) ::
          UInt8.ofNat (n / 64 % 64 + 128) :: UInt8.ofNat (n % 64 + 128) :: rest) =
      (decodeFrom (position + 4) none rest).map (Char.ofNat n :: ·) := by
  obtain ⟨p, hLead, hBits, hMissing, hFrom, hTo⟩ := lead_four position (n := n / 262144)
    (m := n / 4096 % 64) (by omega) (by omega) (by omega) (by omega)
  obtain ⟨q, hSecond, hBits', hMissing', hFrom', hTo'⟩ :=
    next_more (p := p) (n := n / 4096 % 64) (by omega) hFrom hTo (by omega)
  obtain ⟨r, hThird, hBits'', hMissing'', hFrom'', hTo''⟩ :=
    next_more (p := q) (n := n / 64 % 64) (by omega) (by omega) (by omega) (by omega)
  have hLast := next_whole (p := r) (n := n % 64) (by omega) (by omega) (by omega) (by omega)
  have hAll : r.bits * 64 + n % 64 = n := by omega
  rw [hAll] at hLast
  rw [decodeFrom_more _ hLead, decodeFrom_next_more _ hSecond, decodeFrom_next_more _ hThird,
    decodeFrom_next_whole rest hLast]

end

/-- A character is read off its octets. -/
theorem decodeFrom_character (position : Nat) (c : Char) (rest : List UInt8) :
    decodeFrom position none (String.utf8EncodeChar c ++ rest) =
      (decodeFrom (position + (String.utf8EncodeChar c).length) none rest).map (c :: ·) := by
  have hChar : Char.ofNat c.val.toNat = c := Char.ofNat_toNat c
  have hValid : c.val.toNat < 0xD800 ∨ 0xDFFF < c.val.toNat ∧ c.val.toNat < 0x110000 := c.valid
  generalize hn : c.val.toNat = n at hChar hValid
  subst hChar
  unfold String.utf8EncodeChar
  rw [hn]
  dsimp only
  split
  · exact decodeFrom_whole rest (lead_one position (by omega))
  · split
    · have hFirst : n / 64 % 32 = n / 64 := Nat.mod_eq_of_lt (by omega)
      rw [hFirst]
      exact decodeFrom_two position rest (by omega) (by omega)
    · split
      · have hFirst : n / 4096 % 16 = n / 4096 := Nat.mod_eq_of_lt (by omega)
        rw [hFirst]
        exact decodeFrom_three position rest (by omega) (by omega) (by omega)
      · have hFirst : n / 262144 % 8 = n / 262144 := Nat.mod_eq_of_lt (by omega)
        rw [hFirst]
        exact decodeFrom_four position rest (by omega) (by omega)

/-- Characters are read off their octets. -/
theorem decodeFrom_octetsOf (position : Nat) (cs : List Char) :
    decodeFrom position none (octetsOf cs) = .ok cs := by
  induction cs generalizing position with
  | nil => rfl
  | cons c cs ih =>
      rw [octetsOf, List.flatMap_cons, decodeFrom_character]
      rw [octetsOf] at ih
      rw [ih]
      rfl

/-! ## Texts -/

section

variable (octet? : Nat → Option UInt8) (position : Nat)

/-- Characters have octets wherever they stand. -/
theorem encodeFrom_characters (cs : List Char) :
    encodeFrom octet? position (cs.map .char) = .ok (octetsOf cs) := by
  induction cs generalizing position with
  | nil => rfl
  | cons c cs ih =>
      rw [List.map_cons, encodeFrom, ih]
      rfl

end

/-- Code points that have octets, where halves have none, are characters. -/
theorem exists_characters_of_encodeFrom {position : Nat} {ps : List CodePoint}
    {octets : List UInt8} (hOctets : encodeFrom (fun _ => none) position ps = .ok octets) :
    ∃ cs : List Char, ps = cs.map .char ∧ octets = octetsOf cs := by
  induction ps generalizing position octets with
  | nil =>
      cases hOctets
      exact ⟨[], rfl, rfl⟩
  | cons p ps ih =>
      cases p with
      | half n => cases hOctets
      | char c =>
          rw [encodeFrom, map_eq_ok_iff] at hOctets
          obtain ⟨rest, hRest, rfl⟩ := hOctets
          obtain ⟨cs, rfl, rfl⟩ := ih hRest
          exact ⟨c :: cs, rfl, rfl⟩

/-- A text has octets exactly if it is a spelling of characters: their octets. -/
theorem encode_eq_ok_iff {text : String} {octets : List UInt8} :
    encode text = .ok octets ↔
      ∃ cs, text = String.ofList (spelled cs) ∧ octets = octetsOf cs := by
  constructor
  · intro hOctets
    obtain ⟨cs, hPoints, rfl⟩ := exists_characters_of_encodeFrom hOctets
    refine ⟨cs, ?_, rfl⟩
    rw [← eq_spelled_of_codePoints hPoints, String.ofList_toList]
  · rintro ⟨cs, rfl, rfl⟩
    rw [encode, String.toList_ofList, codePoints_spelled, encodeFrom_characters]

/-- What is told of a text without octets is half of a pair that it holds. -/
theorem half_mem_of_encodeFrom_eq_error {position : Nat} {ps : List CodePoint}
    {u : Unencodable} (hError : encodeFrom (fun _ => none) position ps = .error u) :
    .half u.half ∈ ps := by
  induction ps generalizing position with
  | nil => cases hError
  | cons p ps ih =>
      cases p with
      | half n =>
          cases hError
          exact List.mem_cons_self
      | char c =>
          rw [encodeFrom, map_eq_error_iff] at hError
          exact List.mem_cons_of_mem _ (ih hError)

theorem half_mem_of_encode_eq_error {text : String} {u : Unencodable}
    (hError : encode text = .error u) : .half u.half ∈ codePoints text.toList :=
  half_mem_of_encodeFrom_eq_error hError

/-- A text is read off its octets. -/
theorem decode_encode {text : String} {octets : List UInt8} (hOctets : encode text = .ok octets) :
    decode octets = .ok text.toList := by
  obtain ⟨cs, rfl, rfl⟩ := encode_eq_ok_iff.1 hOctets
  rw [decode, decodeCharacters, decodeFrom_octetsOf, String.toList_ofList]
  rfl

/-- One text after another has the octets of both. -/
theorem encode_append {a b : String} {as bs : List UInt8} (ha : encode a = .ok as)
    (hb : encode b = .ok bs) : encode (a ++ b) = .ok (as ++ bs) := by
  obtain ⟨cs, rfl, rfl⟩ := encode_eq_ok_iff.1 ha
  obtain ⟨ds, rfl, rfl⟩ := encode_eq_ok_iff.1 hb
  refine encode_eq_ok_iff.2 ⟨cs ++ ds, ?_, ?_⟩
  · simp only [spelled, List.flatMap_append, String.ofList_append]
  · simp only [octetsOf, List.flatMap_append]

/-- A text without the mark has octets. -/
theorem encode_of_not_mem {text : String} (hPlain : mark ∉ text.toList) :
    encode text = .ok (octetsOf text.toList) := by
  rw [encode, codePoints_of_not_mem hPlain, encodeFrom_characters]

/-- Whether the text has octets. -/
def Encodable (text : String) : Prop := ∃ octets, encode text = .ok octets

theorem encodable_join {pieces : List String} (hPieces : ∀ piece ∈ pieces, Encodable piece) :
    Encodable (String.join pieces) := by
  induction pieces with
  | nil => exact ⟨[], rfl⟩
  | cons piece pieces ih =>
      rw [List.forall_mem_cons] at hPieces
      obtain ⟨octets, hFirst⟩ := hPieces.1
      obtain ⟨rest, hRest⟩ := ih hPieces.2
      rw [String.join_cons]
      exact ⟨octets ++ rest, encode_append hFirst hRest⟩

/-- A text has octets exactly if it holds no half of a pair. -/
theorem encodable_iff {text : String} : Encodable text ↔ Whole text.toList := by
  constructor
  · rintro ⟨octets, hOctets⟩ n hHalf
    obtain ⟨cs, rfl, -⟩ := encode_eq_ok_iff.1 hOctets
    rw [String.toList_ofList, codePoints_spelled] at hHalf
    obtain ⟨c, -, hNever⟩ := List.mem_map.1 hHalf
    cases hNever
  · intro hWhole
    cases hOctets : encode text with
    | ok octets => exact ⟨octets, hOctets⟩
    | error u => exact absurd (half_mem_of_encode_eq_error hOctets) (hWhole u.half)

end ResourceSymbols.Text.Utf8
