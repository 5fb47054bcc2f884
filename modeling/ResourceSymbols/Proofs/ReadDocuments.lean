import ResourceSymbols.Proofs.DocumentKeys
import ResourceSymbols.Proofs.EqualValues
import ResourceSymbols.Proofs.ReadReals

/-!
# Documents that are read as they were written

Each part of a document is read off the front, and what comes after it decides how the
reader goes on: a comma, a closing bracket or a new line.  So a value is read as it was
written whatever comes after it, and a whole document too.  The measure of the reader is
never used up, since every step into a value takes a character of it.

## Main results

* `items_next`, `members_member` — one step through a list and through an object.
* `reads_indentedAt?` — a value is read as it was written.
* `returns_of_fits` — a document that can be held is written, and read as it was written.
-/

namespace ResourceSymbols.Json

namespace Reader

variable {rest : List Char}

/-! ## How a value starts -/

/-- What is read as a number is read as a value. -/
theorem value_of_number {limits : Option Limits} {cs : List Char} {r : Value × List Char}
    (hNumber : number limits cs = .ok r) (depth fuel : Nat) :
    value limits depth (fuel + 1) cs = .ok r := by
  unfold value
  split
  case h_10 => exact hNumber
  all_goals cases hNumber

/-- A value starts with no gap and no closing bracket. -/
theorem exists_head_of_value {limits : Option Limits} {depth fuel : Nat} {cs : List Char}
    {r : Value × List Char} (hValue : value limits depth fuel cs = .ok r) :
    ∃ c tail, cs = c :: tail ∧ isGap c = false ∧ c ≠ ']' ∧ c ≠ '\uFEFF' := by
  cases fuel with
  | zero => cases hValue
  | succ fuel =>
      cases cs with
      | nil => cases hValue
      | cons c tail =>
          have hOther : c ∉ [' ', '\t', '\n', '\r', ']', '\uFEFF'] := by
            intro hMem
            simp only [List.mem_cons, List.not_mem_nil, or_false] at hMem
            rcases hMem with rfl | rfl | rfl | rfl | rfl | rfl <;> cases hValue
          simp only [List.mem_cons, List.not_mem_nil, or_false, not_or] at hOther
          refine ⟨c, tail, rfl, ?_, hOther.2.2.2.2⟩
          simp [isGap, hOther]

theorem skipGap_of_head {c : Char} (hHead : isGap c = false) (tail : List Char) :
    skipGap (c :: tail) = c :: tail := by
  rw [skipGap, List.dropWhile_cons_of_neg (by simp [hHead])]

theorem skipGap_newLine (depth : Nat) (cs : List Char) :
    skipGap ((Value.newLine depth).toList ++ cs) = skipGap cs := by
  refine List.dropWhile_append_of_pos fun c hMem => ?_
  simp only [Value.newLine, String.toList_append, List.mem_append, String.toList_ofList,
    List.mem_replicate] at hMem
  rcases hMem with hMem | ⟨-, rfl⟩
  · obtain rfl := List.mem_singleton.1 hMem
    rfl
  · rfl

/-! ## One step through lists and objects -/

variable {limits : Option Limits} {depth fuel : Nat} {cs more : List Char} {v : Value}
  {vs : List Value} {ms : Members}

theorem skipGap_of_value {r : Value × List Char} (hValue : value limits depth fuel cs = .ok r) :
    skipGap cs = cs := by
  obtain ⟨c, tail, rfl, hHead, -⟩ := exists_head_of_value hValue
  exact skipGap_of_head hHead tail

theorem skipGap_close (d : Nat) {c : Char} (hHead : isGap c = false) (rest : List Char) :
    skipGap ((Value.newLine d).toList ++ c :: rest) = c :: rest := by
  rw [skipGap_newLine, skipGap_of_head hHead]

theorem exists_value_of_items {r : List Value × List Char}
    (hItems : items limits depth fuel cs = .ok r) :
    ∃ inner s, value limits depth inner cs = .ok s := by
  cases fuel with
  | zero => cases hItems
  | succ fuel =>
      unfold items at hItems
      obtain ⟨s, hValue, -⟩ := Outcome.bind_eq_ok_iff.1 hItems
      exact ⟨fuel, s, hValue⟩

theorem items_last {d : Nat}
    (hValue : value limits depth fuel cs = .ok (v, (Value.newLine d).toList ++ ']' :: rest)) :
    items limits depth (fuel + 1) cs = .ok ([v], rest) := by
  unfold items
  refine Outcome.bind_eq_ok_iff.2 ⟨_, hValue, ?_⟩
  dsimp only
  rw [skipGap_close d rfl]
  rfl

theorem items_next {d : Nat}
    (hValue : value limits depth fuel cs = .ok (v, ',' :: ((Value.newLine d).toList ++ more)))
    (hItems : items limits depth fuel more = .ok (vs, rest)) :
    items limits depth (fuel + 1) cs = .ok (v :: vs, rest) := by
  obtain ⟨_, _, hNext⟩ := exists_value_of_items hItems
  have hMore : skipGap ((Value.newLine d).toList ++ more) = more := by
    rw [skipGap_newLine, skipGap_of_value hNext]
  unfold items
  rw [hValue]
  show (items limits depth fuel (skipGap ((Value.newLine d).toList ++ more)) >>= _) = _
  rw [hMore, hItems]
  rfl

theorem value_list (d : Nat) (hOpen : isFull limits depth = false)
    (hItems : items limits (depth + 1) fuel cs = .ok (vs, rest)) :
    value limits depth (fuel + 1) ('[' :: ((Value.newLine d).toList ++ cs)) =
      .ok (.list vs, rest) := by
  obtain ⟨_, _, hNext⟩ := exists_value_of_items hItems
  obtain ⟨c, tail, rfl, hHead, hOther, -⟩ := exists_head_of_value hNext
  unfold value
  simp only [hOpen, Bool.false_eq_true, if_false, skipGap_newLine, skipGap_of_head hHead]
  split
  · rename_i hSame
    exact absurd (List.cons.inj hSame).1 hOther
  · rw [hItems]
    rfl

theorem exists_head_of_members {before : Members} {r : Members × List Char}
    (hMembers : members limits depth fuel before cs = .ok r) : ∃ tail, cs = '"' :: tail := by
  cases fuel with
  | zero => cases hMembers
  | succ fuel =>
      unfold members at hMembers
      split at hMembers
      · exact ⟨_, rfl⟩
      · cases hMembers

theorem value_object (d : Nat) (hOpen : isFull limits depth = false)
    (hMembers : members limits (depth + 1) fuel [] cs = .ok (ms, rest)) :
    value limits depth (fuel + 1) ('\x7b' :: ((Value.newLine d).toList ++ cs)) =
      .ok (.object ms, rest) := by
  obtain ⟨tail, rfl⟩ := exists_head_of_members hMembers
  unfold value
  simp only [hOpen, Bool.false_eq_true, if_false, skipGap_newLine, skipGap_of_head (c := '"') rfl]
  show (members limits (depth + 1) fuel [] ('"' :: tail)).map _ = _
  rw [hMembers]
  rfl

/-- A member is read up to what comes after its value. -/
theorem members_member {before : Members} {name : String}
    (hValue : value limits depth fuel cs = .ok (v, rest)) :
    members limits depth (fuel + 1) before
        ((writtenText name).toList ++ (':' :: ' ' :: cs)) =
      match skipGap rest with
      | '\x7d' :: rest => .ok (Members.put name v before, rest)
      | ',' :: rest => members limits depth fuel (Members.put name v before) (skipGap rest)
      | rest => .error (.defect .expectedComma rest) := by
  have hText : (writtenText name).toList ++ (':' :: ' ' :: cs) =
      '"' :: (name.toList.flatMap (writtenChar fun _ => true) ++ '"' :: ':' :: ' ' :: cs) := by
    simp [writtenText]
  have hBlank : skipGap (' ' :: cs) = cs := skipGap_of_value hValue
  rw [hText, members]
  simp only [textTail_written]
  show (value limits depth fuel (skipGap (' ' :: cs)) >>= _) = _
  have hRead : value limits depth fuel cs = pure (v, rest) := hValue
  rw [hBlank, hRead, pure_bind, String.ofList_toList]
  rfl

theorem members_last {before : Members} {name : String} {d : Nat}
    (hValue : value limits depth fuel cs = .ok (v, (Value.newLine d).toList ++ '\x7d' :: rest)) :
    members limits depth (fuel + 1) before
        ((writtenText name).toList ++ (':' :: ' ' :: cs)) =
      .ok (Members.put name v before, rest) := by
  rw [members_member hValue, skipGap_close d rfl]
  rfl

theorem members_next {before : Members} {name : String} {d : Nat}
    (hValue : value limits depth fuel cs = .ok (v, ',' :: ((Value.newLine d).toList ++ more)))
    (hMembers : members limits depth fuel (Members.put name v before) more = .ok (ms, rest)) :
    members limits depth (fuel + 1) before
        ((writtenText name).toList ++ (':' :: ' ' :: cs)) =
      .ok (ms, rest) := by
  obtain ⟨tail, rfl⟩ := exists_head_of_members hMembers
  rw [members_member hValue, skipGap_of_head rfl]
  show members limits depth fuel _ (skipGap ((Value.newLine d).toList ++ '"' :: tail)) = _
  rw [skipGap_newLine, skipGap_of_head rfl, hMembers]

end Reader

/-! ## Values that can be held -/

namespace Value

/-- Whether the value is no number, an integer of few enough digits, or a finite real. -/
def isHeld : Value → Bool
  | int n => (Number.decimal? n).isSome
  | real x => x.isFinite
  | _ => true

/-- Values that documents can hold where some brackets are open. -/
structure Fits (depth : Nat) (v : Value) : Prop where
  keyed : v.Keyed
  numbers : ∀ w, Within w v → w.isHeld = true
  shallow : depth + v.depth ≤ documentLimits.depth

variable {depth : Nat} {v : Value}

theorem Fits.within {w : Value} (h : w.Fits depth) (hWithin : Within v w)
    (hDeep : v.depth < w.depth) : v.Fits (depth + 1) where
  keyed := h.keyed.within hWithin
  numbers u hInner := h.numbers u (hInner.trans hWithin)
  shallow := by
    have hShallow := h.shallow
    omega

theorem Fits.items {vs : List Value} (h : (list vs).Fits depth) : ∀ v ∈ vs, v.Fits (depth + 1) :=
  fun v hMem => h.within (.item hMem (.self v)) (depth_lt_list hMem)

theorem Fits.members {ms : Members} (h : (object ms).Fits depth) :
    ∀ m ∈ ms, m.2.Fits (depth + 1) :=
  fun m hMem => h.within (.member hMem (.self m.2)) (depth_lt_object hMem)

theorem Fits.isFull {w : Value} (h : w.Fits depth) (hDeep : 0 < w.depth) :
    Reader.isFull (some documentLimits) depth = false := by
  have hShallow := h.shallow
  simp only [Reader.isFull, Option.any_some, decide_eq_false_iff_not]
  omega

/-- An object that gives no name twice can be held where its members can. -/
theorem fits_object {ms : Members} (hNames : (ms.map Prod.fst).Nodup)
    (hMembers : ∀ m ∈ ms, m.2.Fits (depth + 1)) (hOpen : depth < documentLimits.depth) :
    (object ms).Fits depth where
  keyed := keyed_object_iff.2 ⟨hNames, fun m hMem => (hMembers m hMem).keyed⟩
  numbers w hInner := by
    cases hInner with
    | self => rfl
    | member hMem hWithin => exact (hMembers _ hMem).numbers w hWithin
  shallow := by
    have hDeep : depthMembers ms ≤ documentLimits.depth - (depth + 1) := by
      refine depthMembers_le_iff.2 fun m hMem => ?_
      have hShallow := (hMembers m hMem).shallow
      omega
    rw [Value.depth]
    omega

/-- A plain value can be held wherever a value can. -/
theorem fits_plain {k : Key} (hKey : v.key = .ok k) (hHeld : v.isHeld = true)
    (hDepth : depth ≤ documentLimits.depth) : v.Fits depth := by
  have hWithin : ∀ w, Within w v → w = v := by
    intro w hWithin
    cases hWithin with
    | self => rfl
    | item => cases hKey
    | member => cases hKey
  refine ⟨fun members hObject => ?_, fun w hInner => ?_, ?_⟩
  · rw [← hWithin _ hObject] at hKey
    cases hKey
  · rwa [hWithin w hInner]
  · rwa [depth_of_key hKey]

/-! ## What a text is read as -/

/-- The text is read as the value where so many brackets are open. -/
def Reads (depth : Nat) (t : String) (v : Value) : Prop :=
  ∀ (fuel : Nat) (rest : List Char), t.toList.length ≤ fuel → Reader.Stops rest →
    Reader.value (some documentLimits) depth fuel (t.toList ++ rest) = .ok (v, rest)

/-- The text is read as the items of a list. -/
def ReadsItems (depth : Nat) (t : String) (vs : List Value) : Prop :=
  ∀ (fuel d : Nat) (rest : List Char), t.toList.length < fuel →
    Reader.items (some documentLimits) depth fuel
      (t.toList ++ ((newLine d).toList ++ ']' :: rest)) = .ok (vs, rest)

/-- The text is read as members of an object, which stand after those before. -/
def ReadsMembers (depth : Nat) (t : String) (ms : Members) : Prop :=
  ∀ (fuel d : Nat) (before : Members) (rest : List Char), t.toList.length < fuel →
    ((before ++ ms).map Prod.fst).Nodup →
    Reader.members (some documentLimits) depth fuel before
      (t.toList ++ ((newLine d).toList ++ '\x7d' :: rest)) = .ok (before ++ ms, rest)

/-- The parts on lines of their own. -/
def joined (depth : Nat) (parts : List String) : String :=
  ("," ++ newLine depth).intercalate parts

theorem toList_joined (depth : Nat) (t next : String) (ts : List String) :
    (joined depth (t :: next :: ts)).toList =
      t.toList ++ (',' :: ((newLine depth).toList ++ (joined depth (next :: ts)).toList)) := by
  simp [joined, String.intercalate_cons_cons]

theorem toList_bracketed {opening closing t : String} {ts : List String} :
    (bracketed depth opening closing (t :: ts)).toList =
      opening.toList ++ ((newLine (depth + 1)).toList ++
        ((joined (depth + 1) (t :: ts)).toList ++ ((newLine depth).toList ++ closing.toList))) := by
  simp [bracketed, joined]

theorem toList_writtenMember (name t : String) (rest : List Char) :
    (writtenMember name t).toList ++ rest =
      (writtenText name).toList ++ (':' :: ' ' :: (t.toList ++ rest)) := by
  simp [writtenMember]

theorem length_lt_writtenMember (name t : String) :
    t.toList.length < (writtenMember name t).toList.length := by
  simp only [writtenMember, String.toList_append, List.length_append]
  have hColon : (": " : String).toList.length = 2 := rfl
  omega

theorem stops_newLine (d : Nat) (rest : List Char) :
    Reader.Stops ((newLine d).toList ++ rest) := by
  intro c hHead
  simp [newLine] at hHead
  exact .inr hHead.symm

theorem stops_comma (rest : List Char) : Reader.Stops (',' :: rest) := by
  rintro c ⟨⟩
  exact .inl rfl

/-! ## Plain values -/

theorem reads_of_number {t : String}
    (hNumber : ∀ rest, Reader.Stops rest →
      Reader.number (some documentLimits) (t.toList ++ rest) = .ok (v, rest)) :
    Reads depth t v := by
  intro fuel rest hFuel hStops
  have hRead := hNumber rest hStops
  have hAlone := hNumber [] nofun
  cases fuel with
  | zero =>
      rw [List.length_eq_zero_iff.1 (Nat.le_zero.1 hFuel)] at hAlone
      cases hAlone
  | succ fuel => exact Reader.value_of_number hRead depth fuel

theorem reads_text (s : String) : Reads depth (writtenText s) (.text s) := by
  intro fuel rest hFuel _
  have hText : (writtenText s).toList ++ rest =
      '"' :: (s.toList.flatMap (writtenChar fun _ => true) ++ '"' :: rest) := by
    simp [writtenText]
  cases fuel with
  | zero => simp [writtenText] at hFuel
  | succ fuel =>
      rw [hText, Reader.value, Reader.textTail_written]
      show Except.ok (Value.text (String.ofList s.toList), rest) = _
      rw [String.ofList_toList]

/-- A word is read as it stands. -/
theorem reads_word {t : String} (hNotEmpty : t.toList ≠ [])
    (hWord : ∀ fuel rest, Reader.value (some documentLimits) depth (fuel + 1) (t.toList ++ rest) =
      .ok (v, rest)) : Reads depth t v := by
  intro fuel rest hFuel _
  cases fuel with
  | zero => exact absurd (List.length_eq_zero_iff.1 (Nat.le_zero.1 hFuel)) hNotEmpty
  | succ fuel => exact hWord fuel rest

/-! ## Lists and objects, part by part -/

theorem readsItems_singleton {t : String} (hHead : Reads depth t v) :
    ReadsItems depth (joined depth [t]) [v] := by
  intro fuel d rest hFuel
  rw [joined, String.intercalate_singleton] at *
  cases fuel with
  | zero => cases hFuel
  | succ fuel =>
      exact Reader.items_last (hHead _ _ (Nat.lt_succ_iff.1 hFuel) (stops_newLine d _))

theorem readsItems_cons {t next : String} {ts : List String} {vs : List Value}
    (hHead : Reads depth t v) (hTail : ReadsItems depth (joined depth (next :: ts)) vs) :
    ReadsItems depth (joined depth (t :: next :: ts)) (v :: vs) := by
  intro fuel d rest hFuel
  rw [toList_joined] at hFuel ⊢
  simp only [List.length_append, List.length_cons] at hFuel
  cases fuel with
  | zero => cases hFuel
  | succ fuel =>
      rw [List.append_assoc, List.cons_append, List.append_assoc]
      have hMore := hTail fuel d rest (by omega)
      exact Reader.items_next (hHead fuel _ (by omega) (stops_comma _)) hMore

theorem readsMembers_singleton {name t : String} (hHead : Reads depth t v) :
    ReadsMembers depth (joined depth [writtenMember name t]) [(name, v)] := by
  intro fuel d before rest hFuel hNames
  have hLess := length_lt_writtenMember name t
  rw [joined, String.intercalate_singleton] at *
  cases fuel with
  | zero => cases hFuel
  | succ fuel =>
      rw [toList_writtenMember]
      have hValue := hHead fuel _ (by omega) (stops_newLine d ('\x7d' :: rest))
      rw [Reader.members_last hValue, Members.put_eq_append hNames]

theorem readsMembers_cons {name t next : String} {ts : List String} {ms : Members}
    (hHead : Reads depth t v) (hTail : ReadsMembers depth (joined depth (next :: ts)) ms) :
    ReadsMembers depth (joined depth (writtenMember name t :: next :: ts)) ((name, v) :: ms) := by
  intro fuel d before rest hFuel hNames
  have hLess := length_lt_writtenMember name t
  rw [toList_joined] at hFuel ⊢
  simp only [List.length_append, List.length_cons] at hFuel
  cases fuel with
  | zero => cases hFuel
  | succ fuel =>
      rw [List.append_assoc, List.cons_append, List.append_assoc, toList_writtenMember]
      have hAll : before ++ (name, v) :: ms = Members.put name v before ++ ms := by
        rw [Members.put_eq_append hNames, ← List.append_cons]
      rw [hAll] at hNames ⊢
      have hMore := hTail fuel d _ rest (by omega) hNames
      exact Reader.members_next (hHead fuel _ (by omega) (stops_comma _)) hMore

theorem reads_list {vs : List Value} {t : String} {ts : List String}
    (hFits : (list vs).Fits depth)
    (hItems : ReadsItems (depth + 1) (joined (depth + 1) (t :: ts)) vs) :
    Reads depth (bracketed depth "[" "]" (t :: ts)) (list vs) := by
  intro fuel rest hFuel _
  rw [toList_bracketed] at hFuel ⊢
  simp only [List.length_append] at hFuel
  have hOpening : ("[" : String).toList.length = 1 := rfl
  have hClosing : ("]" : String).toList.length = 1 := rfl
  cases fuel with
  | zero => omega
  | succ fuel =>
      have hOpen := hFits.isFull (Nat.succ_pos _)
      have hRead := hItems fuel depth rest (by omega)
      have hValue := Reader.value_list (depth + 1) hOpen hRead
      simpa using hValue

theorem reads_object {ms : Members} {t : String} {ts : List String}
    (hFits : (object ms).Fits depth)
    (hMembers : ReadsMembers (depth + 1) (joined (depth + 1) (t :: ts)) ms) :
    Reads depth (bracketed depth "\x7b" "\x7d" (t :: ts)) (object ms) := by
  intro fuel rest hFuel _
  rw [toList_bracketed] at hFuel ⊢
  simp only [List.length_append] at hFuel
  have hOpening : ("\x7b" : String).toList.length = 1 := rfl
  have hClosing : ("\x7d" : String).toList.length = 1 := rfl
  cases fuel with
  | zero => omega
  | succ fuel =>
      have hOpen := hFits.isFull (Nat.succ_pos _)
      have hRead := hMembers fuel depth [] rest (by omega) (hFits.keyed ms (.self _))
      have hValue := Reader.value_object (depth + 1) hOpen hRead
      simpa using hValue

theorem reads_empty_list (hFits : (list []).Fits depth) : Reads depth "[]" (list []) := by
  refine reads_word (by decide) fun fuel rest => ?_
  have hOpen := hFits.isFull (Nat.succ_pos _)
  show (if Reader.isFull (some documentLimits) depth = true then _ else _) = _
  rw [hOpen]
  rfl

theorem reads_empty_object (hFits : (object []).Fits depth) :
    Reads depth "\x7b\x7d" (object []) := by
  refine reads_word (by decide) fun fuel rest => ?_
  have hOpen := hFits.isFull (Nat.succ_pos _)
  show (if Reader.isFull (some documentLimits) depth = true then _ else _) = _
  rw [hOpen]
  rfl

/-! ## Values and documents -/

mutual

/-- A value is read as it was written. -/
theorem reads_indentedAt? : ∀ (v : Value) (depth : Nat) (t : String),
    v.indentedAt? depth = some t → v.Fits depth → Reads depth t v
  | .null => by
      rintro depth t ⟨⟩ -
      exact reads_word (by decide) fun _ _ => rfl
  | .bool b => by
      rintro depth t ⟨⟩ -
      cases b with
      | true => exact reads_word (by decide) fun _ _ => rfl
      | false => exact reads_word (by decide) fun _ _ => rfl
  | .int n => by
      intro depth t hText _
      rw [indentedAt?] at hText
      exact reads_of_number fun _ hStops => Reader.number_decimal? hText hStops
  | .real x => by
      intro depth t hText hFits
      rw [indentedAt?] at hText
      obtain rfl := Option.some.inj hText
      have hFinite : x.isFinite = true := hFits.numbers (.real x) (.self _)
      exact reads_of_number fun _ hStops => Reader.number_text hFinite _ hStops
  | .text s => by
      intro depth t hText _
      rw [indentedAt?] at hText
      obtain rfl := Option.some.inj hText
      exact reads_text s
  | .list vs => by
      intro depth t hText hFits
      rw [indentedAt?] at hText
      obtain ⟨parts, hParts, rfl⟩ := Option.map_eq_some_iff.1 hText
      have hItems := readsItems_indentedItems? vs _ _ hParts hFits.items
      cases vs with
      | nil =>
          cases hParts
          exact reads_empty_list hFits
      | cons v vs =>
          obtain ⟨t, ts, -, -, rfl⟩ := indentedItems?_cons hParts
          exact reads_list hFits (hItems (List.cons_ne_nil v vs))
  | .object ms => by
      intro depth t hText hFits
      rw [indentedAt?] at hText
      obtain ⟨parts, hParts, rfl⟩ := Option.map_eq_some_iff.1 hText
      have hMembers := readsMembers_indentedMembers? ms _ _ hParts hFits.members
      cases ms with
      | nil =>
          cases hParts
          exact reads_empty_object hFits
      | cons m ms =>
          obtain ⟨t, ts, -, -, rfl⟩ := indentedMembers?_cons hParts
          exact reads_object hFits (hMembers (List.cons_ne_nil m ms))

theorem readsItems_indentedItems? : ∀ (vs : List Value) (depth : Nat) (parts : List String),
    indentedItems? depth vs = some parts → (∀ v ∈ vs, v.Fits depth) → vs ≠ [] →
      ReadsItems depth (joined depth parts) vs
  | [] => fun _ _ _ _ hNotEmpty => absurd rfl hNotEmpty
  | [v] => by
      intro depth parts hParts hFits _
      obtain ⟨t, ts, hHead, hTail, rfl⟩ := indentedItems?_cons hParts
      cases hTail
      exact readsItems_singleton (reads_indentedAt? v depth t hHead (hFits v List.mem_cons_self))
  | v :: w :: vs => by
      intro depth parts hParts hFits _
      obtain ⟨t, ts, hHead, hTail, rfl⟩ := indentedItems?_cons hParts
      obtain ⟨hFirst, hRest⟩ := List.forall_mem_cons.1 hFits
      have hMore := readsItems_indentedItems? (w :: vs) depth ts hTail hRest
        (List.cons_ne_nil w vs)
      obtain ⟨next, ts, -, -, rfl⟩ := indentedItems?_cons hTail
      exact readsItems_cons (reads_indentedAt? v depth t hHead hFirst) hMore

theorem readsMembers_indentedMembers? : ∀ (ms : List (String × Value)) (depth : Nat)
    (parts : List String), indentedMembers? depth ms = some parts →
      (∀ m ∈ ms, m.2.Fits depth) → ms ≠ [] → ReadsMembers depth (joined depth parts) ms
  | [] => fun _ _ _ _ hNotEmpty => absurd rfl hNotEmpty
  | [(name, v)] => by
      intro depth parts hParts hFits _
      obtain ⟨t, ts, hHead, hTail, rfl⟩ := indentedMembers?_cons hParts
      cases hTail
      have hFirst := hFits _ List.mem_cons_self
      exact readsMembers_singleton (reads_indentedAt? v depth t hHead hFirst)
  | (name, v) :: m :: ms => by
      intro depth parts hParts hFits _
      obtain ⟨t, ts, hHead, hTail, rfl⟩ := indentedMembers?_cons hParts
      obtain ⟨hFirst, hRest⟩ := List.forall_mem_cons.1 hFits
      have hMore := readsMembers_indentedMembers? (m :: ms) depth ts hTail hRest
        (List.cons_ne_nil m ms)
      obtain ⟨next, ts, -, -, rfl⟩ := indentedMembers?_cons hTail
      exact readsMembers_cons (reads_indentedAt? v depth t hHead hFirst) hMore

end

mutual

/-- A value that can be held is written. -/
theorem exists_indentedAt? : ∀ (v : Value) (depth : Nat),
    (∀ w, Within w v → w.isHeld = true) → ∃ t, v.indentedAt? depth = some t
  | .null | .bool _ | .real _ | .text _ => fun _ _ => ⟨_, rfl⟩
  | .int n => by
      intro depth hHeld
      have hShort : (Number.decimal? n).isSome = true := hHeld (.int n) (.self _)
      rw [indentedAt?]
      exact Option.isSome_iff_exists.1 hShort
  | .list vs => by
      intro depth hHeld
      obtain ⟨parts, hParts⟩ := exists_indentedItems? vs (depth + 1)
        fun v hMem w hWithin => hHeld w (.item hMem hWithin)
      exact ⟨_, by rw [indentedAt?, hParts, Option.map_some]⟩
  | .object ms => by
      intro depth hHeld
      obtain ⟨parts, hParts⟩ := exists_indentedMembers? ms (depth + 1)
        fun m hMem w hWithin => hHeld w (.member hMem hWithin)
      exact ⟨_, by rw [indentedAt?, hParts, Option.map_some]⟩

theorem exists_indentedItems? : ∀ (vs : List Value) (depth : Nat),
    (∀ v ∈ vs, ∀ w, Within w v → w.isHeld = true) →
      ∃ parts, indentedItems? depth vs = some parts
  | [] => fun _ _ => ⟨[], rfl⟩
  | v :: vs => by
      intro depth hHeld
      obtain ⟨hFirst, hRest⟩ := List.forall_mem_cons.1 hHeld
      obtain ⟨t, hHead⟩ := exists_indentedAt? v depth hFirst
      obtain ⟨ts, hTail⟩ := exists_indentedItems? vs depth hRest
      exact ⟨t :: ts, by simp only [indentedItems?, hHead, hTail]⟩

theorem exists_indentedMembers? : ∀ (ms : List (String × Value)) (depth : Nat),
    (∀ m ∈ ms, ∀ w, Within w m.2 → w.isHeld = true) →
      ∃ parts, indentedMembers? depth ms = some parts
  | [] => fun _ _ => ⟨[], rfl⟩
  | (name, v) :: ms => by
      intro depth hHeld
      obtain ⟨hFirst, hRest⟩ := List.forall_mem_cons.1 hHeld
      obtain ⟨t, hHead⟩ := exists_indentedAt? v depth hFirst
      obtain ⟨ts, hTail⟩ := exists_indentedMembers? ms depth hRest
      exact ⟨writtenMember name t :: ts, by
        simp only [indentedMembers?, hHead, hTail, writtenMember]⟩

end

/-- A document is read as it was written. -/
theorem read_indented? {t : String} (hText : v.indented? = some t) (hFits : v.Fits 0) :
    Value.read t.toList = .ok v := by
  have hReads := reads_indentedAt? v 0 t hText hFits
  have hValue := hReads (2 * t.toList.length + 2) [] (by omega) nofun
  rw [List.append_nil] at hValue
  obtain ⟨c, tail, hList, hHead, -, hMark⟩ := Reader.exists_head_of_value hValue
  have hNoMark : ¬ t.toList.head? = some '\uFEFF' := by
    rw [hList]
    exact fun hSame => hMark (Option.some.inj hSame)
  have hSkip : Reader.skipGap t.toList = t.toList := Reader.skipGap_of_value hValue
  unfold Value.read Reader.document
  rw [if_neg hNoMark, hSkip, hValue]
  rfl

/-- A document that can be held is written, and read as it was written. -/
theorem returns_of_fits (hFits : v.Fits 0) : v.Returns := by
  obtain ⟨t, hText⟩ := exists_indentedAt? v 0 hFits.numbers
  exact ⟨t, hText, read_indented? hText hFits⟩

end Value

end ResourceSymbols.Json
