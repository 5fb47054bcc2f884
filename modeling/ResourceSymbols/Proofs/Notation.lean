import ResourceSymbols.Proofs.Numeral
import ResourceSymbols.Proofs.PrintedDocuments
import ResourceSymbols.Proofs.Rearrangement

/-!
# Notation of identifiers

The numbers in a table document may be given as integers, or as texts in decimal or in
hexadecimal.  Wherever one of them is an integer, either text of it may stand in its place:
the reader looks at nothing but the number, also where it finds a fault and names it.

## Main results

* `exists_toDigits` — the digits that a number is written in.
* `int?_decimal`, `int?_hexadecimal` — both texts of an integer are literals of it.
* `RespeltTable` — a document and another one with some of its numbers as texts.
* `ofDocument_of_respelt` — both give the same table, or the same error.
-/

namespace ResourceSymbols

namespace Number

/-- The integer in hexadecimal: its sign, the mark of the base and the digits. -/
def hexadecimal (n : Int) : String :=
  (if n < 0 then "-" else "") ++ "0x" ++ Text.hex n.natAbs

namespace Literal

/-! ## Integers as literals -/

/-- A number is written in its digits, the first of which is not zero unless the number is. -/
theorem exists_toDigits (base : Nat) (hBase : 1 < base) (n : Nat) :
    ∃ ds : List Nat, Nat.toDigits base n = ds.map Nat.digitChar ∧ ds ≠ [] ∧
      (∀ d ∈ ds, d < base) ∧ ofDigits base ds = n ∧ (ds.head? = some 0 → n = 0) := by
  induction n using Nat.strongRecOn with
  | ind n ih =>
      rw [Nat.toDigits_eq_if hBase]
      by_cases hSmall : n < base
      · rw [if_pos hSmall]
        refine ⟨[n], rfl, List.cons_ne_nil _ _, ?_, ?_, ?_⟩
        · intro d hd
          rw [List.mem_singleton.1 hd]
          exact hSmall
        · simp [ofDigits]
        · intro hHead
          exact Option.some.inj hHead
      · rw [if_neg hSmall]
        have hLess : n / base < n := Nat.div_lt_self (by omega) hBase
        obtain ⟨ds, hText, hSome, hDigits, hValue, hHead⟩ := ih (n / base) hLess
        refine ⟨ds ++ [n % base], ?_, ?_, ?_, ?_, ?_⟩
        · rw [hText, List.map_append]
          rfl
        · exact List.append_ne_nil_of_left_ne_nil hSome _
        · intro d hd
          rcases List.mem_append.1 hd with hd | hd
          · exact hDigits d hd
          · rw [List.mem_singleton.1 hd]
            exact Nat.mod_lt _ (by omega)
        · rw [ofDigits_concat, hValue]
          exact Nat.div_add_mod' n base
        · -- The quotient has the same first digit, and is not zero.
          intro hZero
          rw [List.head?_append_of_ne_nil _ hSome] at hZero
          have hQuotient := hHead hZero
          have := (Nat.div_eq_zero_iff).1 hQuotient
          omega

/-- The marks of the bases other than ten. -/
def baseMarks : List Char := ['x', 'X', 'o', 'O', 'b', 'B']

/-- The second of decimal digits is no mark of a base. -/
theorem map_digitChar_ne_marked {ds : List Nat} (hDigits : ∀ d ∈ ds, d < 10) {mark : Char}
    (hMark : mark ∈ baseMarks) (first : Char) (rest : List Char) :
    ds.map Nat.digitChar ≠ first :: mark :: rest := by
  have hOther : ∀ d < 10, Nat.digitChar d ∉ baseMarks := by decide
  intro hText
  have hMem : mark ∈ ds.map Nat.digitChar := by
    rw [hText]
    exact List.mem_cons_of_mem _ List.mem_cons_self
  obtain ⟨d, hd, rfl⟩ := List.mem_map.1 hMem
  exact hOther d (hDigits d hd) hMark

/-- Decimal digits make a literal, if there are not too many of them. -/
theorem magnitude?_decimal {ds : List Nat} (hSome : ds ≠ []) (hDigits : ∀ d ∈ ds, d < 10)
    (hFew : ds.length ≤ digitLimit) (hHead : ds.head? = some 0 → ofDigits 10 ds = 0) :
    magnitude? (ds.map Nat.digitChar) = some (ofDigits 10 ds) := by
  have hRead : digitValues? 10 true (ds.map Nat.digitChar) = some ds :=
    digitValues?_digits (by decide) hDigits true fun hNil => absurd hNil hSome
  have hPlain : ∀ mark ∈ baseMarks, ∀ rest, ds.map Nat.digitChar ≠ '0' :: mark :: rest :=
    fun mark hMark => map_digitChar_ne_marked hDigits hMark '0'
  unfold magnitude?
  simp only
  split
  -- Only the last case has no mark.
  case h_7 => rw [hRead, Option.bind_some, if_pos ⟨hFew, hHead⟩]
  all_goals
    rename_i hText
    exact absurd hText (hPlain _ (by decide) _)

/-- The same behind a minus sign, of a number that is not positive. -/
theorem int?_minus {s : String} {cs : List Char} (hText : s.toList = '-' :: cs)
    (hChars : ∀ c ∈ cs, IsUnsigned c) :
    int? s = (magnitude? cs).map fun n => -Int.ofNat n := by
  have hMinus : plainDigit '-' = '-' ∧ isMargin '-' = false := by decide +kernel
  have hMap : s.toList.map plainDigit = '-' :: cs := by
    rw [hText, List.map_cons, hMinus.1, List.map_congr_left fun c hc => (hChars c hc).plain,
      List.map_id']
  have hInner : ∀ c ∈ '-' :: cs, isMargin c = false :=
    List.forall_mem_cons.2 ⟨hMinus.2, fun c hc => (hChars c hc).inner⟩
  rw [int?, hMap, trimBoth_eq_self hInner]
  rfl

/-- A sign and the magnitude of an integer make a literal of it. -/
theorem int?_signed {n : Int} {s : String} {cs : List Char}
    (hText : s.toList = (if n < 0 then ['-'] else []) ++ cs)
    (hChars : ∀ c ∈ cs, IsUnsigned c) (hMagnitude : magnitude? cs = some n.natAbs) :
    int? s = some n := by
  by_cases hSign : n < 0
  · rw [if_pos hSign, List.singleton_append] at hText
    rw [int?_minus hText hChars, hMagnitude, Option.map_some, Int.ofNat_eq_natCast]
    congr 1
    omega
  · rw [if_neg hSign, List.nil_append] at hText
    subst hText
    rw [int?_unsigned hChars, hMagnitude, Option.map_some, Int.ofNat_eq_natCast]
    congr 1
    omega

/-- The decimal text of an integer is a literal of it. -/
theorem int?_decimal {n : Int} {text : String} (hText : decimal? n = some text) :
    int? text = some n := by
  obtain ⟨hChars, hFew⟩ := toList_of_decimal? hText
  obtain ⟨ds, hDigits, hSome, hBelow, hValue, hHead⟩ := exists_toDigits 10 (by decide) n.natAbs
  rw [hDigits] at hChars hFew
  rw [List.length_map] at hFew
  have hSign : text.toList = (if n < 0 then ['-'] else []) ++ ds.map Nat.digitChar := by
    simpa using hChars
  refine int?_signed hSign ?_ ?_
  · intro c hc
    obtain ⟨d, hd, rfl⟩ := List.mem_map.1 hc
    have := hBelow d hd
    exact isUnsigned_digitChar (by omega)
  · rw [← hValue] at hHead
    rw [magnitude?_decimal hSome hBelow hFew hHead, hValue]

/-- The hexadecimal text of an integer is a literal of it, however long. -/
theorem int?_hexadecimal (n : Int) : int? (hexadecimal n) = some n := by
  obtain ⟨ds, hDigits, hSome, hBelow, hValue, -⟩ := exists_toDigits 16 (by decide) n.natAbs
  have hText : (hexadecimal n).toList =
      (if n < 0 then ['-'] else []) ++ '0' :: 'x' :: ds.map Nat.digitChar := by
    rw [hexadecimal, Text.hex, hDigits]
    split <;> simp
  refine int?_signed hText ?_ ?_
  · rw [List.forall_mem_cons, List.forall_mem_cons]
    refine ⟨isUnsigned_digitChar (d := 0) (by decide), isUnsigned_mark, ?_⟩
    intro c hc
    obtain ⟨d, hd, rfl⟩ := List.mem_map.1 hc
    exact isUnsigned_digitChar (hBelow d hd)
  · rw [magnitude?_hex hSome hBelow, hValue]

end Literal

end Number

namespace Resource.Document

open Outcome (mapM_of_forall₂)

/-! ## Documents -/

/-- The second value is the first, or it is a text of the integer that the first is.  The
integer has no more digits than can be written in decimal. -/
inductive Respelt : Json.Value → Json.Value → Prop
  | same (v : Json.Value) : Respelt v v
  | decimal {n : Int} {text : String} (hText : Number.decimal? n = some text) :
      Respelt (.int n) (.text text)
  | hexadecimal {n : Int} (hShort : (Number.decimal? n).isSome) :
      Respelt (.int n) (.text (Number.hexadecimal n))

/-- The second value is the first, or both are lists and their items are related. -/
inductive InItems (Item : Json.Value → Json.Value → Prop) : Json.Value → Json.Value → Prop
  | same (v : Json.Value) : InItems Item v v
  | list {vs ws : List Json.Value} (hItems : List.Forall₂ Item vs ws) :
      InItems Item (.list vs) (.list ws)

/-- The second value is the first, or both are objects with the same keys, and the values
under each key are related. -/
inductive InMembers (Member : String → Json.Value → Json.Value → Prop) :
    Json.Value → Json.Value → Prop
  | same (v : Json.Value) : InMembers Member v v
  | object {ms ns : Json.Members}
      (hMembers : List.Forall₂ (fun m n => n.1 = m.1 ∧ Member m.1 m.2 n.2) ms ns) :
      InMembers Member (.object ms) (.object ns)

/-- In an attribute, the number under `id` is respelt. -/
def attributeMember (key : String) : Json.Value → Json.Value → Prop :=
  if key = "id" then Respelt else Eq

/-- In a value of an entry, attributes are respelt. -/
def valueMember (key : String) : Json.Value → Json.Value → Prop :=
  if key = "styleable" then InItems (InMembers attributeMember) else Eq

/-- In an entry, a group or a table, the number under `id` is respelt, and so are the items
under the key `list`. -/
def numberedMember (list : String) (Item : Json.Value → Json.Value → Prop) (key : String) :
    Json.Value → Json.Value → Prop :=
  if key = "id" then Respelt else if key = list then InItems Item else Eq

/-- The second value is the first with some numbers of attributes as texts. -/
abbrev RespeltValue : Json.Value → Json.Value → Prop := InMembers valueMember

/-- The second entry is the first with some numbers as texts. -/
abbrev RespeltEntry : Json.Value → Json.Value → Prop :=
  InMembers (numberedMember "values" RespeltValue)

/-- The second group is the first with some numbers as texts. -/
abbrev RespeltGroup : Json.Value → Json.Value → Prop :=
  InMembers (numberedMember "entries" RespeltEntry)

/-- The second document is the first with some numbers as texts: any of those of the table,
of its groups, of their entries and of the attributes in these. -/
abbrev RespeltTable : Json.Value → Json.Value → Prop :=
  InMembers (numberedMember "types" RespeltGroup)

/-! ## Numbers -/

section

variable {v w : Json.Value}

/-- Nothing is respelt, or the same integer is read from both values. -/
theorem Respelt.eq_or_integer? (h : Respelt v w) :
    w = v ∨ ∃ n, integer? v = some n ∧ integer? w = some n := by
  cases h with
  | same => exact .inl rfl
  | @decimal n text hText => exact .inr ⟨n, rfl, Number.Literal.int?_decimal hText⟩
  | @hexadecimal n => exact .inr ⟨n, rfl, Number.Literal.int?_hexadecimal n⟩

theorem Respelt.readNumber_eq (h : Respelt v w) (site : Site) (low high : Nat) :
    readNumber site low high w = readNumber site low high v := by
  rcases h.eq_or_integer? with rfl | ⟨n, hLeft, hRight⟩
  · rfl
  · rw [readNumber, readNumber, hLeft, hRight]

theorem Respelt.readAttributeId_eq (h : Respelt v w) (slot : Slot) :
    readAttributeId slot w = readAttributeId slot v := by
  rcases h.eq_or_integer? with rfl | ⟨n, hLeft, hRight⟩
  · rfl
  · rw [readAttributeId, readAttributeId, hLeft, hRight]

/-! ## Members -/

section

variable {key : String} {Item : Json.Value → Json.Value → Prop} {ms ns : Json.Members}
  (hMembers : List.Forall₂ (fun m n => n.1 = m.1 ∧ numberedMember key Item m.1 m.2 n.2) ms ns)

include hMembers

/-- What is under any other key stays as it is. -/
theorem get?_of_numbered (other : String) (hId : other ≠ "id") (hKey : other ≠ key) :
    Json.Members.get? ns other = Json.Members.get? ms other := by
  rcases Json.Members.get?_of_forall₂ hMembers other with
    ⟨hLeft, hRight⟩ | ⟨v, w, hLeft, hRight, hMember⟩
  · rw [hLeft, hRight]
  · rw [numberedMember, if_neg hId, if_neg hKey] at hMember
    rw [hLeft, hRight, hMember]

theorem get?_id_of_numbered :
    (Json.Members.get? ms "id" = none ∧ Json.Members.get? ns "id" = none) ∨
      ∃ v w, Json.Members.get? ms "id" = some v ∧ Json.Members.get? ns "id" = some w ∧
        Respelt v w := by
  rcases Json.Members.get?_of_forall₂ hMembers "id" with
    hNone | ⟨v, w, hLeft, hRight, hMember⟩
  · exact .inl hNone
  · rw [numberedMember, if_pos rfl] at hMember
    exact .inr ⟨v, w, hLeft, hRight, hMember⟩

theorem getD_of_numbered (hKey : key ≠ "id") :
    InItems Item ((Json.Members.get? ms key).getD (.list []))
      ((Json.Members.get? ns key).getD (.list [])) := by
  rcases Json.Members.get?_of_forall₂ hMembers key with
    ⟨hLeft, hRight⟩ | ⟨v, w, hLeft, hRight, hMember⟩
  · rw [hLeft, hRight]
    exact .same _
  · rw [numberedMember, if_neg hKey, if_pos rfl] at hMember
    rw [hLeft, hRight]
    exact hMember

end

/-- What is gone through is read alike, if related lists are. -/
theorem InItems.bind_items_eq {α : Type} {Item : Json.Value → Json.Value → Prop}
    {f : List Json.Value → Except Error α} (h : InItems Item v w)
    (hRead : ∀ vs ws, List.Forall₂ Item vs ws → f ws = f vs) :
    (items w >>= f) = (items v >>= f) := by
  cases h with
  | same => rfl
  | list hItems => exact hRead _ _ hItems

/-! ## What is read -/

theorem readAttribute_of_respelt (h : InMembers attributeMember v w) (slot : Slot) :
    readAttribute slot w = readAttribute slot v := by
  cases h with
  | same => rfl
  | @object ms ns hMembers =>
      have hName : Json.Members.get? ns "name" = Json.Members.get? ms "name" := by
        rcases Json.Members.get?_of_forall₂ hMembers "name" with
          ⟨hLeft, hRight⟩ | ⟨v, w, hLeft, hRight, hMember⟩
        · rw [hLeft, hRight]
        · rw [attributeMember, if_neg (by decide)] at hMember
          rw [hLeft, hRight, hMember]
      rcases Json.Members.get?_of_forall₂ hMembers "id" with
        ⟨hLeft, hRight⟩ | ⟨v, w, hLeft, hRight, hMember⟩
      · simp only [readAttribute, hName, hLeft, hRight]
      · rw [attributeMember, if_pos rfl] at hMember
        simp only [readAttribute, hName, hLeft, hRight]
        cases Json.Members.get? ms "name" with
        | none => rfl
        | some raw => simp only [hMember.readAttributeId_eq]

theorem readAttributes_of_respelt {vs ws : List Json.Value}
    (h : List.Forall₂ (InMembers attributeMember) vs ws) (owner : Owner) (index : Nat) :
    readAttributes owner index ws = readAttributes owner index vs := by
  induction h generalizing index with
  | nil => rfl
  | cons hHead _ ih =>
      rw [readAttributes, readAttributes, readAttribute_of_respelt hHead, ih]

/-- Where there is no list of attributes, a value stays as it is. -/
theorem eq_of_get?_styleable {ms ns : Json.Members}
    (hMembers : List.Forall₂ (fun m n => n.1 = m.1 ∧ valueMember m.1 m.2 n.2) ms ns)
    (hNone : Json.Members.get? ms "styleable" = none) : ns = ms := by
  induction hMembers with
  | nil => rfl
  | @cons m n ms ns hMember hMembers ih =>
      obtain ⟨k, v⟩ := m
      obtain ⟨k', w⟩ := n
      obtain ⟨rfl, hValues⟩ := hMember
      have hOther : "styleable" ≠ k' := by
        intro hKey
        have hFound : Json.Members.get? ((k', v) :: ms) "styleable" = some v := if_pos hKey
        rw [hNone] at hFound
        cases hFound
      have hRest : Json.Members.get? ms "styleable" = none := (if_neg hOther).symm.trans hNone
      rw [valueMember, if_neg hOther.symm] at hValues
      obtain rfl : v = w := hValues
      rw [ih hRest]

theorem readValue_of_respelt (h : RespeltValue v w) (owner : Owner) :
    readValue owner w = readValue owner v := by
  cases h with
  | same => rfl
  | @object ms ns hMembers =>
      rcases Json.Members.get?_of_forall₂ hMembers "styleable" with
        ⟨hNone, -⟩ | ⟨v, w, hLeft, hRight, hMember⟩
      · -- Such a value is kept whole, with all its members.
        rw [eq_of_get?_styleable hMembers hNone]
      · rw [valueMember, if_pos rfl] at hMember
        simp only [readValue, hLeft, hRight]
        cases hMember with
        | same => cases v <;> rfl
        | list hItems => simp only [readAttributes_of_respelt hItems]

theorem readValues_of_respelt (h : InItems RespeltValue v w) (owner : Owner) :
    readValues owner w = readValues owner v := by
  cases h with
  | same => rfl
  | @list vs ws hItems =>
      -- Without any items the values of a styleable are refused.
      have hNil : ws = [] ↔ vs = [] := by
        rw [← List.length_eq_zero_iff, ← List.length_eq_zero_iff, hItems.length_eq]
      simp only [readValues, hNil,
        mapM_of_forall₂ hItems fun _ _ hItem => readValue_of_respelt hItem owner]

theorem readEntry_of_respelt (h : RespeltEntry v w) (kind : Kind) :
    readEntry kind w = readEntry kind v := by
  cases h with
  | same => rfl
  | @object ms ns hMembers =>
      have hName := get?_of_numbered hMembers "name" (by decide) (by decide)
      have hValues := readValues_of_respelt (getD_of_numbered hMembers (by decide))
      rcases get?_id_of_numbered hMembers with
        ⟨hLeft, hRight⟩ | ⟨v, w, hLeft, hRight, hId⟩
      · simp only [readEntry, hName, hLeft, hRight]
        cases Json.Members.get? ms "name" <;> rfl
      · simp only [readEntry, hName, hLeft, hRight]
        cases Json.Members.get? ms "name" with
        | none => rfl
        | some raw => simp only [hId.readNumber_eq, hValues]

theorem readGroup_of_respelt (h : RespeltGroup v w) (seen : List Kind) :
    readGroup seen w = readGroup seen v := by
  cases h with
  | same => rfl
  | @object ms ns hMembers =>
      have hTag := get?_of_numbered hMembers "type" (by decide) (by decide)
      have hEntries := getD_of_numbered hMembers (by decide)
      rcases get?_id_of_numbered hMembers with
        ⟨hLeft, hRight⟩ | ⟨v, w, hLeft, hRight, hId⟩
      · simp only [readGroup, hTag, hLeft, hRight]
        cases Json.Members.get? ms "type" <;> rfl
      · simp only [readGroup, hTag, hLeft, hRight]
        cases Json.Members.get? ms "type" with
        | none => rfl
        | some tag =>
            simp only [hId.readNumber_eq]
            refine bind_congr fun k => ?_
            split
            · rfl
            · refine bind_congr fun number => hEntries.bind_items_eq fun vs ws hItems => ?_
              rw [mapM_of_forall₂ hItems fun _ _ hItem => readEntry_of_respelt hItem k]

theorem readGroups_of_respelt {vs ws : List Json.Value} (h : List.Forall₂ RespeltGroup vs ws)
    (seen : List Kind) : readGroups seen ws = readGroups seen vs := by
  induction h generalizing seen with
  | nil => rfl
  | cons hHead _ ih =>
      rw [readGroups, readGroups, readGroup_of_respelt hHead]
      exact bind_congr fun g => by rw [ih]

/-- A document with some of its numbers as texts gives the same table as the document, or
the same error. -/
theorem ofDocument_of_respelt (h : RespeltTable v w) :
    Table.ofDocument w = Table.ofDocument v := by
  cases h with
  | same => rfl
  | @object ms ns hMembers =>
      have hPackage := get?_of_numbered hMembers "package" (by decide) (by decide)
      have hGroups := getD_of_numbered hMembers (by decide)
      rcases get?_id_of_numbered hMembers with
        ⟨hLeft, hRight⟩ | ⟨v, w, hLeft, hRight, hId⟩
      · simp only [Table.ofDocument, hPackage, hLeft, hRight]
        cases Json.Members.get? ms "package" <;> rfl
      · simp only [Table.ofDocument, hPackage, hLeft, hRight]
        cases Json.Members.get? ms "package" with
        | none => rfl
        | some raw =>
            simp only [hId.readNumber_eq]
            refine bind_congr fun package => bind_congr fun number =>
              hGroups.bind_items_eq fun vs ws hItems => ?_
            rw [readGroups_of_respelt hItems]

end

/-- A value with an attribute of that number. -/
def numberedValue (a : Json.Value) : Json.Value :=
  .object [("styleable", .list [.object [("id", a), ("name", .text "app:attr/color")]])]

/-- An entry of that number with such a value. -/
def numberedEntry (e a : Json.Value) : Json.Value :=
  .object [("name", .text "View"), ("id", e), ("values", .list [numberedValue a])]

/-- A group of that number with such an entry. -/
def numberedGroup (g e a : Json.Value) : Json.Value :=
  .object [("type", .text "styleable"), ("id", g), ("entries", .list [numberedEntry e a])]

/-- A document with one number at each place. -/
def numberedDocument (t g e a : Json.Value) : Json.Value :=
  .object [("package", .text "app"), ("id", t), ("types", .list [numberedGroup g e a])]

/-- The numbers of such a document may be respelt one by one. -/
theorem respelt_numberedDocument {t t' g g' e e' a a' : Json.Value} (hTable : Respelt t t')
    (hGroup : Respelt g g') (hEntry : Respelt e e') (hAttribute : Respelt a a') :
    RespeltTable (numberedDocument t g e a) (numberedDocument t' g' e' a') := by
  have hValue : RespeltValue (numberedValue a) (numberedValue a') :=
    .object (.cons ⟨rfl, .list (.cons
      (.object (.cons ⟨rfl, hAttribute⟩ (.cons ⟨rfl, rfl⟩ .nil))) .nil)⟩ .nil)
  have hEntries : RespeltEntry (numberedEntry e a) (numberedEntry e' a') :=
    .object (.cons ⟨rfl, rfl⟩ (.cons ⟨rfl, hEntry⟩
      (.cons ⟨rfl, .list (.cons hValue .nil)⟩ .nil)))
  have hGroups : RespeltGroup (numberedGroup g e a) (numberedGroup g' e' a') :=
    .object (.cons ⟨rfl, rfl⟩ (.cons ⟨rfl, hGroup⟩
      (.cons ⟨rfl, .list (.cons hEntries .nil)⟩ .nil)))
  exact .object (.cons ⟨rfl, rfl⟩ (.cons ⟨rfl, hTable⟩
    (.cons ⟨rfl, .list (.cons hGroups .nil)⟩ .nil)))

/-- One document is read, and another is refused for the number of its attribute. -/
theorem ofDocument_of_respelt_numberedDocument :
    (RespeltTable (numberedDocument (.int 127) (.int 2) (.int 0) (.int 2130771968))
        (numberedDocument (.text "0x7f") (.text "2") (.text "0x0") (.text "2130771968")) ∧
      Table.ofDocument
          (numberedDocument (.text "0x7f") (.text "2") (.text "0x0") (.text "2130771968")) =
        Table.ofDocument
          (numberedDocument (.int 127) (.int 2) (.int 0) (.int 2130771968))) ∧
    RespeltTable (numberedDocument (.int 127) (.int 2) (.int 0) (.int (-16)))
        (numberedDocument (.text "0x7f") (.int 2) (.text "0x0") (.text "-0x10")) ∧
      Table.ofDocument
          (numberedDocument (.text "0x7f") (.int 2) (.text "0x0") (.text "-0x10")) =
        Table.ofDocument (numberedDocument (.int 127) (.int 2) (.int 0) (.int (-16))) := by
  have hTable : Respelt (.int 127) (.text "0x7f") :=
    .hexadecimal (by decide +kernel)
  have hGroup : Respelt (.int 2) (.text "2") := .decimal (by decide +kernel)
  have hEntry : Respelt (.int 0) (.text "0x0") :=
    .hexadecimal (by decide +kernel)
  have hAttribute : Respelt (.int 2130771968) (.text "2130771968") :=
    .decimal (by decide +kernel)
  have hNegative : Respelt (.int (-16)) (.text "-0x10") :=
    .hexadecimal (by decide +kernel)
  have hRead := respelt_numberedDocument hTable hGroup hEntry hAttribute
  have hRefused := respelt_numberedDocument hTable (.same (.int 2)) hEntry hNegative
  exact ⟨⟨hRead, ofDocument_of_respelt hRead⟩, hRefused, ofDocument_of_respelt hRefused⟩

end Resource.Document

end ResourceSymbols
