import ResourceSymbols.Proofs.ClassReader
import ResourceSymbols.Symbol.Template

/-!
# Texts of a class as templates

The header and the line of a constant are templates whose slots are filled.  What
fills a slot is written as it is, and is not looked through for slots again.

## Main results

* `parts_slot` — a slot stands between what comes before and after its braces.
* `fill_headerTemplate`, `fill_constantTemplate` — the filled templates are the
  texts that a class is made of, whatever the names hold.
-/

namespace ResourceSymbols.Symbol.Template

/-- A pair is found where its first character stands first. -/
theorem cutPair_append {a b : Char} {before : List Char} (hBefore : a ∉ before)
    (after : List Char) :
    cutPair a b (before ++ a :: b :: after) = some (before, after) := by
  induction before with
  | nil => simp [cutPair]
  | cons c cs ih =>
      rw [List.mem_cons, not_or] at hBefore
      have hRest := ih hBefore.2
      -- The pair needs a second character, so the rest is looked at as well.
      cases cs with
      | nil =>
          rw [List.nil_append] at hRest
          rw [List.cons_append, List.nil_append, cutPair,
            if_neg fun h => hBefore.1 h.1.symm, hRest]
          rfl
      | cons d ds =>
          rw [List.cons_append] at hRest
          rw [List.cons_append, List.cons_append, cutPair,
            if_neg fun h => hBefore.1 h.1.symm, hRest]
          rfl

theorem cutPair_eq_none {a b : Char} {cs : List Char} (hNone : a ∉ cs) :
    cutPair a b cs = none := by
  fun_induction cutPair a b cs with
  | case1 => rfl
  | case2 => rfl
  | case3 x y rest hPair => simp [hPair.1] at hNone
  | case4 x y rest hPair ih =>
      rw [List.mem_cons, not_or] at hNone
      rw [ih hNone.2]
      rfl

/-- A slot stands between what comes before its braces and what comes after them. -/
theorem parts_slot (fuel : Nat) {before inner : List Char} (hBefore : '\x7b' ∉ before)
    (hInner : '\x7d' ∉ inner) (after : List Char) :
    parts (fuel + 1)
        (before ++ '\x7b' :: '\x7b' :: (inner ++ '\x7d' :: '\x7d' :: after)) =
      .literal (String.ofList before) :: slotOf inner :: parts fuel after := by
  rw [parts, cutPair_append hBefore]
  simp only [cutPair_append hInner]

/-- A text without slots is one part. -/
theorem parts_literal (fuel : Nat) {cs : List Char} (hNone : '\x7b' ∉ cs) :
    parts fuel cs = [.literal (String.ofList cs)] := by
  cases fuel with
  | zero => rfl
  | succ fuel =>
      rw [parts, cutPair_eq_none hNone]

end ResourceSymbols.Symbol.Template

namespace ResourceSymbols.RClass

open ResourceSymbols.Symbol (Template)

/-- The header, with a slot for the package. -/
def headerTemplate : String := headerStart ++ "\x7b\x7b package \x7d\x7d;\n\n"

/-- The line of a constant, with slots for what comes before its type, its name
and its value. -/
def constantTemplate : String :=
  "        public static\x7b\x7b final_modifier \x7d\x7d int " ++
  "\x7b\x7b name | symbol \x7d\x7d = \x7b\x7b value \x7d\x7d;\n"

/-- What no line of the header holds does not stand before the package. -/
private theorem not_mem_headerStart {c : Char} (hLines : ∀ l ∈ headerLines, c ∉ l.toList)
    (hBreak : c ∉ "\n".toList) (hName : c ∉ "package ".toList) :
    c ∉ headerStart.toList := by
  rw [headerStart, String.toList_append, String.toList_join, List.mem_append, not_or,
    List.mem_flatMap]
  refine ⟨?_, hName⟩
  rintro ⟨line, hLine, hc⟩
  obtain ⟨l, hl, rfl⟩ := List.mem_map.1 hLine
  rw [String.toList_append, List.mem_append] at hc
  rcases hc with hc | hc
  · exact hLines l hl hc
  · exact hBreak hc

/-- The parts of the header template: what comes before the package, its slot, and
what comes after it. -/
theorem ofText_headerTemplate :
    Template.ofText headerTemplate =
      [.literal headerStart, .slot "package" false, .literal ";\n\n"] := by
  have hText : headerTemplate.toList = headerStart.toList ++
      '\x7b' :: '\x7b' :: (" package ".toList ++ '\x7d' :: '\x7d' :: ";\n\n".toList) := by
    have hSlot : "\x7b\x7b package \x7d\x7d;\n\n".toList =
        '\x7b' :: '\x7b' :: (" package ".toList ++ '\x7d' :: '\x7d' :: ";\n\n".toList) := by
      decide
    rw [← hSlot, ← String.toList_append]
    rfl
  have hBefore : '\x7b' ∉ headerStart.toList :=
    not_mem_headerStart (by decide) (by decide) (by decide)
  have hBefore' : '\r' ∉ headerStart.toList :=
    not_mem_headerStart (by decide) (by decide) (by decide)
  have hEnds : '\r' ∉ headerTemplate.toList := by
    rw [hText, List.mem_append, not_or]
    exact ⟨hBefore', by decide⟩
  have hInner : '\x7d' ∉ " package ".toList := by decide
  have hAfter : '\x7b' ∉ ";\n\n".toList := by decide
  have hName : Template.slotOf " package ".toList = .slot "package" false := by
    decide +kernel
  have hLength : headerTemplate.toList.length ≠ 0 := by
    rw [hText, List.length_append, List.length_cons]
    omega
  obtain ⟨fuel, hFuel⟩ := Nat.exists_eq_succ_of_ne_zero hLength
  have hSlot := Template.parts_slot fuel hBefore hInner ";\n\n".toList
  rw [Template.parts_literal fuel hAfter, hName, String.ofList_toList,
    String.ofList_toList] at hSlot
  unfold Template.ofText
  simp only [Text.foldLineEnds_eq_self hEnds, hFuel]
  rw [hText, hSlot]

theorem ofText_constantTemplate :
    Template.ofText constantTemplate =
      [.literal "        public static", .slot "final_modifier" false,
        .literal " int ", .slot "name" true, .literal " = ", .slot "value" false,
        .literal ";\n"] := by
  decide +kernel

/-- Whatever the package is called, the filled header is the text written for it. -/
theorem fill_headerTemplate (package : String) :
    (Template.ofText headerTemplate).fill [("package", .text package)] =
      .ok (headerText package) := by
  have hFill : ([.literal headerStart, .slot "package" false,
      .literal ";\n\n"] : Template).mapM
        (Template.fillPart [("package", .text package)]) =
      .ok [headerStart, package, ";\n\n"] := rfl
  have hEnd : ";\n\n" = ";\n" ++ "\n" := by decide
  rw [ofText_headerTemplate, headerText_eq, Template.fill, hFill]
  show Except.ok _ = Except.ok _
  simp only [String.join_cons, String.join_nil, String.append_empty, hEnd,
    String.append_assoc]

/-- Whatever a constant is called, the filled line is the text written for it. -/
theorem fill_constantTemplate (style : Style) (name value : String) :
    (Template.ofText constantTemplate).fill
        [("final_modifier", .text (if style.isFinal then " final" else "")),
          ("name", .text name), ("value", .text value)] =
      .ok (constantText style name value) := by
  have hFill : ([.literal "        public static", .slot "final_modifier" false,
      .literal " int ", .slot "name" true, .literal " = ", .slot "value" false,
      .literal ";\n"] : Template).mapM (Template.fillPart
        [("final_modifier", .text (if style.isFinal then " final" else "")),
          ("name", .text name), ("value", .text value)]) =
      .ok ["        public static", if style.isFinal then " final" else "", " int ",
        Symbol.transform name, " = ", value, ";\n"] := rfl
  rw [ofText_constantTemplate, Template.fill, hFill]
  show Except.ok _ = Except.ok _
  unfold constantText
  simp only [String.join_cons, String.join_nil, String.append_empty,
    String.append_assoc]

end ResourceSymbols.RClass
