import ResourceSymbols.Proofs.Arrangement
import ResourceSymbols.Proofs.Rendering

/-!
# The text of a class, line by line

The text of a class is told here without the pieces that it is written in: the lines of
its header, a block for each kind, and in it the lines that declare the entries of the
package.  A run that no entry stops writes this text.

## Main results

* `fill_headerTemplate_eq`, `fill_constantTemplate_eq` — the header and the line of a
  constant are filled templates.
* `join_pieces_runEntry` — what is written for an entry is its declaration.
* `join_pieces_run_eq_classText` — what a run without an offence writes is the class.
-/

namespace ResourceSymbols.RClass

open Resource (Attribute Entry Group Id Table)
open ResourceSymbols.Symbol (Template)

/-! ## Lines -/

/-- The lines of the header, up to the blank line after that of the package. -/
def classHeader (package : String) : String :=
  headerStart ++ package ++ ";\n" ++ "\n"

/-- The line that opens the block of a kind. -/
def blockOpening (tag : String) : String := "    public static final class " ++ tag ++ " \x7b\n"

/-- The lines between the braces of an array, each with the break before it. -/
def arrayBody (ids : List Id) : String :=
  String.join ((arrayLines (rows ids)).map fun line => "\n" ++ line)

section

variable (style : Style) (t : Table) (package : String)

/-- The complete declaration of an entry, which is empty for an entry that another
package has and for a styleable whose first value is an item. -/
def entryText (g : Group) (e : Entry) : String :=
  if e.origin t.package ≠ package then ""
  else if g.kind ≠ .styleable then
    constantLine style (Symbol.transform e.plainName)
      ("0x" ++ String.ofList (Text.hexDigits 8 (packed t.number g.number e.number).toNat))
  else
    match e.values with
    | .styleable attributes :: _ =>
        arrayText (Symbol.transform e.plainName)
            (arrayBody ((arrange attributes).map Attribute.id)) ++
          String.join (indexLines style t.package e.plainName 0 (arrange attributes))
    | _ => ""

/-- The complete block of a group. -/
def groupText (g : Group) : String :=
  blockOpening g.kind.tag ++ String.join (g.entries.map (entryText style t package g)) ++
    "    \x7d\n"

/-- The complete text of a class. -/
def classText : String :=
  classHeader package ++ "public final class R \x7b\n" ++
    String.join (t.groups.map (groupText style t package)) ++ "\x7d\n"

end

/-! ## Templates -/

/-- The filled header is the lines of the header. -/
theorem fill_headerTemplate_eq (package : String) :
    (Template.ofText headerTemplate).fill [("package", .text package)] =
      .ok (classHeader package) := by
  rw [fill_headerTemplate, headerText_eq]
  rfl

/-- The filled line of a constant is the line for the symbol of its name. -/
theorem fill_constantTemplate_eq (style : Style) (name value : String) :
    (Template.ofText constantTemplate).fill
        [("final_modifier", .text (if style.isFinal then " final" else "")),
          ("name", .text name), ("value", .text value)] =
      .ok (constantLine style (Symbol.transform name) value) :=
  fill_constantTemplate style name value

/-! ## Entries -/

section

variable (style : Style) {t : Table} {package : String} {g : Group} {e : Entry}

/-- An entry of another package has no declaration. -/
theorem entryText_of_ne (hOther : e.origin t.package ≠ package) :
    entryText style t package g e = "" := if_pos hOther

theorem entryText_constant (hOrigin : e.origin t.package = package)
    (hKind : g.kind ≠ .styleable) :
    entryText style t package g e = constantLine style (Symbol.transform e.plainName)
      ("0x" ++ String.ofList (Text.hexDigits 8 (packed t.number g.number e.number).toNat)) := by
  rw [entryText, if_neg (not_not_intro hOrigin), if_pos hKind]

theorem entryText_array (hOrigin : e.origin t.package = package) (hKind : g.kind = .styleable)
    {attributes : List Attribute} {more : List Resource.Value}
    (hValues : e.values = .styleable attributes :: more) :
    entryText style t package g e =
      arrayText (Symbol.transform e.plainName)
          (arrayBody ((arrange attributes).map Attribute.id)) ++
        String.join (indexLines style t.package e.plainName 0 (arrange attributes)) := by
  rw [entryText, if_neg (not_not_intro hOrigin), if_neg (not_not_intro hKind), hValues]

/-- The lines between the braces are what is written identifier by identifier. -/
theorem join_itemPieces_eq_arrayBody (ids : List Id) :
    String.join (itemPieces 0 ids) = arrayBody ids :=
  join_itemPieces (Nat.zero_mod _) ids

/-- The text of an identifier is that of its packed parts. -/
theorem text_of_ofParts {package type entry : Int} {id : Id}
    (hId : Id.ofParts package type entry = .ok id) :
    id.text = "0x" ++ String.ofList (Text.hexDigits 8 (packed package type entry).toNat) := by
  rw [← number_of_ofParts hId, Int.toNat_natCast, Id.text]

theorem join_pieces_declaration {id : Id}
    (hId : Id.ofParts t.number g.number e.number = .ok id)
    (hOrigin : e.origin t.package = package) :
    String.join ((declaration g.kind id e.plainName e.values).pieces style t.package) =
      entryText style t package g e := by
  by_cases hKind : g.kind = .styleable
  · cases hValues : e.values with
    | nil => simp [entryText, declaration, hKind, hValues, Fate.pieces]
    | cons held more =>
        cases held with
        | item data => simp [entryText, declaration, hKind, hValues, Fate.pieces]
        | styleable attributes =>
            rw [entryText_array style hOrigin hKind hValues, ← join_itemPieces_eq_arrayBody,
              ← join_pieces_array, declaration, if_pos hKind]
  · rw [entryText_constant style hOrigin hKind, ← text_of_ofParts hId,
      declaration_of_ne hKind, Fate.pieces, String.join_cons, String.join_nil,
      String.append_empty]
    rfl

/-- What is written for an entry that does not offend is its declaration. -/
theorem join_pieces_runEntry (hNone : offence? t (some package) g e = none) :
    String.join (runEntry style t (some package) g e).pieces =
      entryText style t package g e := by
  obtain ⟨id, hId, hPieces⟩ := pieces_runEntry style t hNone
  rw [hPieces]
  by_cases hOrigin : e.origin t.package = package
  · rw [if_pos hOrigin, join_pieces_declaration style hId hOrigin]
  · rw [if_neg hOrigin, entryText_of_ne style hOrigin, String.join_nil]

end

/-! ## Blocks and the whole class -/

section

variable (style : Style) {t : Table} {package : String}

theorem join_flatMap_pieces {g : Group} {es : List Entry}
    (hNone : ∀ e ∈ es, offence? t (some package) g e = none) :
    String.join (es.flatMap fun e => (runEntry style t (some package) g e).pieces) =
      String.join (es.map (entryText style t package g)) := by
  induction es with
  | nil => rfl
  | cons e es ih =>
      rw [List.forall_mem_cons] at hNone
      rw [List.flatMap_cons, String.join_append, join_pieces_runEntry style hNone.1,
        ih hNone.2, List.map_cons, String.join_cons]

theorem join_groupPieces {g : Group}
    (hNone : ∀ e ∈ g.entries, offence? t (some package) g e = none) :
    String.join (groupPieces style t (some package) g) = groupText style t package g := by
  rw [groupPieces, List.cons_append, String.join_cons, String.join_append,
    join_flatMap_pieces style hNone, String.join_cons, String.join_nil, String.append_empty,
    ← String.append_assoc]
  rfl

theorem join_flatMap_groupPieces {gs : List Group}
    (hNone : ∀ g ∈ gs, ∀ e ∈ g.entries, offence? t (some package) g e = none) :
    String.join (gs.flatMap (groupPieces style t (some package))) =
      String.join (gs.map (groupText style t package)) := by
  induction gs with
  | nil => rfl
  | cons g gs ih =>
      rw [List.forall_mem_cons] at hNone
      rw [List.flatMap_cons, String.join_append, join_groupPieces style hNone.1,
        ih hNone.2, List.map_cons, String.join_cons]

/-- What a run without an offence writes is the class. -/
theorem join_pieces_run_eq_classText
    (hNone : ∀ g ∈ t.groups, ∀ e ∈ g.entries, offence? t (some package) g e = none) :
    String.join (run style t (some package) package).pieces = classText style t package := by
  rw [pieces_run style t (some package) package hNone, String.join_append,
    String.join_append, join_flatMap_groupPieces style hNone, String.join_cons,
    String.join_cons, String.join_nil, String.append_empty, String.join_cons,
    String.join_nil, String.append_empty, headerText_eq]
  rfl

/-- A class that is complete is written as a whole. -/
theorem written_eq_classText {sink : Sink} {s : Summary}
    (hComplete : (generate style t (.text package) sink).outcome = .ok (.complete s)) :
    (generate style t (.text package) sink).written = classText style t package := by
  obtain ⟨hSink, hOffence, -⟩ := complete_of_outcome hComplete
  rw [written_generate hSink, join_pieces_run_eq_classText style
    ((offence_run_eq_none_iff style t (some package) package).1 hOffence)]

end

end ResourceSymbols.RClass
