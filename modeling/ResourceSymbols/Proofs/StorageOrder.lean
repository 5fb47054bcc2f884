import ResourceSymbols.Proofs.Arrangement
import ResourceSymbols.Proofs.Rearrangement
import ResourceSymbols.RClass.Output

/-!
# The order in which attributes are stored

The order in which a styleable lists its attributes is not seen in any class.  The
attributes are arranged by identifier and text, and the text of a complete name
tells the name, because no package of a name that was read holds a colon.  So two
attributes that the arrangement cannot tell apart are the same attribute.

## Main results

* `arrange_eq_of_perm` — the arrangement does not depend on the order given.
* `fate_of_alike`, `run_of_alike` — neither do the fate of an entry and the run over
  a table.
* `generate_of_rearranged` — the class of a rearranged document is the same.
-/

namespace ResourceSymbols

open Resource (Attribute Entry Group Id Kind Name Table)

/-- Well-formed attributes with the same number and the same text are the same. -/
theorem Resource.Attribute.WellFormed.eq_of_text {a b : Attribute} (ha : a.WellFormed)
    (hb : b.WellFormed) (hNumber : a.id.number = b.id.number)
    (hText : a.name.text = b.name.text) : a = b := by
  have hId : a.id = b.id := Id.number_injective hNumber
  have hName : a.name = b.name := by
    have hLeft := Name.parse_text .attr ha.complete ha.noColon
    rw [hText, Name.parse_text .attr hb.complete hb.noColon] at hLeft
    exact (Except.ok.inj hLeft).symm
  obtain ⟨id, name⟩ := a
  obtain ⟨id', name'⟩ := b
  rw [show id = id' from hId, show name = name' from hName]

namespace RClass

/-! ## The arrangement -/

theorem attributeLe_antisymm {a b : Attribute} (ha : a.WellFormed) (hb : b.WellFormed)
    (hab : attributeLe a b = true) (hba : attributeLe b a = true) : a = b := by
  rw [attributeLe_iff] at hab hba
  have hNumber : a.id.number = b.id.number := by omega
  have hText : a.name.text ≤ b.name.text := by
    rcases hab with hLt | ⟨-, hText⟩
    · omega
    · exact hText
  have hText' : b.name.text ≤ a.name.text := by
    rcases hba with hLt | ⟨-, hText⟩
    · omega
    · exact hText
  exact ha.eq_of_text hb hNumber (String.le_antisymm hText hText')

/-- However the attributes are given, their arrangement is one. -/
theorem arrange_eq_of_perm {as bs : List Attribute} (hPerm : as.Perm bs)
    (hAll : ∀ a ∈ as, a.WellFormed) : arrange as = arrange bs := by
  have hArranged : (arrange as).Perm (arrange bs) :=
    (arrange_perm as).trans (hPerm.trans (arrange_perm bs).symm)
  refine List.Perm.eq_of_pairwise ?_ (sorted_arrange as) (sorted_arrange bs) hArranged
  intro a b ha hb
  have ha' : a ∈ as := (arrange_perm as).mem_iff.1 ha
  have hb' : b ∈ as := hPerm.mem_iff.2 ((arrange_perm bs).mem_iff.1 hb)
  exact attributeLe_antisymm (hAll a ha') (hAll b hb')

/-! ## Fates -/

theorem checkAttributes_of_wellFormed (owner : String) {as : List Attribute}
    (hAll : ∀ a ∈ as, a.WellFormed) : checkAttributes owner as = .ok () :=
  checkAttributes_eq_ok_iff.2 fun a ha => ⟨(hAll a ha).assigned, (hAll a ha).complete⟩

theorem declare_of_alike (kind : Kind) (id : Id) (name : String)
    {values values' : List Resource.Value}
    (hAlike : List.Forall₂ Resource.Value.Alike values values')
    (hAll : ∀ held ∈ values, held.WellFormed) :
    declare kind id name values' = declare kind id name values := by
  unfold declare
  by_cases hKind : kind = .styleable
  · rw [if_pos hKind, if_pos hKind]
    cases hAlike with
    | nil => rfl
    | cons hHead _ =>
        cases hHead with
        | item a b => rfl
        | @styleable as bs hPerm =>
            have hWell : ∀ a ∈ as, a.WellFormed := hAll _ List.mem_cons_self
            have hWell' : ∀ b ∈ bs, b.WellFormed := fun b hb => hWell b (hPerm.mem_iff.2 hb)
            simp only [checkAttributes_of_wellFormed name hWell,
              checkAttributes_of_wellFormed name hWell', arrange_eq_of_perm hPerm hWell]
  · rw [if_neg hKind, if_neg hKind]

section

variable {t u : Table} {g h : Group}

/-- What becomes of an entry does not depend on the order of its attributes. -/
theorem fate_of_alike (hTable : t.Alike u) (hGroup : g.Alike h) {e d : Entry}
    (hEntry : e.Alike d) (hWell : e.WellFormed g.kind) (package : Option String) :
    fate u package h d = fate t package g e := by
  have hOrigin : d.origin u.package = e.origin t.package := by
    rw [Entry.origin, Entry.origin, hEntry.name, hTable.package]
  have hPlain : d.plainName = e.plainName := by
    rw [Entry.plainName, Entry.plainName, hEntry.name]
  unfold fate
  simp only [hTable.number, hGroup.number, hEntry.number, hGroup.kind, hEntry.name, hOrigin,
    hPlain, declare_of_alike g.kind _ e.plainName hEntry.values hWell.values]

/-! ## Runs -/

variable (style : Style) (package : Option String)

theorem runEntries_of_alike (hTable : t.Alike u) (hGroup : g.Alike h) {es ds : List Entry}
    (hEntries : List.Forall₂ Entry.Alike es ds) (hWell : ∀ e ∈ es, e.WellFormed g.kind) :
    runEntries style u package h ds = runEntries style t package g es := by
  induction hEntries with
  | nil => rfl
  | cons hHead _ ih =>
      rw [List.forall_mem_cons] at hWell
      rw [runEntries, runEntries, fate_of_alike hTable hGroup hHead hWell.1 package,
        hTable.package, ih hWell.2]

theorem runGroup_of_alike (hTable : t.Alike u) (hGroup : g.Alike h) (hWell : g.WellFormed) :
    runGroup style u package h = runGroup style t package g := by
  rw [runGroup, runGroup, hGroup.kind,
    runEntries_of_alike style package hTable hGroup hGroup.entries hWell.entries]

theorem runGroups_of_alike (hTable : t.Alike u) {gs hs : List Group}
    (hGroups : List.Forall₂ Group.Alike gs hs) (hWell : ∀ g ∈ gs, g.WellFormed) :
    runGroups style u package hs = runGroups style t package gs := by
  induction hGroups with
  | nil => rfl
  | cons hHead _ ih =>
      rw [List.forall_mem_cons] at hWell
      rw [runGroups, runGroups, runGroup_of_alike style package hTable hHead hWell.1,
        ih hWell.2]

theorem run_of_alike (hAlike : t.Alike u) (hTable : t.WellFormed) (label : String) :
    run style u package label = run style t package label := by
  rw [run, run, runGroups_of_alike style package hAlike hAlike.groups hTable.groups]

/-! ## Generations -/

theorem generate_of_alike (hAlike : t.Alike u) (hTable : t.WellFormed) (target : Json.Value)
    (sink : Sink) : generate style u target sink = generate style t target sink := by
  simp only [generate, run_of_alike style _ hAlike hTable, runRecords, hAlike.package,
    hAlike.groups.length_eq]

theorem toSourceGiven_of_alike (hAlike : t.Alike u) (hTable : t.WellFormed)
    (asked : Json.Value) (given : Given) :
    toSourceGiven u asked given = toSourceGiven t asked given := by
  simp only [toSourceGiven, toSource, generateGuarded, targetOf, hAlike.package,
    generate_of_alike _ hAlike hTable]

end

/-- A document whose attributes are rearranged is read as well, and the classes of its
table are those of the first one: what is written, what came of it and what is logged,
for every style, target and sink. -/
theorem generate_of_rearranged {v w : Json.Value} (hRearranged : Resource.Document.Rearranged v w)
    {t : Table} (hRead : Table.ofDocument v = .ok t) :
    ∃ u, Table.ofDocument w = .ok u ∧
      (∀ (style : Style) (target : Json.Value) (sink : Sink),
        generate style u target sink = generate style t target sink) ∧
      ∀ (asked : Json.Value) (given : Given),
        toSourceGiven u asked given = toSourceGiven t asked given := by
  obtain ⟨u, hRead', hAlike⟩ := Resource.Document.ofDocument_of_rearranged hRead hRearranged
  have hTable := Table.wellFormed_of_ofDocument hRead
  exact ⟨u, hRead', fun style => generate_of_alike style hAlike hTable,
    toSourceGiven_of_alike hAlike hTable⟩

/-- Attributes with one identifier, the first two of one name, which is written with
and without its kind. -/
def tiedAttributes : List Json.Value :=
  [.object [("id", .int 0x01010000), ("name", .text "app:color")],
    .object [("id", .text "0x01010000"), ("name", .text "app:attr/color")],
    .object [("id", .text "0x1010000"), ("name", .text "lib:color")]]

/-- Attributes of one name and in descending order. -/
def namesakes : List Json.Value :=
  [.object [("id", .int 0x7F010001), ("name", .text "app:size")],
    .object [("id", .int 0x7F010000), ("name", .text "app:size")]]

/-- A document with two lists of attributes. -/
def attributesDocument (first second : List Json.Value) : Json.Value :=
  .object [("package", .text "app"), ("id", .int 0x7F), ("types", .list [
    .object [("type", .text "styleable"), ("id", .int 2), ("entries", .list [
      .object [("name", .text "Tied"), ("id", .int 0),
        ("values", .list [.object [("styleable", .list first)]])],
      .object [("name", .text "Namesakes"), ("id", .int 1),
        ("values", .list [.object [("styleable", .list second)]])]])]])]

/-- Each of the two lists may be rearranged. -/
theorem rearranged_attributesDocument {first first' second second' : List Json.Value}
    (hFirst : first.Perm first') (hSecond : second.Perm second') :
    Resource.Document.Rearranged (attributesDocument first second)
      (attributesDocument first' second') := by
  have hHeld : ∀ {vs ws : List Json.Value}, vs.Perm ws → Resource.Document.Rearranged
      (.list [.object [("styleable", .list vs)]])
      (.list [.object [("styleable", .list ws)]]) := fun hPerm =>
    .list (.cons (.object (.cons
      (.styleable (List.forall₂_same.2 fun v _ => .same v) hPerm) .nil)) .nil)
  have hEntry : ∀ (name : String) (number : Int) {v w : Json.Value},
      Resource.Document.Rearranged v w → Resource.Document.Rearranged
        (.object [("name", .text name), ("id", .int number), ("values", v)])
        (.object [("name", .text name), ("id", .int number), ("values", w)]) :=
    fun name number _ _ h => .object (.cons (.member _ (.same _))
      (.cons (.member _ (.same _)) (.cons (.member _ h) .nil)))
  have hEntries := Resource.Document.Rearranged.list
    (.cons (hEntry "Tied" 0 (hHeld hFirst)) (.cons (hEntry "Namesakes" 1 (hHeld hSecond)) .nil))
  exact .object (.cons (.member _ (.same _)) (.cons (.member _ (.same _))
    (.cons (.member _ (.list (.cons (.object (.cons (.member _ (.same _))
      (.cons (.member _ (.same _)) (.cons (.member _ hEntries) .nil)))) .nil))) .nil)))

theorem generate_of_rearranged_attributesDocument :
    Resource.Document.Rearranged (attributesDocument tiedAttributes namesakes)
        (attributesDocument tiedAttributes.reverse namesakes.reverse) ∧
      ∃ t u, Table.ofDocument (attributesDocument tiedAttributes namesakes) = .ok t ∧
        Table.ofDocument (attributesDocument tiedAttributes.reverse namesakes.reverse) = .ok u ∧
        generate ⟨true⟩ u (.text "app") {} = generate ⟨true⟩ t (.text "app") {} := by
  obtain ⟨t, hRead⟩ :
      ∃ t, Table.ofDocument (attributesDocument tiedAttributes namesakes) = .ok t := ⟨_, rfl⟩
  have hRearranged := rearranged_attributesDocument (List.reverse_perm tiedAttributes).symm
    (List.reverse_perm namesakes).symm
  obtain ⟨u, hRead', hGenerate, -⟩ := generate_of_rearranged hRearranged hRead
  exact ⟨hRearranged, t, u, hRead, hRead', hGenerate ⟨true⟩ (.text "app") {}⟩

end RClass

end ResourceSymbols
