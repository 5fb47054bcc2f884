import ResourceSymbols.Resource.Table

/-!
# Names and their parts

A full name is put together from its package, its kind and its entry, and a mangled name
from its origin and its plain name.  Either is taken apart at the first mark.  So the part
in front comes back whole where the mark does not stand in it, and the part behind may hold
any marks.  A full name without a package has no colon of its own, and one in its entry
would be taken for it.

## Main results

* `parse_eq_ok_iff` — which texts give which full names.
* `parse_text_eq_iff` — the names that come back from their text.
* `parse_agrees_with_text` — what is read, which texts are read, and when a text is that of
  the name it gives.
* `unmangle?_mangle_eq_iff` — the parts that come back from a mangled name.
* `mangle_unmangle?_inverse` — mangling and taking apart undo each other, and mangled names
  are told by their parts.
-/

namespace ResourceSymbols.Resource

/-! ## Full names -/

theorem Kind.colon_not_mem_tag (kind : Kind) : ':' ∉ kind.tag.toList := by
  cases kind <;> decide

theorem Kind.slash_not_mem_tag (kind : Kind) : '/' ∉ kind.tag.toList := by
  cases kind <;> decide

namespace Name

/-- The text stands for the name, whose kind is the default one where the text has none. -/
inductive Spells (default : Kind) : String → Name → Prop
  | short {package entry : String} (hPackage : ':' ∉ package.toList)
      (hEntry : '/' ∉ entry.toList) :
      Spells default (package ++ ":" ++ entry) ⟨package, default, entry⟩
  | full {package entry : String} (kind : Kind) (hPackage : ':' ∉ package.toList) :
      Spells default (package ++ ":" ++ (kind.tag ++ "/" ++ entry)) ⟨package, kind, entry⟩

section

variable {default : Kind} {text : String} {n : Name}

theorem cutText_colon_iff {package rest : String} :
    Text.cutText ':' text = some (package, rest) ↔
      text = package ++ ":" ++ rest ∧ ':' ∉ package.toList :=
  Text.cutText_eq_some_iff_append rfl

theorem cutText_slash_iff {tag entry : String} :
    Text.cutText '/' text = some (tag, entry) ↔
      text = tag ++ "/" ++ entry ∧ '/' ∉ tag.toList :=
  Text.cutText_eq_some_iff_append rfl

/-- Reading a text gives the name that it stands for, and nothing else is read. -/
theorem parse_eq_ok_iff : parse default text = .ok n ↔ Spells default text n := by
  constructor
  · intro hRead
    unfold parse at hRead
    split at hRead
    · cases hRead
    · rename_i package rest hColon
      obtain ⟨rfl, hPackage⟩ := cutText_colon_iff.1 hColon
      split at hRead
      · rename_i hSlash
        cases hRead
        exact .short hPackage (Text.cutText_eq_none_iff.1 hSlash)
      · rename_i tag entry hSlash
        obtain ⟨rfl, -⟩ := cutText_slash_iff.1 hSlash
        split at hRead
        · cases hRead
        · rename_i kind hKind
          cases hRead
          rw [← Kind.ofTag?_eq_some_iff.1 hKind]
          exact .full kind hPackage
  · rintro (⟨hPackage, hEntry⟩ | ⟨kind, hPackage⟩)
    · unfold parse
      simp only [cutText_colon_iff.2 ⟨rfl, hPackage⟩, Text.cutText_eq_none_iff.2 hEntry]
    · unfold parse
      simp only [cutText_colon_iff.2 ⟨rfl, hPackage⟩,
        cutText_slash_iff.2 ⟨rfl, kind.slash_not_mem_tag⟩, Kind.ofTag?_tag]

/-- The package of a name that is read has no colon. -/
theorem Spells.noColon (hSpells : Spells default text n) : ':' ∉ n.package.toList := by
  cases hSpells with
  | short hPackage => exact hPackage
  | full kind hPackage => exact hPackage

/-- It is what stands in front of the first colon. -/
theorem Spells.exists_rest (hSpells : Spells default text n) :
    ∃ rest, text = n.package ++ ":" ++ rest := by
  cases hSpells with
  | short hPackage => exact ⟨_, rfl⟩
  | full kind hPackage => exact ⟨_, rfl⟩

theorem text_of_ne_empty (hPackage : n.package ≠ "") :
    n.text = n.package ++ ":" ++ (n.kind.tag ++ "/" ++ n.entry) := by
  have hGiven : ¬ n.package.isEmpty = true := by simpa using hPackage
  rw [Name.text, if_neg hGiven]
  simp [toString, String.append_assoc]

theorem text_of_empty (hPackage : n.package = "") :
    n.text = n.kind.tag ++ "/" ++ n.entry := by
  have hNone : n.package.isEmpty = true := by simp [hPackage]
  rw [Name.text, if_pos hNone]
  simp [toString]

/-- The text of a name does not start with a colon where there is no package: it starts
with a tag. -/
theorem not_spells_text_of_empty (hPackage : n.package = "") : ¬ Spells default n.text n := by
  intro hSpells
  obtain ⟨rest, hRest⟩ := hSpells.exists_rest
  rw [text_of_empty hPackage, hPackage] at hRest
  have hChars : n.kind.tag.toList ++ '/' :: n.entry.toList = ':' :: rest.toList := by
    simpa using congrArg String.toList hRest
  cases hTag : n.kind.tag.toList with
  | nil =>
      rw [hTag] at hChars
      cases hChars
  | cons c cs =>
      rw [hTag] at hChars
      obtain rfl : c = ':' := (List.cons.inj hChars).1
      have hColon := n.kind.colon_not_mem_tag
      rw [hTag] at hColon
      exact hColon List.mem_cons_self

/-- A name comes back from its text exactly if its package is given and holds no colon. -/
theorem parse_text_eq_iff :
    parse default n.text = .ok n ↔ n.package ≠ "" ∧ ':' ∉ n.package.toList := by
  rw [parse_eq_ok_iff]
  constructor
  · intro hSpells
    exact ⟨fun hEmpty => not_spells_text_of_empty hEmpty hSpells, hSpells.noColon⟩
  · rintro ⟨hGiven, hPackage⟩
    rw [text_of_ne_empty hGiven]
    exact .full n.kind hPackage

/-- A complete name comes back from its text, if its package has no colon. -/
theorem parse_text (default : Kind) (hComplete : n.isComplete = true)
    (hNoColon : ':' ∉ n.package.toList) : parse default n.text = .ok n := by
  have hPackage : n.package ≠ "" := by
    rintro hEmpty
    simp [isComplete, hEmpty] at hComplete
  exact parse_text_eq_iff.2 ⟨hPackage, hNoColon⟩

/-- What is in front of the first colon is the package.  What is behind it is the entry
alone, or else the tag of the kind and the entry. -/
theorem spells_append_iff {package rest : String} (hPackage : ':' ∉ package.toList) :
    Spells default (package ++ ":" ++ rest) n ↔
      n = ⟨package, default, rest⟩ ∧ '/' ∉ rest.toList ∨
        n.package = package ∧ rest = n.kind.tag ++ "/" ++ n.entry := by
  constructor
  · intro hSpells
    generalize hText : package ++ ":" ++ rest = text at hSpells
    have hCut := cutText_colon_iff.2 ⟨hText.symm, hPackage⟩
    cases hSpells with
    | short hFront hEntry =>
        rw [cutText_colon_iff.2 ⟨rfl, hFront⟩] at hCut
        cases hCut
        exact .inl ⟨rfl, hEntry⟩
    | full kind hFront =>
        rw [cutText_colon_iff.2 ⟨rfl, hFront⟩] at hCut
        cases hCut
        exact .inr ⟨rfl, rfl⟩
  · rintro (⟨rfl, hEntry⟩ | ⟨rfl, rfl⟩)
    · exact .short hPackage hEntry
    · exact .full n.kind hPackage

/-- A text with a package and a kind is the text of the name that it gives. -/
theorem Spells.text_eq {package rest : String} (hPackage : ':' ∉ package.toList)
    (hSpells : Spells default (package ++ ":" ++ rest) n) (hGiven : package ≠ "")
    (hSlash : '/' ∈ rest.toList) : n.text = package ++ ":" ++ rest := by
  rcases (spells_append_iff hPackage).1 hSpells with ⟨-, hNone⟩ | ⟨rfl, rfl⟩
  · exact absurd hSlash hNone
  · exact text_of_ne_empty hGiven

/-- A text is read exactly if it has a colon and, behind the first one, either no slash or
the tag of a kind in front of the first slash. -/
theorem exists_parse_iff :
    (∃ n, parse default text = .ok n) ↔
      ∃ package rest, text = package ++ ":" ++ rest ∧ ':' ∉ package.toList ∧
        ('/' ∉ rest.toList ∨ ∃ tag entry, rest = tag ++ "/" ++ entry ∧ '/' ∉ tag.toList ∧
          ∃ kind : Kind, kind.tag = tag) := by
  constructor
  · rintro ⟨n, hRead⟩
    have hSpells := parse_eq_ok_iff.1 hRead
    obtain ⟨rest, rfl⟩ := hSpells.exists_rest
    refine ⟨n.package, rest, rfl, hSpells.noColon, ?_⟩
    rcases (spells_append_iff hSpells.noColon).1 hSpells with ⟨-, hNone⟩ | ⟨-, hRest⟩
    · exact .inl hNone
    · exact .inr ⟨n.kind.tag, n.entry, hRest, n.kind.slash_not_mem_tag, n.kind, rfl⟩
  · rintro ⟨package, rest, rfl, hPackage, hEntry | ⟨_, entry, rfl, -, kind, rfl⟩⟩
    · exact ⟨_, parse_eq_ok_iff.2 (.short hPackage hEntry)⟩
    · exact ⟨_, parse_eq_ok_iff.2 (.full kind hPackage)⟩

/-- A name comes back from its text exactly if its package is given and holds no colon.
What is read has no colon in its package.  A text is read exactly if it has a colon and,
behind the first one, no slash or a tag in front of the first slash.  And a text with a
package and a slash behind the colon is the text of the name that is read from it. -/
theorem parse_agrees_with_text (default : Kind) :
    (∀ n : Name, parse default n.text = .ok n ↔
      n.package ≠ "" ∧ ':' ∉ n.package.toList) ∧
    (∀ (text : String) (n : Name), parse default text = .ok n → ':' ∉ n.package.toList) ∧
    (∀ text : String, (∃ n, parse default text = .ok n) ↔
      ∃ package rest, text = package ++ ":" ++ rest ∧ ':' ∉ package.toList ∧
        ('/' ∉ rest.toList ∨ ∃ tag entry, rest = tag ++ "/" ++ entry ∧ '/' ∉ tag.toList ∧
          ∃ kind : Kind, kind.tag = tag)) ∧
    ∀ (package rest : String) (n : Name), ':' ∉ package.toList → package ≠ "" →
      '/' ∈ rest.toList → parse default (package ++ ":" ++ rest) = .ok n →
        n.text = package ++ ":" ++ rest := by
  refine ⟨fun n => parse_text_eq_iff, ?_, fun text => exists_parse_iff, ?_⟩
  · intro text n hRead
    exact (parse_eq_ok_iff.1 hRead).noColon
  · intro package rest n hPackage hGiven hSlash hRead
    exact (parse_eq_ok_iff.1 hRead).text_eq hPackage hGiven hSlash

/-- The marks stand in the entry once more. -/
def markedName : Name := ⟨"app", .style, "a:b/c"⟩

theorem parse_agrees_with_text_markedName :
    parse .attr ("app" ++ ":" ++ "style/a:b/c") = .ok markedName ∧
      ':' ∉ markedName.package.toList ∧ markedName.text = "app" ++ ":" ++ "style/a:b/c" := by
  have hRead : parse .attr ("app" ++ ":" ++ "style/a:b/c") = .ok markedName := rfl
  have hAll := parse_agrees_with_text .attr
  exact ⟨hRead, hAll.2.1 _ _ hRead,
    hAll.2.2.2 "app" "style/a:b/c" markedName (by decide) (by decide) (by decide) hRead⟩

end

end Name

/-! ## Mangled names -/

/-- The parts come back from the mangled name exactly if the origin holds no separator. -/
theorem unmangle?_mangle_eq_iff {origin plain : String} :
    unmangle? (mangle origin plain) = some ⟨plain, origin⟩ ↔ separator ∉ origin.toList := by
  rw [unmangle?_eq_some_iff]
  exact and_iff_right rfl

theorem exists_unmangle?_iff {name : String} :
    isMangled name = true ↔ ∃ u, unmangle? name = some u := by
  rw [isMangled_iff, Option.isSome_iff_exists]

/-- A mangled name is told by what it is taken apart into. -/
theorem eq_of_unmangle?_eq {x y : String} (hMangled : isMangled x = true)
    (hSame : unmangle? x = unmangle? y) : x = y := by
  obtain ⟨u, hx⟩ := exists_unmangle?_iff.1 hMangled
  have hy : unmangle? y = some u := hSame.symm.trans hx
  rw [(unmangle?_eq_some_iff.1 hx).1, (unmangle?_eq_some_iff.1 hy).1]

/-- A mangled entry is named after its origin and its plain name. -/
theorem Entry.name_eq_mangle {e : Entry} (hMangled : isMangled e.name = true) (own : String) :
    e.name = mangle (e.origin own) e.plainName := by
  obtain ⟨u, hParts⟩ := exists_unmangle?_iff.1 hMangled
  have hOrigin : e.origin own = u.origin := by rw [Entry.origin, hParts]
  have hPlain : e.plainName = u.plain := by rw [Entry.plainName, hParts]
  rw [hOrigin, hPlain]
  exact (unmangle?_eq_some_iff.1 hParts).1

/-- The parts come back from a mangled name exactly if the origin holds no separator.  A
name can be taken apart exactly if it is mangled, and is then mangled from the parts.  So
mangled names are told by their parts, and mangled entries by their origin and plain name. -/
theorem mangle_unmangle?_inverse :
    (∀ origin plain : String,
      unmangle? (mangle origin plain) = some ⟨plain, origin⟩ ↔ separator ∉ origin.toList) ∧
    (∀ name : String, isMangled name = true ↔ ∃ u, unmangle? name = some u) ∧
    (∀ (name : String) (u : Unmangled), unmangle? name = some u →
      mangle u.origin u.plain = name ∧ separator ∉ u.origin.toList) ∧
    (∀ x y : String, isMangled x = true → isMangled y = true →
      unmangle? x = unmangle? y → x = y) ∧
    ∀ (own : String) (d e : Entry), isMangled d.name = true → isMangled e.name = true →
      d.name ≠ e.name → d.origin own ≠ e.origin own ∨ d.plainName ≠ e.plainName := by
  refine ⟨fun _ _ => unmangle?_mangle_eq_iff, fun _ => exists_unmangle?_iff, ?_,
    fun x y hMangled _ hSame => eq_of_unmangle?_eq hMangled hSame, ?_⟩
  · intro name u hParts
    obtain ⟨hName, hOrigin⟩ := unmangle?_eq_some_iff.1 hParts
    exact ⟨hName.symm, hOrigin⟩
  · intro own d e hLeft hRight hOther
    by_cases hOrigin : d.origin own = e.origin own
    · refine .inr fun hPlain => hOther ?_
      rw [d.name_eq_mangle hLeft own, e.name_eq_mangle hRight own, hOrigin, hPlain]
    · exact .inl hOrigin

/-- The separator stands in the plain name of the second entry once more. -/
def separatedEntries : Entry × Entry := (⟨"lib$a", 0, []⟩, ⟨"lib$$a", 1, []⟩)

theorem mangle_unmangle?_inverse_separatedEntries :
    (unmangle? "lib$$a" = some ⟨"$a", "lib"⟩ ∧ mangle "lib" "$a" = "lib$$a" ∧
      separator ∉ "lib".toList) ∧
    (isMangled "lib$$a" = true ∧ unmangle? "lib$$a" = unmangle? (mangle "lib" "$a") ∧
      "lib$$a" = mangle "lib" "$a") ∧
    isMangled separatedEntries.1.name = true ∧ isMangled separatedEntries.2.name = true ∧
      (separatedEntries.1.origin "app" ≠ separatedEntries.2.origin "app" ∨
        separatedEntries.1.plainName ≠ separatedEntries.2.plainName) := by
  obtain ⟨-, -, hParts, hNames, hEntries⟩ := mangle_unmangle?_inverse
  have hRead : unmangle? "lib$$a" = some ⟨"$a", "lib"⟩ := by decide
  have hSame : unmangle? "lib$$a" = unmangle? (mangle "lib" "$a") := by decide
  have hLeft : isMangled separatedEntries.1.name = true := by decide
  have hRight : isMangled separatedEntries.2.name = true := by decide
  exact ⟨⟨hRead, hParts _ _ hRead⟩,
    ⟨hRight, hSame, hNames _ _ hRight (by decide) hSame⟩,
    hLeft, hRight, hEntries "app" _ _ hLeft hRight (by decide)⟩

end ResourceSymbols.Resource
