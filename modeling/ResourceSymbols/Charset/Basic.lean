import ResourceSymbols.Charset.Big5
import ResourceSymbols.Charset.EucJp
import ResourceSymbols.Charset.Gb18030
import ResourceSymbols.Charset.Hangul
import ResourceSymbols.Charset.PageTable
import ResourceSymbols.Charset.ShiftJis
import ResourceSymbols.Text.Encoding
import ResourceSymbols.Text.Likeness

/-!
# Charsets

The ways in which octets spell characters.
-/

namespace ResourceSymbols

/-- A way to spell characters by octets. -/
inductive Charset
  /-- One of the encodings of Unicode. -/
  | unicode (name : String) (e : Text.Encoding)
  | page (p : Charset.Page)
  | wide (w : Charset.Wide)

namespace Charset

/-- The name of a charset. -/
def name : Charset → String
  | .unicode name _ => name
  | .page p => p.name
  | .wide w => w.name

/-- The text that the octets spell, if they spell one. -/
def decode? : Charset → List UInt8 → Option (List Char)
  | .unicode _ e, octets => e.decode? octets
  | .page p, octets => p.decode? octets
  | .wide w, octets => w.spelling.readAll octets

/-- Whether the charset is a page that spells most texts like another one. -/
def resembles : Charset → Charset → Bool
  | .page p, .page q => p.relatives.contains q.name || q.relatives.contains p.name
  | _, _ => false

/-- The languages that a text of the charset may be in: a page of letters that are not
Latin has those that use its letters. -/
def candidates : Charset → Text.Likeness.Candidates
  | .unicode _ _ => .all
  | .page p =>
    match p.block with
    | some block => .listed (Text.languagesIn block)
    | none => .latin
  | .wide w =>
    .listed (Text.languages.filter fun l => l.name == w.language && l.writing == 0)

/-- UTF-8 without a mark. -/
def utf8 : Charset := .unicode "utf-8" (.utf8 false)

/-- The encodings of Unicode, UTF-8 apart. -/
def encodings : List Charset := [
  .unicode "utf-16-be" (.utf16 true false), .unicode "utf-16-le" (.utf16 false false),
  .unicode "utf-32-be" (.utf32 true false), .unicode "utf-32-le" (.utf32 false false)]

/-- The charsets of scripts with many characters. -/
def scripts : List Wide :=
  Big5.charsets ++ ShiftJis.charsets ++ EucJp.charsets ++ Hangul.charsets ++ Gb18030.charsets

/-- The charsets in the order of their names, UTF-8 apart. -/
def all : List Charset :=
  (encodings ++ scripts.map wide ++ pages.map page).mergeSort fun a b => decide (a.name ≤ b.name)

/-- The charset of the given name. -/
def ofName? (name : String) : Option Charset := (utf8 :: all).find? (·.name == name)

end Charset

end ResourceSymbols
