import ResourceSymbols.Json.Members
import ResourceSymbols.Json.Misuse
import ResourceSymbols.Json.Shown
import ResourceSymbols.Symbol.Word
import ResourceSymbols.Text.Blank
import ResourceSymbols.Text.Cut
import ResourceSymbols.Text.Lines

/-!
# Text templates

A template is text with slots.  A slot stands between double braces and is filled
with the value of a name; with the filter `symbol` the value has to be a text and
is written as a symbol.
-/

namespace ResourceSymbols.Symbol

/-- A part of a template. -/
inductive Part
  | literal (text : String)
  | slot (name : String) (asSymbol : Bool)
deriving DecidableEq, Repr

/-- A text with slots. -/
abbrev Template := List Part

/-- Why a template was not filled. -/
inductive TemplateError
  /-- There is no template of that name. -/
  | missing (name : String)
  /-- A slot names nothing. -/
  | undefined (name : String)
  /-- A value cannot stand in its slot. -/
  | misuse (m : Json.Misuse)
deriving DecidableEq, Repr

/-- The reason in words. -/
def TemplateError.reason : TemplateError → String
  | missing name => name
  | undefined name => s!"'{name}' is undefined"
  | misuse m => m.message

/-- The error about the named template in words. -/
def TemplateError.message (template : String) (e : TemplateError) : String :=
  s!"Failed to render template {template}: {e.reason}"

namespace Template

/-- The characters before and after the first pair `ab`. -/
def cutPair (a b : Char) : List Char → Option (List Char × List Char)
  | [] => none
  | [_] => none
  | x :: y :: rest =>
    if x = a ∧ y = b then some ([], rest)
    else (cutPair a b (y :: rest)).map fun p => (x :: p.1, p.2)

/-- The slot that stands between two double braces. -/
def slotOf (inner : List Char) : Part :=
  match Text.pieces '|' inner with
  | [name, _] => .slot (String.ofList (Text.trimBoth Text.isBlank name)) true
  | _ => .slot (String.ofList (Text.trimBoth Text.isBlank inner)) false

/-- The parts of a template text, which has at most as many as its measure. -/
def parts : Nat → List Char → Template
  | 0, cs => [.literal (String.ofList cs)]
  | fuel + 1, cs =>
    match cutPair '\x7b' '\x7b' cs with
    | none => [.literal (String.ofList cs)]
    | some (before, rest) =>
      match cutPair '\x7d' '\x7d' rest with
      | none => [.literal (String.ofList cs)]
      | some (inner, after) =>
        .literal (String.ofList before) :: slotOf inner :: parts fuel after

/-- The template that the text describes. -/
def ofText (text : String) : Template :=
  let cs := Text.foldLineEnds text.toList
  parts cs.length cs

/-- The text of a part, its slot filled from the context. -/
def fillPart (context : Json.Members) : Part → Except TemplateError String
  | .literal text => .ok text
  | .slot name asSymbol =>
    match context.get? name with
    | none => .error (.undefined name)
    | some v =>
      if asSymbol then
        match v with
        | .text s => .ok (transform s)
        | _ => .error (.misuse (.noOperation v.kindName "translate"))
      else
        match v.shown? with
        | some s => .ok s
        | none => .error (.misuse .digitLimit)

/-- The text of the template, its slots filled from the context. -/
def fill (template : Template) (context : Json.Members) : Except TemplateError String :=
  (template.mapM (fillPart context)).map String.join

end Template

/-- Fills the named one of the given templates. -/
def fillNamed (templates : Json.Members) (name : String) (context : Json.Members) :
    Except TemplateError String :=
  match (templates.get? name).bind Json.Value.text? with
  | none => .error (.missing name)
  | some text => (Template.ofText text).fill context

end ResourceSymbols.Symbol
