import ResourceSymbols.Number.Literal
import ResourceSymbols.Text.Blank
import ResourceSymbols.Text.Cut
import ResourceSymbols.Text.Sigma
import ResourceSymbols.Text.Quoted

/-!
# Styles

A style is named in words: attributes, a colour, a colour to stand on, a link.
Styles that come to the same are written in one way, and so an opening tag and a
closing one may name a style in different words.

## Main results

* `get?_set` — what is said last of an attribute holds.
-/

namespace ResourceSymbols.Console

/-- Why a text names no style. -/
inductive StyleFault
  /-- A word has no meaning where it stands. -/
  | unknown
  /-- A component of a colour is no number. -/
  | noNumber (component : String)
  /-- A component of a colour has too many digits. -/
  | tooLong (digits : Nat)
deriving DecidableEq, Repr

/-- The fault in words. -/
def StyleFault.message : StyleFault → String
  | unknown => "unknown style"
  | noNumber component =>
    s!"invalid literal for int() with base 10: {Text.quoted component}"
  | tooLong digits => Number.tooManyDigitsText digits

/-! ## Colours -/

/-- The names of colours, several to a line. -/
def colourNames : List String := [
  "black red green yellow blue magenta cyan white bright_black bright_red bright_green",
  "bright_yellow bright_blue bright_magenta bright_cyan bright_white grey0 gray0 navy_blue",
  "dark_blue blue3 blue1 dark_green deep_sky_blue4 dodger_blue3 dodger_blue2 green4",
  "spring_green4 turquoise4 deep_sky_blue3 dodger_blue1 green3 spring_green3 dark_cyan",
  "light_sea_green deep_sky_blue2 deep_sky_blue1 spring_green2 cyan3 dark_turquoise turquoise2",
  "green1 spring_green1 medium_spring_green cyan2 cyan1 dark_red deep_pink4 purple4 purple3",
  "blue_violet orange4 grey37 gray37 medium_purple4 slate_blue3 royal_blue1 chartreuse4",
  "dark_sea_green4 pale_turquoise4 steel_blue steel_blue3 cornflower_blue chartreuse3",
  "cadet_blue sky_blue3 steel_blue1 pale_green3 sea_green3 aquamarine3 medium_turquoise",
  "chartreuse2 sea_green2 sea_green1 aquamarine1 dark_slate_gray2 dark_magenta dark_violet",
  "purple light_pink4 plum4 medium_purple3 slate_blue1 yellow4 wheat4 grey53 gray53",
  "light_slate_grey light_slate_gray medium_purple light_slate_blue dark_olive_green3",
  "dark_sea_green light_sky_blue3 sky_blue2 dark_sea_green3 dark_slate_gray3 sky_blue1",
  "chartreuse1 light_green pale_green1 dark_slate_gray1 red3 medium_violet_red magenta3",
  "dark_orange3 indian_red hot_pink3 medium_orchid3 medium_orchid medium_purple2 dark_goldenrod",
  "light_salmon3 rosy_brown grey63 gray63 medium_purple1 gold3 dark_khaki navajo_white3 grey69",
  "gray69 light_steel_blue3 light_steel_blue yellow3 dark_sea_green2 light_cyan3",
  "light_sky_blue1 green_yellow dark_olive_green2 dark_sea_green1 pale_turquoise1 deep_pink3",
  "magenta2 hot_pink2 orchid medium_orchid1 orange3 light_pink3 pink3 plum3 violet",
  "light_goldenrod3 tan misty_rose3 thistle3 plum2 khaki3 light_goldenrod2 light_yellow3 grey84",
  "gray84 light_steel_blue1 yellow2 dark_olive_green1 honeydew2 light_cyan1 red1 deep_pink2",
  "deep_pink1 magenta1 orange_red1 indian_red1 hot_pink dark_orange salmon1 light_coral",
  "pale_violet_red1 orchid2 orchid1 orange1 sandy_brown light_salmon1 light_pink1 pink1 plum1",
  "gold1 navajo_white1 misty_rose1 thistle1 yellow1 light_goldenrod1 khaki1 wheat1 cornsilk1",
  "grey100 gray100 grey3 gray3 grey7 gray7 grey11 gray11 grey15 gray15 grey19 gray19 grey23",
  "gray23 grey27 gray27 grey30 gray30 grey35 gray35 grey39 gray39 grey42 gray42 grey46 gray46",
  "grey50 gray50 grey54 gray54 grey58 gray58 grey62 gray62 grey66 gray66 grey70 gray70 grey74",
  "gray74 grey78 gray78 grey82 gray82 grey85 gray85 grey89 gray89 grey93 gray93"]

/-- Whether the word is the name of a colour. -/
def isColourName (word : String) : Bool :=
  word = "default" || colourNames.any fun line => (Text.splitText ' ' line).contains word

/-- Whether `c` is a hexadecimal digit in small letters. -/
def isSmallHex (c : Char) : Bool :=
  (decide ('0' ≤ c) && decide (c ≤ '9')) || (decide ('a' ≤ c) && decide (c ≤ 'f'))

/-- What stands between the opening, which ends in a parenthesis, and a
parenthesis at the end. -/
def argument? (opening : String) (word : List Char) : Option (List Char) :=
  if word.take opening.length = opening.toList ∧ word.getLast? = some ')' ∧
      opening.length < word.length
  then some (word.drop opening.length).dropLast
  else none

/-- The value of a component of a colour. -/
def component (digits : List Char) : Except StyleFault Int :=
  if Number.digitLimit < digits.length then .error (.tooLong digits.length)
  else
    match digits.mapM Text.decimalDigit? with
    | some (d :: ds) => .ok (Number.Literal.ofDigits 10 (d :: ds))
    | _ => .error (.noNumber (String.ofList digits))

/-- Checks the number of a colour in the palette. -/
def checkPalette (digits : List Char) : Except StyleFault Unit :=
  if digits.all (fun c => decide ('0' ≤ c) && decide (c ≤ '9')) ∧ 1 ≤ digits.length ∧
      digits.length ≤ 3 ∧ Nat.ofDigitChars 10 digits 0 ≤ 255
  then .ok () else .error .unknown

/-- Checks the components of a colour. -/
def checkComponents (text : List Char) : Except StyleFault Unit :=
  if text.isEmpty || !text.all (fun c => c = ',' || (Text.decimalDigit? c).isSome) then
    .error .unknown
  else
    match Text.pieces ',' text with
    | [red, green, blue] => do
      let values ← [red, green, blue].mapM component
      if values.all fun n => decide (n ≤ 255) then .ok () else .error .unknown
    | _ => .error .unknown

/-- The colour that a word names, in small letters. -/
def colour (word : List Char) : Except StyleFault String := do
  let small := Text.lowerText word
  let name := String.ofList small
  if isColourName name then return name
  else
    match small with
    | '#' :: digits =>
      if digits.length = 6 ∧ digits.all isSmallHex then return name else .error .unknown
    | _ =>
      match argument? "color(" small, argument? "rgb(" small with
      | some digits, _ => (checkPalette digits).map fun _ => name
      | none, some text => (checkComponents text).map fun _ => name
      | none, none => .error .unknown

/-! ## Attributes -/

/-- The attributes of a style, in the order in which a style lists them. -/
def attributeOrder : List String :=
  ["bold", "dim", "italic", "underline", "blink", "blink2", "reverse", "conceal", "strike",
    "underline2", "frame", "encircle", "overline"]

/-- The short names of attributes. -/
def shortNames : List (String × String) :=
  [("d", "dim"), ("b", "bold"), ("i", "italic"), ("u", "underline"), ("r", "reverse"),
    ("c", "conceal"), ("s", "strike"), ("uu", "underline2"), ("o", "overline")]

/-- The attribute that a word names. -/
def attribute? (word : String) : Option String :=
  match shortNames.lookup word with
  | some name => some name
  | none => if attributeOrder.contains word then some word else none

/-! ## Styles -/

/-- A style: the attributes it turns on or off, its colours and its link. -/
structure Style where
  switches : List (String × Bool) := []
  colour : Option String := none
  background : Option String := none
  link : Option String := none
deriving DecidableEq, Repr

namespace Style

/-- Turns an attribute on or off. -/
def set (s : Style) (name : String) (on : Bool) : Style :=
  { s with switches := (name, on) :: s.switches }

/-- What the style says of an attribute. -/
def get? (s : Style) (name : String) : Option Bool := s.switches.lookup name

theorem get?_set (s : Style) (a b : String) (on : Bool) :
    (s.set a on).get? b = if b = a then some on else s.get? b := by
  by_cases h : b = a
  · subst h; simp [set, get?]
  · have hb : (b == a) = false := by simpa using h
    simp [set, get?, List.lookup_cons, hb, h]

/-- The words of the style, in order. -/
def words (s : Style) : List String :=
  (attributeOrder.filterMap fun a => (s.get? a).map fun on => if on then a else "not " ++ a) ++
    s.colour.toList ++ (s.background.map ("on " ++ ·)).toList ++
    (s.link.map ("link " ++ ·)).toList

/-- The style in words. -/
def name (s : Style) : String :=
  if s.words.isEmpty then "none" else " ".intercalate s.words

/-- Adds what the words say to the style. -/
def addWords (s : Style) : List (List Char) → Except StyleFault Style
  | [] => .ok s
  | word :: rest =>
    let small := String.ofList (Text.lowerText word)
    if small = "on" then
      match rest with
      | [] => .error .unknown
      | w :: rest => do
        let c ← Console.colour w
        addWords { s with background := some c } rest
    else if small = "not" then
      match rest with
      | [] => .error .unknown
      | w :: rest =>
        match attribute? (String.ofList w) with
        | some a => addWords (s.set a false) rest
        | none => .error .unknown
    else if small = "link" then
      match rest with
      | [] => .error .unknown
      | w :: rest => addWords { s with link := some (String.ofList w) } rest
    else
      match attribute? small with
      | some a => addWords (s.set a true) rest
      | none => do
        let c ← Console.colour (Text.lowerText word)
        addWords { s with colour := some c } rest

/-- The style that a text names. -/
def read (cs : List Char) : Except StyleFault Style :=
  if Text.trimBoth Text.isBlank cs = "none".toList then .ok {} else addWords {} (Text.words cs)

end Style

/-- The name of a style in the form that tags are compared in.  A text that names no
style is taken as it is, in small letters. -/
def styleName (cs : List Char) : Except StyleFault String :=
  match Style.read cs with
  | .ok s => .ok s.name
  | .error .unknown => .ok (String.ofList (Text.lowerText (Text.trimBoth Text.isBlank cs)))
  | .error f => .error f

end ResourceSymbols.Console
