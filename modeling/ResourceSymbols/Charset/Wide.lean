import ResourceSymbols.Text.Spelling

/-!
# Charsets of scripts with many characters

Scripts with thousands of characters spell most of them by several octets.
-/

namespace ResourceSymbols.Charset

/-- A charset that spells most of its characters by several octets. -/
structure Wide where
  name : String
  /-- The language that it is made for. -/
  language : String
  spelling : Text.Spelling

end ResourceSymbols.Charset
