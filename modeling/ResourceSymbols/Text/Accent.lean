/-!
# Accents

Letters that carry an acute, a grave, a circumflex, a cedilla, a diaeresis, a
tilde, a macron or a ring, and the letter that is left when the last mark is taken
off.
-/

namespace ResourceSymbols.Text

/-- Letters with the accented forms of each. -/
def accentedForms : List (Char × String) := [
  ('A', "ÀÁÂÃÄÅĀ"), ('C', "ÇĆĈ"), ('E', "ÈÉÊËĒȨḘḚẼ"), ('I', "ÌÍÎÏĨĪḬ"), ('N', "ÑŃŅǸṊ"),
  ('O', "ÒÓÔÕÖŌ"), ('U', "ÙÚÛÜŨŪŮṲṴṶ"), ('Y', "ÝŶŸȲỲỸ"), ('a', "àáâãäåā"), ('c', "çćĉ"),
  ('e', "èéêëēȩḙḛẽ"), ('i', "ìíîïĩīḭ"), ('n', "ñńņǹṋ"), ('o', "òóôõöō"),
  ('u', "ùúûüũūůṳṵṷ"), ('y', "ýÿŷȳẙỳỹ"), ('G', "ĜĢǴḠ"), ('g', "ĝģǵḡ"), ('H', "ĤḦḨ"),
  ('h', "ĥḧḩ"), ('J', "Ĵ"), ('j', "ĵ"), ('K', "ĶḰ"), ('k', "ķḱ"), ('L', "ĹĻḼ"),
  ('l', "ĺļḽ"), ('R', "ŔŖ"), ('r', "ŕŗ"), ('S', "ŚŜŞ"), ('s', "śŝş"), ('T', "ŢṰ"),
  ('t', "ţṱẗ"), ('W', "ŴẀẂẄ"), ('w', "ŵẁẃẅẘ"), ('Z', "ŹẐ"), ('z', "źẑ"), ('Ü', "ǕǗǙǛ"),
  ('ü', "ǖǘǚǜ"), ('Ä', "Ǟ"), ('ä', "ǟ"), ('Æ', "ǢǼ"), ('æ', "ǣǽ"), ('Å', "Ǻ"), ('å', "ǻ"),
  ('Ö', "Ȫ"), ('ö', "ȫ"), ('Õ', "ȬṌṎ"), ('õ', "ȭṍṏ"), ('ϒ', "ϓϔ"), ('Е', "Ѐ"),
  ('И', "ЍӢӤ"), ('е', "ѐ"), ('и', "ѝӣӥ"), ('А', "Ӓ"), ('а', "ӓ"), ('Ә', "Ӛ"), ('ә', "ӛ"),
  ('Ж', "Ӝ"), ('ж', "ӝ"), ('З', "Ӟ"), ('з', "ӟ"), ('О', "Ӧ"), ('о', "ӧ"), ('Ө', "Ӫ"),
  ('ө', "ӫ"), ('Э', "Ӭ"), ('э', "ӭ"), ('У', "ӮӰ"), ('у', "ӯӱ"), ('Ч', "Ӵ"), ('ч', "ӵ"),
  ('Ы', "Ӹ"), ('ы', "ӹ"), ('Ç', "Ḉ"), ('ç', "ḉ"), ('D', "ḐḒ"), ('d', "ḑḓ"), ('Ē', "ḔḖ"),
  ('ē', "ḕḗ"), ('Ȩ', "Ḝ"), ('ȩ', "ḝ"), ('Ï', "Ḯ"), ('ï', "ḯ"), ('M', "Ḿ"), ('m', "ḿ"),
  ('Ō', "ṐṒ"), ('ō', "ṑṓ"), ('P', "Ṕ"), ('p', "ṕ"), ('Ś', "Ṥ"), ('ś', "ṥ"), ('Ũ', "Ṹ"),
  ('ũ', "ṹ"), ('Ū', "Ṻ"), ('ū', "ṻ"), ('V', "Ṽ"), ('v', "ṽ"), ('X', "Ẍ"), ('x', "ẍ"),
  ('Â', "ẤẦẨẪ"), ('â', "ấầẩẫ"), ('Ạ', "Ậ"), ('ạ', "ậ"), ('Ê', "ẾỀỂỄ"), ('ê', "ếềểễ"),
  ('Ẹ', "Ệ"), ('ẹ', "ệ"), ('Ô', "ỐỒỔỖ"), ('ô', "ốồổỗ"), ('Ọ', "Ộ"), ('ọ', "ộ"), ('α', "ᾱ"),
  ('Α', "Ᾱ"), ('ι', "ῑ"), ('Ι', "Ῑ"), ('υ', "ῡ"), ('Υ', "Ῡ"), ('𐺱', "𐺱")]

/-- The letter under the accent of `c`, if `c` carries one. -/
def unaccented? (c : Char) : Option Char :=
  (accentedForms.find? fun e => e.2.contains c).map Prod.fst

/-- Whether `c` is a letter with an accent. -/
def isAccented (c : Char) : Bool := (unaccented? c).isSome

end ResourceSymbols.Text
