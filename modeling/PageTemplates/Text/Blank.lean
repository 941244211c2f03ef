import PageTemplates.Text.Ranges

/-! # Blank characters

A character is blank when it has the Unicode property `White_Space`. So U+0085 and
U+00A0 are blank, while U+FEFF and U+200B are not.
-/

namespace PageTemplates.Text

/-- The characters with the property `White_Space`. -/
def blankRanges : Ranges :=
  [(0x9, 0xD), (0x20, 0x20), (0x85, 0x85), (0xA0, 0xA0), (0x1680, 0x1680),
   (0x2000, 0x200A), (0x2028, 0x2029), (0x202F, 0x202F), (0x205F, 0x205F),
   (0x3000, 0x3000)]

def isBlank (character : Char) : Bool :=
  blankRanges.contains character.toNat

example : isBlank '\u00A0' = true := rfl

example : isBlank '\uFEFF' = false := rfl

def trimStart (text : List Char) : List Char :=
  text.dropWhile isBlank

def trimEnd (text : List Char) : List Char :=
  (trimStart text.reverse).reverse

/-- The text between its leading and its trailing blanks. -/
def trim (text : List Char) : List Char :=
  trimEnd (trimStart text)

example : trim " a b\n".toList = "a b".toList := by decide

end PageTemplates.Text
