import PageMarkup.Text.CodeRanges

/-!
# White space

The characters with the White_Space property of Unicode, and the removal of such characters from
both ends of a text. A text that consists of white space only has nothing left.
-/

namespace PageMarkup.Text

/-- The code points with the White_Space property. -/
def blankRanges : CodeRanges :=
  [(0x09, 0x0D), (0x20, 0x20), (0x85, 0x85), (0xA0, 0xA0), (0x1680, 0x1680), (0x2000, 0x200A),
   (0x2028, 0x2029), (0x202F, 0x202F), (0x205F, 0x205F), (0x3000, 0x3000)]

/-- Whether a character is white space. -/
def isBlank (c : Char) : Bool := blankRanges.holds c

/-- The text without the white space at its beginning and at its end. -/
def trim (text : List Char) : List Char :=
  ((text.dropWhile isBlank).reverse.dropWhile isBlank).reverse

end PageMarkup.Text
