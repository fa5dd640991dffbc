import Headline.Text.Ranges

/-!
# White space

The characters that separate words: those with the white space property of
Unicode, and the four information separators U+001C to U+001F.
-/

namespace Headline.Text

def blankRanges : Ranges :=
  [(0x9, 0xD), (0x1C, 0x20), (0x85, 0x85), (0xA0, 0xA0), (0x1680, 0x1680), (0x2000, 0x200A),
   (0x2028, 0x2029), (0x202F, 0x202F), (0x205F, 0x205F), (0x3000, 0x3000)]

def isBlank (c : Char) : Bool := blankRanges.has c

/-- The characters without the white space at the front. -/
def dropBlank (cs : List Char) : List Char := cs.dropWhile isBlank

/-- The characters without the white space at either end. -/
def trimBlank (cs : List Char) : List Char :=
  (dropBlank (dropBlank cs).reverse).reverse

end Headline.Text
