import TagMarkup.Text.Ranges

/-!
# White space

The white space of Unicode. Two of its characters, the line feed and the carriage return, end a
line; the others are spaces.
-/

namespace TagMarkup

/-- The white space characters of Unicode. -/
def whiteSpaceRanges : Ranges :=
  [(0x9, 0xD), (0x20, 0x20), (0x85, 0x85), (0xA0, 0xA0), (0x1680, 0x1680), (0x2000, 0x200A),
   (0x2028, 0x2029), (0x202F, 0x202F), (0x205F, 0x205F), (0x3000, 0x3000)]

/-- Whether the character is white space. -/
def isWhiteSpace (c : Char) : Bool := whiteSpaceRanges.covers c

/-- Whether the character ends a line. -/
def isLineEnd (c : Char) : Bool := c = '\n' || c = '\r'

/-- Whether the character is white space within a line. -/
def isSpace (c : Char) : Bool := isWhiteSpace c && !isLineEnd c

end TagMarkup
