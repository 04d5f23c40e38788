import InlineFormula.Text.CodeRanges

/-!
Blank text. A text is blank when every character of it is a space or a separator of lines or
fields; the empty text is blank.
-/

namespace InlineFormula.Text

/-- The code points of white space and of the four information separators. -/
def blankRanges : CodeRanges :=
  [(0x0009, 0x000D), (0x001C, 0x0020), (0x0085, 0x0085), (0x00A0, 0x00A0), (0x1680, 0x1680),
    (0x2000, 0x200A), (0x2028, 0x2029), (0x202F, 0x202F), (0x205F, 0x205F), (0x3000, 0x3000)]

def isBlankChar (char : Char) : Bool := blankRanges.covers char

def isBlank (text : String) : Bool := text.toList.all isBlankChar

end InlineFormula.Text
