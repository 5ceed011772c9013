-- Blank characters: the characters with the Unicode White_Space property, which trimming
-- removes from both ends of a text, and a line of nothing else counts as empty.

namespace FluxAverage.Text

/-- Whether a character has the Unicode White_Space property: the controls from tab to
carriage return, the space, next line, no-break space, ogham space mark, the spaces from en
quad to hair space, line and paragraph separator, narrow no-break space, medium mathematical
space and ideographic space. -/
def isBlank (c : Char) : Bool :=
  let n := c.toNat
  (0x09 ≤ n && n ≤ 0x0D) || n == 0x20 || n == 0x85 || n == 0xA0 || n == 0x1680 ||
    (0x2000 ≤ n && n ≤ 0x200A) || n == 0x2028 || n == 0x2029 || n == 0x202F ||
    n == 0x205F || n == 0x3000

/-- The text without blank characters at either end. -/
def trimBlank (s : String) : String :=
  String.ofList ((s.toList.dropWhile isBlank).reverse.dropWhile isBlank).reverse

/-- Whether a text holds blank characters only. -/
def isBlankText (s : String) : Bool := s.toList.all isBlank

end FluxAverage.Text
