import ResolverHooks.Text.Ranges

/-! Blank characters: those with the white space property, and the four information separators. -/
namespace ResolverHooks.Text

def blankRanges : Ranges :=
  [(0x9, 0xD), (0x1C, 0x20), (0x85, 0x85), (0xA0, 0xA0), (0x1680, 0x1680), (0x2000, 0x200A),
   (0x2028, 0x2029), (0x202F, 0x202F), (0x205F, 0x205F), (0x3000, 0x3000)]

def isBlank (c : Char) : Bool := blankRanges.holds c

/-- A text of blank characters only, the empty text among them. -/
def isBlankText (s : String) : Bool := s.toList.all isBlank

def dropEndBlanks (cs : List Char) : List Char := (cs.reverse.dropWhile isBlank).reverse

/-- Drops blanks at both ends. -/
def stripBlanks (cs : List Char) : List Char := dropEndBlanks (cs.dropWhile isBlank)

/-- The parts of a text that blanks divide. -/
def splitBlanks (cs : List Char) : List (List Char) := (cs.splitOnP isBlank).filter (!·.isEmpty)

end ResolverHooks.Text
