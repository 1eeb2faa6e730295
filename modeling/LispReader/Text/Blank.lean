import LispReader.Text.CodePoint

/-! Blanks of Unicode 14.0: the code points with the white space property or of a separator
category, together with the four information separators 0x1C to 0x1F. -/

namespace LispReader

/-- The blank code points, ascending. -/
def blankPoints : List Nat :=
  [0x09, 0x0A, 0x0B, 0x0C, 0x0D, 0x1C, 0x1D, 0x1E, 0x1F, 0x20, 0x85, 0xA0, 0x1680,
    0x2000, 0x2001, 0x2002, 0x2003, 0x2004, 0x2005, 0x2006, 0x2007, 0x2008, 0x2009, 0x200A,
    0x2028, 0x2029, 0x202F, 0x205F, 0x3000]

/-- Whether a code point is blank. -/
def CodePoint.isBlank (c : CodePoint) : Bool :=
  blankPoints.contains c.val

end LispReader
