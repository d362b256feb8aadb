/-!
# Blank characters

The Unicode characters that count as blank around a number's text: the separators of general
category Zs and the characters of the bidirectional classes B, S and WS, as the Unicode
Character Database 14.0 lists them. They are 29 code points.
-/

namespace Monkey

namespace Text

/-- The code points of the blank characters, ascending. -/
def blankCodes : List Nat :=
  [0x09, 0x0A, 0x0B, 0x0C, 0x0D, 0x1C, 0x1D, 0x1E, 0x1F, 0x20, 0x85, 0xA0, 0x1680,
   0x2000, 0x2001, 0x2002, 0x2003, 0x2004, 0x2005, 0x2006, 0x2007, 0x2008, 0x2009, 0x200A,
   0x2028, 0x2029, 0x202F, 0x205F, 0x3000]

/-- Whether a character is blank. -/
def isBlank (c : Char) : Bool := blankCodes.contains c.toNat

example : blankCodes.length = 29 := by decide

end Text

end Monkey
