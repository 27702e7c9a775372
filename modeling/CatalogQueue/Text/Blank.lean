/-!
Blank characters: the code points with the Unicode White_Space property. Trimming and the
blank runs around a time span use exactly this set, which is wider than ASCII blanks: it holds
the next-line control, the no-break spaces, the ideographic space and the line and paragraph
separators.
-/

namespace CatalogQueue.Text

/-- Code points with the Unicode White_Space property, in increasing order. -/
def blankCodes : List Nat :=
  [0x09, 0x0A, 0x0B, 0x0C, 0x0D, 0x20, 0x85, 0xA0, 0x1680,
   0x2000, 0x2001, 0x2002, 0x2003, 0x2004, 0x2005, 0x2006, 0x2007, 0x2008, 0x2009, 0x200A,
   0x2028, 0x2029, 0x202F, 0x205F, 0x3000]

def isBlank (c : Char) : Bool := blankCodes.contains c.toNat

def dropBlanks (cs : List Char) : List Char := cs.dropWhile isBlank

def trimBlanks (cs : List Char) : List Char := (dropBlanks (dropBlanks cs).reverse).reverse

end CatalogQueue.Text
