import Shipwright.Text.CodePointSet

/-!
# White space

Property texts are read without the white space around them, where white space
is the set of 25 characters that Unicode calls so.
-/

namespace Shipwright

/-- The characters with the Unicode property White_Space. -/
def whiteSpace : CodePointSet :=
  ⟨[0x9, 0xE, 0x20, 0x21, 0x85, 0x86, 0xA0, 0xA1, 0x1680, 0x1681, 0x2000, 0x200B, 0x2028, 0x202A,
    0x202F, 0x2030, 0x205F, 0x2060, 0x3000, 0x3001]⟩

/-- Whether a character is white space. -/
def isWhiteSpace (c : Char) : Bool := whiteSpace.contains c

/-- A text without its leading and trailing white space. -/
def trim (cs : List Char) : List Char :=
  ((cs.dropWhile isWhiteSpace).reverse.dropWhile isWhiteSpace).reverse

end Shipwright
