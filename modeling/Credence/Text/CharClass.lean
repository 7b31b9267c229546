/-
Character classes of text: words, decimal digits and blanks, over all of
Unicode.  ASCII is decided by cases, everything else by a table.
-/
import Credence.Text.Ranges
import Credence.Text.WordTable
import Credence.Text.DigitTable

namespace Credence.Text

/-- Word characters: letters, marks, digits, connector punctuation such as the
underscore, and the two join controls. -/
def isWord (c : Char) : Bool :=
  if c.toNat < 0x80 then c.isAlphanum || c == '_'
  else inRanges wordRanges c.toNat

/-- Decimal digits of any script. -/
def isDecimal (c : Char) : Bool :=
  if c.toNat < 0x80 then c.isDigit
  else inRanges digitRanges c.toNat

/-- White space, ASCII and beyond. -/
def isBlank (c : Char) : Bool :=
  let code := c.toNat
  (0x09 ≤ code && code ≤ 0x0D) || code == 0x20 || code == 0x85 || code == 0xA0
    || code == 0x1680 || (0x2000 ≤ code && code ≤ 0x200A) || code == 0x2028
    || code == 0x2029 || code == 0x202F || code == 0x205F || code == 0x3000

/-- The characters left when blanks are taken off both ends. -/
def trimChars (s : List Char) : List Char :=
  ((s.dropWhile isBlank).reverse.dropWhile isBlank).reverse

/-- The text without the blanks at its two ends. -/
def trim (s : String) : String :=
  String.ofList (trimChars s.toList)

def isBlankText (s : String) : Bool :=
  s.toList.all isBlank

end Credence.Text
