import Lisplet.Text.Ranges

/-! Blank characters: the white space that separates tokens and is trimmed off settings. -/

set_option autoImplicit false

namespace Lisplet.Text

def blankRanges : List (Nat × Nat) := [
  (0x0009, 0x000D), (0x001C, 0x0020), (0x0085, 0x0085), (0x00A0, 0x00A0), (0x1680, 0x1680),
  (0x2000, 0x200A), (0x2028, 0x2029), (0x202F, 0x202F), (0x205F, 0x205F), (0x3000, 0x3000)]

/-- White space, line breaks and the information separators included. -/
def isBlank (c : Char) : Bool :=
  covers blankRanges c.toNat

def trim (text : List Char) : List Char :=
  ((text.dropWhile isBlank).reverse.dropWhile isBlank).reverse

end Lisplet.Text
