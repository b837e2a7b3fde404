/-!
# Blank characters

The characters that Unicode counts as white space.
-/

namespace NodeFeatureOperator.Text

/-- Whether a character is white space. -/
def isBlank (c : Char) : Bool :=
  let n := c.toNat
  (9 ≤ n && n ≤ 13) || n = 32 || n = 0x85 || n = 0xA0 || n = 0x1680 || (0x2000 ≤ n && n ≤ 0x200A)
    || n = 0x2028 || n = 0x2029 || n = 0x202F || n = 0x205F || n = 0x3000

/-- What follows the blanks at the start of a text. -/
def skipBlank (cs : List Char) : List Char := cs.dropWhile isBlank

end NodeFeatureOperator.Text
