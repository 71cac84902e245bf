/-!
# `Idempotency.Text.Blank`: white space and trimming

The blank characters are the twenty-five code points with the Unicode
property `White_Space`. Trimming drops them from both ends of a text. A text
is blank when trimming leaves nothing.
-/

set_option autoImplicit false

namespace Idempotency.Text

/-- The code points with the property `White_Space`. -/
def isBlank (c : Char) : Bool :=
  let n := c.toNat
  (9 ≤ n && n ≤ 13) || n == 32 || n == 0x85 || n == 0xA0 || n == 0x1680
    || (0x2000 ≤ n && n ≤ 0x200A) || n == 0x2028 || n == 0x2029 || n == 0x202F
    || n == 0x205F || n == 0x3000

/-- Drops the blanks a text starts with. -/
def trimStart (cs : List Char) : List Char := cs.dropWhile isBlank

/-- Drops the blanks a text ends with. -/
def trimEnd (cs : List Char) : List Char := (trimStart cs.reverse).reverse

/-- Drops the blanks at both ends of a text. -/
def trimChars (cs : List Char) : List Char := trimEnd (trimStart cs)

/-- Drops the blanks at both ends of a text. -/
def trim (s : String) : String := String.ofList (trimChars s.toList)

end Idempotency.Text
