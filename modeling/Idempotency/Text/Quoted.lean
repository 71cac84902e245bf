import Idempotency.Text.Printable

/-!
# `Idempotency.Text.Quoted`: a text between quotation marks

Quoted text is for people to read: it shows exactly where the text starts and
ends and leaves nothing invisible. A quotation mark and a backslash take a
backslash, as do the four controls with a letter of their own; whatever does
not show as itself is written by its number.
-/

set_option autoImplicit false

namespace Idempotency.Text

/-- A code point in lower-case hexadecimal digits, without leading zeros. -/
def hexNumber (n : Nat) : List Char := Nat.toDigits 16 n

/-- How a character shows inside quotation marks. -/
def quotedChar (c : Char) : List Char :=
  if c = '"' then ['\\', '"']
  else if c = '\\' then ['\\', '\\']
  else if c = '\n' then ['\\', 'n']
  else if c = '\r' then ['\\', 'r']
  else if c = '\t' then ['\\', 't']
  else if c = '\x00' then ['\\', '0']
  else if isPrintable c then [c]
  else ['\\', 'u', '\x7b'] ++ hexNumber c.toNat ++ ['\x7d']

/-- The text between quotation marks. -/
def quoted (s : String) : String :=
  String.ofList ('"' :: s.toList.flatMap quotedChar ++ ['"'])

end Idempotency.Text
