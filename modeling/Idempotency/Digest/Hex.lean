import Idempotency.Text.Utf8

/-!
# `Idempotency.Digest.Hex`: bytes in hexadecimal digits

Two digits a byte, the high one first, in lower case. `Hex.read?` takes digits
of lower case back to bytes and refuses everything else.
-/

set_option autoImplicit false

namespace Idempotency.Hex

/-- The two digits of a byte. -/
def byteText (b : UInt8) : List Char := [Nat.digitChar (b.toNat / 16), Nat.digitChar (b.toNat % 16)]

/-- The digits of bytes. -/
def text (bytes : Bytes) : List Char := bytes.flatMap byteText

/-- The value of a digit. -/
def digit? (c : Char) : Option Nat :=
  if '0' ≤ c && c ≤ '9' then some (c.toNat - '0'.toNat)
  else if 'a' ≤ c && c ≤ 'f' then some (c.toNat - 'a'.toNat + 10)
  else none

/-- The bytes of digits. -/
def read? : List Char → Option Bytes
  | [] => some []
  | [_] => none
  | high :: low :: rest => do
    let h ← digit? high
    let l ← digit? low
    let bytes ← read? rest
    some (UInt8.ofNat (h * 16 + l) :: bytes)

end Idempotency.Hex
