/-!
# `Idempotency.Decimal.Whole`: whole numbers in base ten

A whole number has no zeros in front; `padded` puts some there to reach a
width.
-/

set_option autoImplicit false

namespace Idempotency.Decimal

/-- A natural number. -/
def decimal (n : Nat) : List Char := Nat.toDigits 10 n

/-- An integer, with a sign only if it is negative. -/
def integer (i : Int) : List Char :=
  if i < 0 then '-' :: decimal i.natAbs else decimal i.natAbs

/-- Zeros. -/
def zeros (n : Nat) : List Char := List.replicate n '0'

/-- A natural number with zeros in front up to a width. -/
def padded (width n : Nat) : List Char :=
  let ds := decimal n
  zeros (width - ds.length) ++ ds

end Idempotency.Decimal
