/-!
# `Idempotency.Decimal.Double`: double-precision numbers

A `Double` is its sixty-four bits: sign, eleven bits of exponent, fifty-two of
fraction. Its arithmetic is exact arithmetic on natural numbers followed by
one rounding (`nearest`), so that every step of reading a number can be
computed and reasoned about. Only what reading numbers needs is here: from an
integer, times a power of ten, divided by one.
-/

set_option autoImplicit false

namespace Idempotency

/-- A double-precision number, infinities and not-a-numbers included. -/
structure Double where
  bits : UInt64
  deriving DecidableEq, Inhabited

namespace Double

/-- A power of two. -/
def powerOfTwo (n : Nat) : Nat := Nat.pow 2 n

/-- The number of fractions, the fifty-second power of two. -/
abbrev fractionCount : Nat := 4503599627370496

/-- The place of the sign, the sixty-third power of two. -/
abbrev signBit : Nat := 9223372036854775808

/-- The pattern of plus infinity; every finite magnitude is below it. -/
def infinityBits : Nat := 0x7FF * fractionCount

/-- A sign and a magnitude pattern. -/
def ofMagnitude (negative : Bool) (magnitude : Nat) : Double :=
  ⟨UInt64.ofNat (if negative then magnitude + signBit else magnitude)⟩

/-- Whether the sign bit is set. -/
def isNegative (x : Double) : Bool := signBit ≤ x.bits.toNat

/-- The pattern without its sign. -/
def magnitude (x : Double) : Nat := x.bits.toNat % signBit

/-- Neither an infinity nor a not-a-number. -/
def isFinite (x : Double) : Bool := x.magnitude < infinityBits

/-- The same magnitude with the other sign. -/
def negate (x : Double) : Double := ofMagnitude (!x.isNegative) x.magnitude

/-- Whether a magnitude has the smallest significand of its exponent; the gap
below such a number is half the gap above it. -/
def isBoundary (magnitude : Nat) : Bool :=
  magnitude % fractionCount == 0 && fractionCount < magnitude

/-- The significand and the power of two of a finite magnitude: its value is
`significand · 2 ^ exponent`. -/
def parts (magnitude : Nat) : Nat × Int :=
  let fraction := magnitude % fractionCount
  let exponent : Nat := magnitude / fractionCount
  if exponent = 0 then (fraction, -1074) else (fractionCount + fraction, (exponent : Int) - 1075)

/-- The quotient rounded to a natural number, a half to the even neighbour. -/
def roundQuotient (num den : Nat) : Nat :=
  let q := num / den
  let r := num % den
  if 2 * r < den then q else if den < 2 * r then q + 1 else q + q % 2

/-- `num / den` as a fraction whose value is divided by `2 ^ exponent`. -/
def scaleDown (num den : Nat) (exponent : Int) : Nat × Nat :=
  if 0 ≤ exponent then (num, den * powerOfTwo exponent.toNat)
  else (num * powerOfTwo (-exponent).toNat, den)

/-- The magnitude nearest to `num / den`, a half going to the even pattern.
A value beyond the largest finite number gives `infinityBits` or more. -/
def nearest (num den : Nat) : Nat :=
  if num = 0 then 0
  else
    -- The logarithms fix the quotient up to a factor of two, so divided by
    -- `2 ^ guess` it has fifty-three binary digits, or one more.
    let guess : Int := max (-1074) ((num.log2 : Int) - den.log2 - 53)
    let (n, d) := scaleDown num den guess
    let exponent := if 2 * fractionCount * d ≤ n then guess + 1 else guess
    let (n, d) := scaleDown num den exponent
    -- The pattern of a number above the smallest exponent leaves out the
    -- leading digit of its significand; adding the significand in full carries
    -- that digit into the exponent.
    (exponent + 1074).toNat * fractionCount + roundQuotient n d

/-- A finite magnitude as a fraction. -/
def fraction (magnitude : Nat) : Nat × Nat :=
  let (significand, exponent) := parts magnitude
  if 0 ≤ exponent then (significand * powerOfTwo exponent.toNat, 1)
  else (significand, powerOfTwo (-exponent).toNat)

/-- The product of two finite magnitudes, rounded. -/
def product (a b : Nat) : Nat :=
  let (n₁, d₁) := fraction a
  let (n₂, d₂) := fraction b
  nearest (n₁ * n₂) (d₁ * d₂)

/-- The quotient of two finite magnitudes, rounded; the second is not zero. -/
def quotient (a b : Nat) : Nat :=
  let (n₁, d₁) := fraction a
  let (n₂, d₂) := fraction b
  nearest (n₁ * d₂) (d₁ * n₂)

/-- The magnitude nearest to a power of ten. -/
def powerOfTen (k : Nat) : Nat := nearest (Nat.pow 10 k) 1

/-- Divides by `10 ^ k`, in steps no larger than `10 ^ 308`, the largest power
of ten that is a finite number. After `steps` divisions by it nothing is
left. -/
def descend (steps : Nat) (magnitude k : Nat) : Nat :=
  if k ≤ 308 then quotient magnitude (powerOfTen k)
  else
    match steps with
    | 0 => 0
    | steps + 1 => descend steps (quotient magnitude (powerOfTen 308)) (k - 308)

/-- `significand · 10 ^ exponent` in double precision: the significand is
rounded first, then multiplied or divided by the power of ten, and each step
rounds. `none` when the result is too large. -/
def ofDecimal? (significand : Nat) (exponent : Int) : Option Nat :=
  let start := nearest significand 1
  if 0 ≤ exponent then
    -- No double but zero survives a factor beyond the largest power of ten.
    if 308 < exponent then (if start = 0 then some 0 else none)
    else
      let result := product start (powerOfTen exponent.toNat)
      if result < infinityBits then some result else none
  -- The largest significand is below `10 ^ 20`, so three whole steps take it
  -- below the smallest double.
  else some (descend 3 start (-exponent).toNat)

/-- The double nearest to an integer. -/
def ofInt (i : Int) : Double := ofMagnitude (i < 0) (nearest i.natAbs 1)

/-- Plus infinity, which no decimal text stands for. -/
def infinity : Double := ofMagnitude false infinityBits

/-- A value that is no number. -/
def notANumber : Double := ofMagnitude false (infinityBits + 1)

/-- Zero with its sign set. -/
def negativeZero : Double := ofMagnitude true 0

end Double

end Idempotency
