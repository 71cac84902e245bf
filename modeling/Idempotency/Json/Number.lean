import Idempotency.Json.Basic

/-!
# `Idempotency.Json.Number`: reading numbers

A number without point and exponent is an integer when it fits sixty-four
bits, signed or unsigned; zero with a sign and everything larger is a double.

A double comes from a significand and a power of ten. The significand takes
digits as long as it fits sixty-four bits. Of the digits before the point that
no longer fit, only the number counts; of those after it, nothing does. The
double is then `Double.ofDecimal?` of the two.
-/

set_option autoImplicit false

namespace Idempotency.Json

open Idempotency.Text (Symbol)

/-- The value of a decimal digit. -/
def digit? : Symbol → Option Nat
  | .char c => if '0' ≤ c && c ≤ '9' then some (c.toNat - '0'.toNat) else none
  | .stray _ => none

/-- The digits a text starts with, and what follows them. -/
def takeDigits : List Symbol → List Nat × List Symbol
  | [] => ([], [])
  | symbol :: rest =>
    match digit? symbol with
    | some d => let (ds, rest) := takeDigits rest; (d :: ds, rest)
    | none => ([], symbol :: rest)

/-- The largest significand, and the largest integer. -/
def maxSignificand : Nat := 18446744073709551615

/-- Digits gathered so far: `significand · 10 ^ exponent`. A full significand
takes no more digits. -/
structure Gathered where
  significand : Nat
  exponent : Int
  full : Bool

/-- Takes a digit before the point. -/
def Gathered.whole (g : Gathered) (d : Nat) : Gathered :=
  if !g.full && g.significand * 10 + d ≤ maxSignificand then
    { g with significand := g.significand * 10 + d }
  else { g with exponent := g.exponent + 1, full := true }

/-- Takes a digit after the point. -/
def Gathered.decimal (g : Gathered) (d : Nat) : Gathered :=
  if !g.full && g.significand * 10 + d ≤ maxSignificand then
    { g with significand := g.significand * 10 + d, exponent := g.exponent - 1 }
  else { g with full := true }

/-- The double of what was gathered. -/
def Gathered.double (g : Gathered) (negative : Bool) : Except Error Number :=
  let magnitude := Double.ofDecimal? g.significand g.exponent
  match magnitude.bind fun m => Number.ofDouble? (Double.ofMagnitude negative m) with
  | some n => .ok n
  | none => .error .numberOutOfRange

/-- The number a run of digits alone stands for. -/
def Gathered.integer (g : Gathered) (negative : Bool) : Except Error Number :=
  if g.full then g.double negative
  else if negative then
    if 0 < g.significand && g.significand ≤ 9223372036854775808 then .ok (.integer (-g.significand))
    else g.double true
  else .ok (.integer g.significand)

/-- The value of a list of decimal digits. -/
def digitsValue (ds : List Nat) : Nat := ds.foldl (fun n d => n * 10 + d) 0

/-- Reads the sign and the digits of an exponent, after its letter. -/
def readExponent (g : Gathered) (negative : Bool) : Reader Number := fun input =>
  let (down, input) : Bool × List Symbol :=
    match input with
    | .char '+' :: rest => (false, rest)
    | .char '-' :: rest => (true, rest)
    | input => (false, input)
  match takeDigits input with
  | ([], []) => .error .endInValue
  | ([], _) => .error .invalidNumber
  | (ds, rest) => do
    let shift : Int := digitsValue ds
    let number ←
      { g with exponent := if down then g.exponent - shift else g.exponent + shift }.double negative
    .ok (number, rest)

/-- Reads what may follow the digits of a double: an exponent. -/
def readScale (g : Gathered) (negative : Bool) : Reader Number
  | .char 'e' :: rest => readExponent g negative rest
  | .char 'E' :: rest => readExponent g negative rest
  | rest => do
    let number ← g.double negative
    .ok (number, rest)

/-- Reads the digits after a point. A significand that is full before the
point takes digits again after it, if they fit. -/
def readDecimals (g : Gathered) (negative : Bool) : Reader Number := fun input =>
  match takeDigits input with
  | ([], []) => .error .endInValue
  | ([], _) => .error .invalidNumber
  | (ds, rest) => readScale (ds.foldl Gathered.decimal { g with full := false }) negative rest

/-- Reads a number whose sign has been read. A zero in front stands alone. -/
def readNumber (negative : Bool) : Reader Number := fun input =>
  match takeDigits input with
  | ([], []) => .error .endInValue
  | ([], _) => .error .invalidNumber
  -- A zero in front of other digits.
  | (0 :: _ :: _, _) => .error .invalidNumber
  | (ds, rest) =>
    let g := ds.foldl Gathered.whole ⟨0, 0, false⟩
    match rest with
    | .char '.' :: rest => readDecimals g negative rest
    | .char 'e' :: rest => readExponent g negative rest
    | .char 'E' :: rest => readExponent g negative rest
    | rest => do
      let number ← g.integer negative
      .ok (number, rest)

/-- Passes over an exponent, after its letter. -/
def skipExponent (input : List Symbol) : Except Error (List Symbol) :=
  let input :=
    match input with
    | .char '+' :: rest => rest
    | .char '-' :: rest => rest
    | input => input
  match takeDigits input with
  | ([], _) => .error .invalidNumber
  | (_, rest) => .ok rest

/-- Passes over an exponent, if one follows. -/
def skipScale (input : List Symbol) : Except Error (List Symbol) :=
  match input with
  | .char 'e' :: rest => skipExponent rest
  | .char 'E' :: rest => skipExponent rest
  | rest => .ok rest

/-- Passes over a number whose sign has been read. -/
def skipNumber (input : List Symbol) : Except Error (List Symbol) :=
  match takeDigits input with
  | ([], _) => .error .invalidNumber
  | (0 :: _ :: _, _) => .error .invalidNumber
  | (_, .char '.' :: rest) =>
    match takeDigits rest with
    | ([], _) => .error .invalidNumber
    | (_, rest) => skipScale rest
  | (_, rest) => skipScale rest

end Idempotency.Json
