import Idempotency.Decimal.Double
import Idempotency.Decimal.Whole

/-!
# `Idempotency.Decimal.Shortest`: the fewest digits that read back

A finite double stands for every real that rounds to it, an interval around
its value. Of all decimals in that interval, `shortest` finds one with the
fewest digits, and of those the nearest to the value. It goes through the
grids of multiples of `10 ^ k` from coarse to fine; if any point of a grid is
in the interval, one of the value's two neighbours on that grid is.

How the digits are laid out is the writer's choice, a `Layout`.
-/

set_option autoImplicit false

namespace Idempotency.Decimal

/-- `digits · 10 ^ exponent`. -/
structure Digits where
  digits : Nat
  exponent : Int
  deriving DecidableEq

/-- An interval of reals and a point inside it, as multiples of
`unit / 4` with `unit = 2 ^ exponent`; `closed` says whether the ends
belong to it. -/
structure Target where
  low : Nat
  value : Nat
  high : Nat
  exponent : Int
  closed : Bool

/-- The reals that round to a finite magnitude. The ends round to the even
pattern. -/
def Target.ofMagnitude (magnitude : Nat) : Target :=
  let (significand, exponent) := Double.parts magnitude
  { low := 4 * significand - (if Double.isBoundary magnitude then 1 else 2)
    value := 4 * significand
    high := 4 * significand + 2
    exponent := exponent - 2
    closed := significand % 2 == 0 }

/-- `10 ^ k / 2 ^ exponent` as a fraction. -/
def gridStep (exponent k : Int) : Nat × Nat :=
  (Nat.pow 10 k.toNat * Double.powerOfTwo (-exponent).toNat,
    Nat.pow 10 (-k).toNat * Double.powerOfTwo exponent.toNat)

/-- Whether `c · num / den` is in the interval. -/
def Target.holds (t : Target) (num den c : Nat) : Bool :=
  if t.closed then t.low * den ≤ c * num && c * num ≤ t.high * den
  else t.low * den < c * num && c * num < t.high * den

/-- The point nearest to the value on the grid of multiples of `10 ^ k`, if it
or its neighbour across the value is in the interval; a tie goes to the even
point. -/
def Target.onGrid? (t : Target) (k : Int) : Option Nat :=
  let (num, den) := gridStep t.exponent k
  let below := t.value * den / num
  let above := below + 1
  match t.holds num den below, t.holds num den above with
  | false, false => none
  | true, false => some below
  | false, true => some above
  | true, true =>
    -- Both distances have the same denominator, so the numerators decide.
    let toBelow := t.value * den - below * num
    let toAbove := above * num - t.value * den
    if toBelow < toAbove then some below
    else if toAbove < toBelow then some above
    else some (if below % 2 == 0 then below else above)

/-- Tries the grids from `10 ^ k` down. -/
def Target.search (t : Target) : Nat → Int → Digits
  | 0, k => ⟨t.value * (gridStep t.exponent k).2 / (gridStep t.exponent k).1, k⟩
  | tries + 1, k =>
    match t.onGrid? k with
    | some c => ⟨c, k⟩
    | none => t.search tries (k - 1)

/-- The fewest digits that read back as a finite magnitude other than zero.
The first grid is coarser than the number itself; the twenty-first has more
digits than any double needs. -/
def shortest (magnitude : Nat) : Digits :=
  let (significand, exponent) := Double.parts magnitude
  -- The fraction is a little below the decimal logarithm of two; two more
  -- places make up for that and for the rounding.
  let top : Int := (((significand.log2 : Int) + 1 + exponent) * 30103).fdiv 100000 + 2
  (Target.ofMagnitude magnitude).search 22 top

/-- How a writer lays out digits: which powers of ten of the leading digit are
written without an exponent. -/
structure Layout where
  plainFrom : Int
  plainTo : Int

/-- The text of digits. A number written without an exponent keeps a point and
at least one digit on either side of it. -/
def Layout.write (l : Layout) (d : Digits) : List Char :=
  let ds := decimal d.digits
  let leading : Int := d.exponent + ds.length - 1
  if l.plainFrom ≤ leading && leading ≤ l.plainTo then
    if 0 ≤ d.exponent then ds ++ zeros d.exponent.toNat ++ ['.', '0']
    else if 0 ≤ leading then
      ds.take (leading.toNat + 1) ++ '.' :: ds.drop (leading.toNat + 1)
    else '0' :: '.' :: zeros (-leading - 1).toNat ++ ds
  else
    let mantissa :=
      match ds with
      | first :: second :: rest => first :: '.' :: second :: rest
      | ds => ds
    mantissa ++ 'e' :: (if 0 ≤ leading then '+' else '-') :: decimal leading.natAbs

/-- The text of a finite double. Zero keeps its sign. -/
def Layout.text (l : Layout) (x : Double) : List Char :=
  let sign := if x.isNegative then ['-'] else []
  if x.magnitude = 0 then sign ++ ['0', '.', '0'] else sign ++ l.write (shortest x.magnitude)

end Idempotency.Decimal
