import Mathlib.Algebra.Order.Field.Power
import Mathlib.Data.Rat.Cast.Order
import Mathlib.Order.Monotone.Basic
import Mathlib.Tactic.FieldSimp
import Mathlib.Tactic.Linarith
import Mathlib.Tactic.Positivity
import Mathlib.Tactic.Ring
import Mathlib.Tactic.SplitIfs
import Idempotency.Decimal.Shortest

/-!
# `Idempotency.Proofs.Decimal.Interval`: the reals that round to a double

The interval of a magnitude (`Target.ofMagnitude`) ends where that of the next one starts
(`low_succ`), also where the exponent changes and the gap between doubles with it. The end
belongs to the even one of the two, and the parities of neighbours differ. So no real is in
the intervals of two magnitudes (`eq_of_contains`).

Magnitudes are any natural numbers here: what is beyond the largest double goes on in the
same way.
-/

set_option autoImplicit false

namespace Idempotency

open Double (fractionCount)

namespace Decimal

variable {m n : Nat} {x : ℚ}

/-- The lower end of an interval. -/
def Target.lowEnd (t : Target) : ℚ := t.low * 2 ^ t.exponent

/-- The upper end of an interval. -/
def Target.highEnd (t : Target) : ℚ := t.high * 2 ^ t.exponent

/-- The number is in the interval. -/
structure Target.Contains (t : Target) (x : ℚ) : Prop where
  low_le : t.lowEnd ≤ x
  le_high : x ≤ t.highEnd
  low_ne : t.closed = false → t.lowEnd ≠ x
  ne_high : t.closed = false → x ≠ t.highEnd

/-- The end of the reals that round to a magnitude. -/
def upTo (m : Nat) : ℚ := (Target.ofMagnitude m).highEnd

/-! ### Neighbours -/

/-- The significand of a magnitude is its fraction, with the leading one unless the
exponent is the lowest. -/
theorem significand_eq (m : Nat) :
    (Double.parts m).1 = if m / fractionCount = 0 then m % fractionCount
      else fractionCount + m % fractionCount := by
  simp only [Double.parts]
  split <;> rfl

/-- Each exponent is that of as many magnitudes as there are fractions. The lowest is
used for two runs of them, those without the leading one and the first with it. -/
theorem exponent_eq (m : Nat) :
    (Double.parts m).2 = if m / fractionCount = 0 then -1074
      else ((m / fractionCount : Nat) : Int) - 1075 := by
  simp only [Double.parts]
  split <;> rfl

/-- A magnitude and the next one have one exponent and successive significands. After the
greatest significand comes the smallest one of the next exponent. -/
theorem succ_cases (m : Nat) :
    ((Double.parts (m + 1)).1 = (Double.parts m).1 + 1
        ∧ (Double.parts (m + 1)).2 = (Double.parts m).2 ∧ Double.isBoundary (m + 1) = false)
      ∨ ((Double.parts m).1 + 1 = 2 * fractionCount ∧ (Double.parts (m + 1)).1 = fractionCount
        ∧ (Double.parts (m + 1)).2 = (Double.parts m).2 + 1
        ∧ Double.isBoundary (m + 1) = true) := by
  have hboundary : Double.isBoundary (m + 1) = true
      ↔ (m + 1) % fractionCount = 0 ∧ fractionCount < m + 1 := by
    simp [Double.isBoundary]
  simp only [significand_eq, exponent_eq, fractionCount] at *
  by_cases hlast : (m + 1) % 4503599627370496 = 0 ∧ 4503599627370496 < m + 1
  · refine .inr ⟨?_, ?_, ?_, hboundary.2 hlast⟩
    all_goals split_ifs <;> omega
  · refine .inl ⟨?_, ?_, Bool.eq_false_iff.2 fun h => hlast (hboundary.1 h)⟩
    all_goals split_ifs <;> omega

/-- The ends belong to even magnitudes. -/
theorem closed_ofMagnitude (m : Nat) : (Target.ofMagnitude m).closed = (m % 2 == 0) := by
  have hsignificand : (Double.parts m).1 % 2 = m % 2 := by
    rw [significand_eq]
    unfold fractionCount
    split <;> omega
  show ((Double.parts m).1 % 2 == 0) = _
  rw [hsignificand]

/-- The reals that round to a magnitude start where those of the one before it end. -/
theorem low_succ (m : Nat) : (Target.ofMagnitude (m + 1)).lowEnd = upTo m := by
  show ((4 * (Double.parts (m + 1)).1 - (if Double.isBoundary (m + 1) then 1 else 2) : Nat) : ℚ)
      * 2 ^ ((Double.parts (m + 1)).2 - 2)
    = ((4 * (Double.parts m).1 + 2 : Nat) : ℚ) * 2 ^ ((Double.parts m).2 - 2)
  rcases succ_cases m with
    ⟨hsignificand, hexponent, hinner⟩ | ⟨hlast, hfirst, hexponent, hboundary⟩
  · rw [hsignificand, hexponent, hinner]
    rfl
  · -- The unit of the next magnitude is twice as large, and the gap below it half the gap above.
    have hlow : 2 * (4 * fractionCount - 1) = 4 * (Double.parts m).1 + 2 := by
      unfold fractionCount at *
      omega
    rw [hfirst, hexponent, hboundary, if_pos rfl, ← hlow,
      show (Double.parts m).2 + 1 - 2 = (Double.parts m).2 - 2 + 1 by omega,
      zpow_add_one₀ two_ne_zero]
    push_cast
    ring

/-- The interval of a magnitude is not empty. -/
theorem lowEnd_lt_upTo (m : Nat) : (Target.ofMagnitude m).lowEnd < upTo m := by
  have hlt : (Target.ofMagnitude m).low < (Target.ofMagnitude m).high := by
    show 4 * (Double.parts m).1 - _ < 4 * (Double.parts m).1 + 2
    omega
  unfold upTo Target.lowEnd Target.highEnd
  have hunit : (0 : ℚ) < 2 ^ (Target.ofMagnitude m).exponent := by positivity
  exact mul_lt_mul_of_pos_right (by exact_mod_cast hlt) hunit

/-- Greater magnitudes have intervals that end further up. -/
theorem strictMono_upTo : StrictMono upTo := strictMono_nat_of_lt_succ fun m => by
  rw [← low_succ]
  exact lowEnd_lt_upTo (m + 1)

/-- What rounds to a magnitude rounds to no greater one. If it is the end between two
neighbours, it belongs to one of them only. -/
theorem not_contains_of_lt (h : m < n) (hm : (Target.ofMagnitude m).Contains x) :
    ¬ (Target.ofMagnitude n).Contains x := by
  intro hn
  -- The greater interval starts where that of the magnitude before it ends, and this is not
  -- below the end of the smaller one. So the number is all three of them.
  obtain ⟨k, rfl⟩ : ∃ k, n = k + 1 := ⟨n - 1, by omega⟩
  have hle : upTo m ≤ upTo k := strictMono_upTo.monotone (Nat.le_of_lt_succ h)
  have hlow : upTo k ≤ x := low_succ k ▸ hn.low_le
  have hx : x = upTo m := le_antisymm hm.le_high (hle.trans hlow)
  have hk : k = m := strictMono_upTo.injective (le_antisymm (hx ▸ hlow) hle)
  subst hk
  -- Of the two neighbours the odd one does not have its ends.
  rcases Nat.mod_two_eq_zero_or_one k with heven | hodd
  · refine hn.low_ne ?_ ((low_succ k).trans hx.symm)
    rw [closed_ofMagnitude, beq_eq_false_iff_ne]
    omega
  · refine hm.ne_high ?_ hx
    rw [closed_ofMagnitude, beq_eq_false_iff_ne]
    omega

/-- A number rounds to one magnitude only. -/
theorem eq_of_contains (hm : (Target.ofMagnitude m).Contains x)
    (hn : (Target.ofMagnitude n).Contains x) : m = n := by
  rcases Nat.lt_trichotomy m n with h | h | h
  · exact absurd hn (not_contains_of_lt h hm)
  · exact h
  · exact absurd hm (not_contains_of_lt h hn)

end Decimal

end Idempotency
