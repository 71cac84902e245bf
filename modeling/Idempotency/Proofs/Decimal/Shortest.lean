import Idempotency.Proofs.Decimal.Interval

/-!
# `Idempotency.Proofs.Decimal.Shortest`: the digits of a double round to it

The digits found for a finite magnitude stand for a number that rounds to it
(`shortest_contains`), so no two magnitudes have the same digits.

A point of a grid is only taken if it is in the interval (`contains_of_onGrid?`). There is
one as soon as the step of the grid is smaller than half a gap between doubles
(`isSome_onGrid?`), and after twenty-one steps down from where the search starts it is:
that start is the fraction `30103 / 100000` of a binary logarithm, and powers of ten and
two are compared by `10 ^ 3 ≤ 2 ^ 10` and `2 ^ 93 ≤ 10 ^ 28`.
-/

set_option autoImplicit false

namespace Idempotency.Decimal

open Double (fractionCount)

variable {t : Target} {m : Nat} {k e : Int} {c : Nat}

/-- The number that digits stand for. -/
def Digits.value (d : Digits) : ℚ := d.digits * 10 ^ d.exponent

/-! ### Grids -/

/-- A power with a sign in its exponent is a quotient of two without one. -/
theorem zpow_eq_div {a : ℚ} (ha : a ≠ 0) (k : Int) : a ^ k = a ^ k.toNat / a ^ (-k).toNat := by
  rw [← zpow_natCast a k.toNat, ← zpow_natCast a (-k).toNat, ← zpow_sub₀ ha,
    Int.toNat_sub_toNat_neg]

/-- The step of a grid and the unit of an interval are as its numerator to its
denominator. -/
theorem exists_scale (e k : Int) :
    ∃ u : ℚ, 0 < u ∧ (gridStep e k).1 * u = 10 ^ k ∧ (gridStep e k).2 * u = 2 ^ e := by
  have hten : (10 : ℚ) ^ k = 10 ^ k.toNat / 10 ^ (-k).toNat := zpow_eq_div (by norm_num) k
  have htwo : (2 : ℚ) ^ e = 2 ^ e.toNat / 2 ^ (-e).toNat := zpow_eq_div two_ne_zero e
  refine ⟨1 / (10 ^ (-k).toNat * 2 ^ (-e).toNat), by positivity, ?_, ?_⟩
  · show ((10 ^ k.toNat * 2 ^ (-e).toNat : Nat) : ℚ) * _ = _
    rw [hten]
    push_cast
    field_simp
  · show ((10 ^ (-k).toNat * 2 ^ e.toNat : Nat) : ℚ) * _ = _
    rw [htwo]
    push_cast
    field_simp

/-- The points of a grid are apart. -/
theorem gridStep_pos (e k : Int) : 0 < (gridStep e k).1 :=
  Nat.mul_pos (Nat.pow_pos (by decide)) (Nat.pow_pos (by decide))

/-- Multiples of the unit and points of the grid compare by cross products. -/
theorem le_gridPoint_iff (e k : Int) (a c : Nat) :
    a * (gridStep e k).2 ≤ c * (gridStep e k).1 ↔ (a : ℚ) * 2 ^ e ≤ c * 10 ^ k := by
  obtain ⟨u, hu, hten, htwo⟩ := exists_scale e k
  rw [← hten, ← htwo, ← mul_assoc, ← mul_assoc, mul_le_mul_iff_left₀ hu]
  exact_mod_cast Iff.rfl

/-- And the other way round. -/
theorem gridPoint_le_iff (e k : Int) (a c : Nat) :
    c * (gridStep e k).1 ≤ a * (gridStep e k).2 ↔ (c : ℚ) * 10 ^ k ≤ a * 2 ^ e := by
  obtain ⟨u, hu, hten, htwo⟩ := exists_scale e k
  rw [← hten, ← htwo, ← mul_assoc, ← mul_assoc, mul_le_mul_iff_left₀ hu]
  exact_mod_cast Iff.rfl

/-- The test of a grid point is whether it is in the interval. -/
theorem holds_iff :
    t.holds (gridStep t.exponent k).1 (gridStep t.exponent k).2 c = true
      ↔ t.Contains (c * 10 ^ k) := by
  have hlow := le_gridPoint_iff t.exponent k t.low c
  have hhigh := gridPoint_le_iff t.exponent k t.high c
  have hlow' := gridPoint_le_iff t.exponent k t.low c
  have hhigh' := le_gridPoint_iff t.exponent k t.high c
  unfold Target.holds
  -- An open interval is tested by what is not beyond its ends.
  cases hclosed : t.closed with
  | true =>
    simp only [if_true, Bool.and_eq_true, decide_eq_true_eq]
    rw [hlow, hhigh]
    exact ⟨fun ⟨h₁, h₂⟩ => ⟨h₁, h₂, by simp [hclosed], by simp [hclosed]⟩,
      fun h => ⟨h.low_le, h.le_high⟩⟩
  | false =>
    simp only [Bool.false_eq_true, if_false, Bool.and_eq_true, decide_eq_true_eq]
    rw [← Nat.not_le, ← Nat.not_le, hlow', hhigh', not_le, not_le]
    exact ⟨fun ⟨h₁, h₂⟩ => ⟨h₁.le, h₂.le, fun _ => h₁.ne, fun _ => h₂.ne⟩,
      fun h => ⟨lt_of_le_of_ne h.low_le (h.low_ne hclosed),
        lt_of_le_of_ne h.le_high (h.ne_high hclosed)⟩⟩

/-! ### The search -/

/-- A point that is taken is in the interval. -/
theorem contains_of_onGrid? (h : t.onGrid? k = some c) : t.Contains (c * 10 ^ k) := by
  rw [← holds_iff]
  simp only [Target.onGrid?] at h
  split at h
  · cases h
  · next hbelow _ =>
    cases h
    exact hbelow
  · next _ habove =>
    cases h
    exact habove
  · next hbelow habove =>
    split at h
    · cases h
      exact hbelow
    split at h
    · cases h
      exact habove
    split at h
    · cases h
      exact hbelow
    · cases h
      exact habove

/-- Where no point is taken, the first one above the value is not in the interval. -/
theorem holds_of_onGrid?_eq_none (h : t.onGrid? k = none) :
    t.holds (gridStep t.exponent k).1 (gridStep t.exponent k).2
      (t.value * (gridStep t.exponent k).2 / (gridStep t.exponent k).1 + 1) = false := by
  simp only [Target.onGrid?] at h
  split at h
  · next _ habove => exact habove
  · cases h
  · cases h
  · split at h
    · cases h
    split at h
    · cases h
    · cases h

/-- The first point above the value is in the interval if a step from the value is. -/
theorem holds_above {num den : Nat} (hlow : t.low ≤ t.value) (hnum : 0 < num)
    (hroom : t.value * den + num < t.high * den) :
    t.holds num den (t.value * den / num + 1) = true := by
  have hle := Nat.div_mul_le_self (t.value * den) num
  have hlt := Nat.lt_div_mul_add hnum (a := t.value * den)
  have hvalue := Nat.mul_le_mul_right den hlow
  unfold Target.holds
  rw [Nat.succ_mul]
  split
  · simp only [Bool.and_eq_true, decide_eq_true_eq]
    omega
  · simp only [Bool.and_eq_true, decide_eq_true_eq]
    omega

/-- A grid has a point in the interval if its step is smaller than the part of the interval
above the value. -/
theorem isSome_onGrid? (hlow : t.low ≤ t.value)
    (hstep : (10 : ℚ) ^ k < (t.high - t.value) * 2 ^ t.exponent) : (t.onGrid? k).isSome = true := by
  have hroom : t.value * (gridStep t.exponent k).2 + (gridStep t.exponent k).1
      < t.high * (gridStep t.exponent k).2 := by
    obtain ⟨u, hu, hten, htwo⟩ := exists_scale t.exponent k
    rw [← hten, ← htwo] at hstep
    have hlt : ((t.value * (gridStep t.exponent k).2 + (gridStep t.exponent k).1 : Nat) : ℚ) * u
        < ((t.high * (gridStep t.exponent k).2 : Nat) : ℚ) * u := by
      push_cast
      linarith
    exact_mod_cast (mul_lt_mul_iff_left₀ hu).1 hlt
  cases hgrid : t.onGrid? k with
  | some c => rfl
  | none =>
    have habove := holds_of_onGrid?_eq_none hgrid
    rw [holds_above hlow (gridStep_pos t.exponent k) hroom] at habove
    cases habove

/-- The search ends in the interval if one of the grids that it tries has a point there. -/
theorem search_contains {tries n : Nat} (hn : n < tries)
    (hgrid : (t.onGrid? (k - n)).isSome = true) : t.Contains (t.search tries k).value := by
  induction tries generalizing k n with
  | zero => exact absurd hn (Nat.not_lt_zero n)
  | succ tries ih =>
    rw [Target.search]
    -- The grid with a point is this one, or one of those that are left.
    split
    · next c hc => exact contains_of_onGrid? hc
    · next hnone =>
      obtain ⟨n, rfl⟩ : ∃ n', n = n' + 1 := by
        refine ⟨n - 1, ?_⟩
        rcases Nat.eq_zero_or_pos n with rfl | hpos
        · simp [hnone] at hgrid
        · omega
      refine ih (Nat.lt_of_succ_lt_succ hn) ?_
      rwa [show k - 1 - (n : Int) = k - ((n + 1 : Nat) : Int) by omega]

/-! ### Powers of ten and of two -/

/-- From one up, by ten to the third and two to the tenth. -/
theorem ten_pow_lt_two_pow_of_nonneg {a b : Int} (ha : 0 ≤ a) (h : 10 * a < 3 * b) :
    (10 : ℚ) ^ a < 2 ^ b := by
  obtain ⟨n, rfl⟩ : ∃ n : Nat, a = n := ⟨a.natAbs, by omega⟩
  obtain ⟨l, rfl⟩ : ∃ l : Nat, b = l := ⟨b.natAbs, by omega⟩
  have hbase : (10 : ℚ) ^ 3 ≤ 2 ^ 10 := by norm_num
  rw [zpow_natCast, zpow_natCast]
  refine lt_of_pow_lt_pow_left₀ 3 (by positivity) ?_
  calc ((10 : ℚ) ^ n) ^ 3 = (10 ^ 3) ^ n := pow_right_comm 10 n 3
    _ ≤ (2 ^ 10) ^ n := by gcongr
    _ = 2 ^ (10 * n) := (pow_mul 2 10 n).symm
    _ < 2 ^ (l * 3) := pow_lt_pow_right₀ (by norm_num) (by omega)
    _ = (2 ^ l) ^ 3 := pow_mul 2 l 3

/-- Below one, by two to the ninety-third and ten to the twenty-eighth. -/
theorem ten_pow_lt_two_pow_of_nonpos {a b : Int} (hb : b ≤ 0) (h : 93 * a < 28 * b) :
    (10 : ℚ) ^ a < 2 ^ b := by
  obtain ⟨n, rfl⟩ : ∃ n : Nat, b = -n := ⟨b.natAbs, by omega⟩
  have hbase : (2 : ℚ) ^ 93 ≤ 10 ^ 28 := by norm_num
  refine lt_of_pow_lt_pow_left₀ 93 (by positivity) ?_
  calc ((10 : ℚ) ^ a) ^ 93 = 10 ^ (a * 93) := by rw [zpow_mul]; rfl
    _ < 10 ^ (-(28 * n : Int)) := zpow_lt_zpow_right₀ (by norm_num) (by omega)
    _ = (((10 : ℚ) ^ 28) ^ n)⁻¹ := by rw [zpow_neg, zpow_mul]; rfl
    _ ≤ (((2 : ℚ) ^ 93) ^ n)⁻¹ := by gcongr
    _ = ((2 : ℚ) ^ (-n : Int)) ^ 93 := by
      rw [zpow_neg, zpow_natCast, inv_pow, ← pow_mul, ← pow_mul, Nat.mul_comm]

/-- A power of ten is below a power of two if the exponents are far enough apart. The
first bound is for powers above one, and the second for those below. -/
theorem ten_pow_lt_two_pow {a b : Int} (hup : 10 * a < 3 * b) (hdown : 93 * a < 28 * b) :
    (10 : ℚ) ^ a < 2 ^ b := by
  rcases le_or_gt 0 a with ha | ha
  · exact ten_pow_lt_two_pow_of_nonneg ha hup
  rcases le_or_gt b 0 with hb | hb
  · exact ten_pow_lt_two_pow_of_nonpos hb hdown
  · -- One power is below one and the other above it.
    calc (10 : ℚ) ^ a < 10 ^ (0 : Int) := zpow_lt_zpow_right₀ (by norm_num) ha
      _ = 1 := zpow_zero 10
      _ ≤ 2 ^ b := one_le_zpow₀ (by norm_num) hb.le

/-! ### The digits of a magnitude -/

/-- Significands have at most fifty-three binary digits. -/
theorem log2_significand_le (m : Nat) : (Double.parts m).1.log2 ≤ 52 := by
  have hlt : (Double.parts m).1 < 2 ^ 53 := by
    rw [significand_eq]
    unfold fractionCount
    split <;> omega
  rcases Nat.eq_zero_or_pos (Double.parts m).1 with hzero | hpos
  · rw [hzero]
    decide
  · exact Nat.le_of_lt_succ ((Nat.log2_lt (by omega)).2 hlt)

/-- The powers of two of finite magnitudes. -/
theorem exponent_range (h : m < Double.infinityBits) :
    -1074 ≤ (Double.parts m).2 ∧ (Double.parts m).2 ≤ 971 := by
  rw [exponent_eq]
  simp only [Double.infinityBits, fractionCount] at h ⊢
  split <;> omega

/-- Half a gap above a magnitude is two units of its interval. -/
theorem half_gap (m : Nat) :
    (((Target.ofMagnitude m).high : ℚ) - (Target.ofMagnitude m).value)
        * 2 ^ (Target.ofMagnitude m).exponent = 2 ^ ((Double.parts m).2 - 1) := by
  show (((4 * (Double.parts m).1 + 2 : Nat) : ℚ) - (4 * (Double.parts m).1 : Nat))
    * 2 ^ ((Double.parts m).2 - 2) = _
  rw [show (Double.parts m).2 - 1 = (Double.parts m).2 - 2 + 1 by omega, zpow_add_one₀ two_ne_zero]
  push_cast
  ring

/-- The digits of a finite magnitude stand for a number that rounds to it. -/
theorem shortest_contains (h : m < Double.infinityBits) :
    (Target.ofMagnitude m).Contains (shortest m).value := by
  obtain ⟨hlow, hhigh⟩ := exponent_range h
  have hdigits := log2_significand_le m
  have hsearch : shortest m = (Target.ofMagnitude m).search 22
      (((((Double.parts m).1.log2 : Int) + 1 + (Double.parts m).2) * 30103).fdiv 100000 + 2) := rfl
  rw [hsearch]
  -- If no grid before it has a point in the interval, the last one has.
  refine search_contains (n := 21) (by decide) (isSome_onGrid? (Nat.sub_le _ _) ?_)
  rw [half_gap, Int.fdiv_eq_ediv_of_nonneg _ (by decide)]
  exact ten_pow_lt_two_pow (by omega) (by omega)

end Idempotency.Decimal
