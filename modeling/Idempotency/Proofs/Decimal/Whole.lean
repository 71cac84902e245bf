import Idempotency.Decimal.Whole
import Idempotency.Text.Blank

/-!
# `Idempotency.Proofs.Decimal.Whole`: the digits of a whole number

A number in base ten is a list of digits that is not empty, has the number as
its value, and starts with a zero only if it is zero. Zeros in front change the
length and not the value; `length_padded` says when the width is reached
exactly.

The value is `Nat.ofDigitChars`, so that the standard library's facts about
`Nat.toDigits` are the facts about `decimal`.
-/

set_option autoImplicit false

namespace Idempotency.Decimal

variable {n width : Nat} {c : Char}

/-- A number is written in digits. -/
theorem isDigit_of_mem_decimal (h : c ∈ decimal n) : c.isDigit = true :=
  Nat.isDigit_of_mem_toDigits (by decide) (by decide) h

/-- The digits stand together in the order of characters. -/
theorem toNat_of_isDigit (h : c.isDigit = true) : 48 ≤ c.toNat ∧ c.toNat ≤ 57 := by
  simpa [Char.isDigit, UInt32.le_iff_toNat_le] using h

/-- A digit is not blank. -/
theorem isBlank_digit (h : c.isDigit = true) : Text.isBlank c = false := by
  have hrange := toNat_of_isDigit h
  simp only [Text.isBlank, Bool.or_eq_false_iff, Bool.and_eq_false_iff, decide_eq_false_iff_not,
    beq_eq_false_iff_ne]
  omega

/-- Each number has a digit. -/
theorem decimal_ne_nil (n : Nat) : decimal n ≠ [] := Nat.toDigits_ne_nil

/-- The digits of a number spell it. -/
theorem ofDigitChars_decimal (n : Nat) : Nat.ofDigitChars 10 (decimal n) 0 = n :=
  Nat.ofDigitChars_ten_toDigits

/-- A number below ten is one digit. -/
theorem decimal_of_lt (h : n < 10) : decimal n = [n.digitChar] := Nat.toDigits_of_lt_base h

/-- Any other is its tenth part and a last digit. -/
theorem decimal_of_le (h : 10 ≤ n) : decimal n = decimal (n / 10) ++ [(n % 10).digitChar] :=
  Nat.toDigits_of_base_le (by decide) h

/-- Only zero starts with a zero. -/
theorem head_decimal (h : n ≠ 0) : ∃ d ds, decimal n = d :: ds ∧ d ≠ '0' := by
  induction n using Nat.strongRecOn with
  | ind n ih =>
    by_cases hlt : n < 10
    · refine ⟨n.digitChar, [], decimal_of_lt hlt, ?_⟩
      rw [Ne, Nat.digitChar_eq_zero]
      exact h
    · obtain ⟨d, ds, hds, hne⟩ := ih (n / 10) (by omega) (by omega)
      refine ⟨d, ds ++ [(n % 10).digitChar], ?_, hne⟩
      rw [decimal_of_le (by omega), hds]
      rfl

/-- A number has as many digits as its size allows. -/
theorem length_decimal_le (hn : n < Nat.pow 10 width) (hwidth : 0 < width) :
    (decimal n).length ≤ width :=
  (Nat.length_toDigits_le_iff (by decide) hwidth).2 hn

/-- Different numbers are written differently. -/
theorem decimal_inj {m : Nat} (h : decimal m = decimal n) : m = n := by
  rw [← ofDigitChars_decimal m, h, ofDigitChars_decimal]

/-! ### Signs -/

/-- An integer is written in digits, after a sign or without one. -/
theorem mem_integer {i : Int} (h : c ∈ integer i) : c = '-' ∨ c.isDigit = true := by
  unfold integer at h
  split at h
  · rcases List.mem_cons.1 h with rfl | h
    · exact .inl rfl
    · exact .inr (isDigit_of_mem_decimal h)
  · exact .inr (isDigit_of_mem_decimal h)

/-- No number without a sign is written like one with a sign. -/
theorem decimal_ne_cons (m : Nat) (cs : List Char) : decimal m ≠ '-' :: cs := by
  intro h
  have hdigit : '-'.isDigit = true := isDigit_of_mem_decimal (h ▸ List.mem_cons_self)
  exact absurd hdigit (by decide)

/-- Different integers are written differently. -/
theorem integer_inj {i k : Int} (h : integer i = integer k) : i = k := by
  unfold integer at h
  split at h
  · split at h
    · have habs := decimal_inj (List.cons.inj h).2
      omega
    · exact absurd h.symm (decimal_ne_cons _ _)
  · split at h
    · exact absurd h (decimal_ne_cons _ _)
    · have habs := decimal_inj h
      omega

/-! ### Zeros in front -/

/-- Zeros in front are digits too. -/
theorem isDigit_of_mem_padded (h : c ∈ padded width n) : c.isDigit = true := by
  rcases List.mem_append.1 h with h | h
  · rw [List.eq_of_mem_replicate h]
    rfl
  · exact isDigit_of_mem_decimal h

/-- With zeros in front or without, there is a digit. -/
theorem padded_ne_nil (width n : Nat) : padded width n ≠ [] := by
  intro h
  exact decimal_ne_nil n (List.append_eq_nil_iff.1 h).2

/-- Zeros in front do not change the number. -/
theorem ofDigitChars_padded (width n : Nat) : Nat.ofDigitChars 10 (padded width n) 0 = n := by
  rw [padded, Nat.ofDigitChars_append, zeros, Nat.ofDigitChars_replicate_zero, Nat.mul_zero]
  exact ofDigitChars_decimal n

/-- A number that fits a width has that many digits with its zeros. -/
theorem length_padded (hn : n < Nat.pow 10 width) (hwidth : 0 < width) :
    (padded width n).length = width := by
  have hle := length_decimal_le hn hwidth
  rw [padded, List.length_append, zeros, List.length_replicate]
  omega

end Idempotency.Decimal
