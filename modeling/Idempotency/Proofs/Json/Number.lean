import Idempotency.Json.Number
import Idempotency.Proofs.Decimal.Whole

/-!
# `Idempotency.Proofs.Json.Number`: a whole number reads back

A whole number that fits sixty-four bits, written in base ten and followed by
the end of a value, reads as that integer (`readNumber_decimal`); after a minus
sign, as its negative (`readNumber_negative`).

While digits are gathered the significand is the value of those taken so far.
It stays below the value of all of them, so that it never gets full
(`foldl_whole`).
-/

set_option autoImplicit false

namespace Idempotency.Json

open Idempotency.Text (Symbol symbols)
open Idempotency.Decimal (decimal)

/-- A value ends here: the text is over, or goes on with what may follow a value
in a list or an object. -/
def AtEnd (rest : List Symbol) : Prop :=
  ∀ symbol more, rest = symbol :: more →
    symbol = .char ',' ∨ symbol = .char ']' ∨ symbol = .char '\x7d'

/-- A value may end where the text does. -/
theorem atEnd_nil : AtEnd [] := nofun

/-- A value may end before a comma. -/
theorem atEnd_comma (rest : List Symbol) : AtEnd (.char ',' :: rest) := by
  rintro _ _ ⟨⟩
  exact .inl rfl

/-- A value may end before the bracket that closes a list. -/
theorem atEnd_bracket (rest : List Symbol) : AtEnd (.char ']' :: rest) := by
  rintro _ _ ⟨⟩
  exact .inr (.inl rfl)

/-- A value may end before the brace that closes an object. -/
theorem atEnd_brace (rest : List Symbol) : AtEnd (.char '\x7d' :: rest) := by
  rintro _ _ ⟨⟩
  exact .inr (.inr rfl)

variable {ds : List Char} {rest : List Symbol} {n : Nat}

/-- A decimal digit is read as its value. -/
theorem digit?_char {c : Char} (h : c.isDigit = true) :
    digit? (.char c) = some (c.toNat - '0'.toNat) := by
  have hrange : '0' ≤ c ∧ c ≤ '9' := by simpa [Char.isDigit, Char.le_def] using h
  simp [digit?, hrange]

/-- What follows a value is no digit. -/
theorem digit?_of_atEnd (hend : AtEnd rest) {symbol : Symbol} {more : List Symbol}
    (hrest : rest = symbol :: more) : digit? symbol = none := by
  rcases hend symbol more hrest with rfl | rfl | rfl <;> decide

/-- Digits are taken up to the end of the value. -/
theorem takeDigits_append (hds : ∀ c ∈ ds, c.isDigit = true) (hend : AtEnd rest) :
    takeDigits (symbols ds ++ rest) = (ds.map fun c => c.toNat - '0'.toNat, rest) := by
  induction ds with
  | nil =>
    cases rest with
    | nil => rfl
    | cons symbol more =>
      rw [show symbols [] ++ symbol :: more = symbol :: more from rfl, takeDigits,
        digit?_of_atEnd hend rfl]
      rfl
  | cons c ds ih =>
    rw [show symbols (c :: ds) ++ rest = .char c :: (symbols ds ++ rest) from rfl, takeDigits,
      digit?_char (hds c List.mem_cons_self), ih fun d hd => hds d (List.mem_cons_of_mem c hd)]
    rfl

/-- Taking digits only makes a value larger. -/
theorem le_foldl (ds : List Nat) (s : Nat) : s ≤ ds.foldl (fun n d => n * 10 + d) s := by
  induction ds generalizing s with
  | nil => exact Nat.le_refl s
  | cons d ds ih =>
    have := ih (s * 10 + d)
    rw [List.foldl_cons]
    omega

/-- Digits whose value fits are gathered to their value. -/
theorem foldl_whole (ds : List Nat) (s : Nat)
    (hfits : ds.foldl (fun n d => n * 10 + d) s ≤ maxSignificand) :
    ds.foldl Gathered.whole ⟨s, 0, false⟩
      = ⟨ds.foldl (fun n d => n * 10 + d) s, 0, false⟩ := by
  induction ds generalizing s with
  | nil => rfl
  | cons d ds ih =>
    rw [List.foldl_cons] at hfits
    have hle := Nat.le_trans (le_foldl ds (s * 10 + d)) hfits
    have hwhole : Gathered.whole ⟨s, 0, false⟩ d = ⟨s * 10 + d, 0, false⟩ := by
      simp [Gathered.whole, hle]
    rw [List.foldl_cons, List.foldl_cons, hwhole, ih (s * 10 + d) hfits]

/-- The values of digits add up to what the digits spell. -/
theorem foldl_digits (ds : List Char) (s : Nat) :
    (ds.map fun c => c.toNat - '0'.toNat).foldl (fun n d => n * 10 + d) s
      = Nat.ofDigitChars 10 ds s := by
  induction ds generalizing s with
  | nil => rfl
  | cons c ds ih => rw [List.map_cons, List.foldl_cons, ih, Nat.ofDigitChars_cons, Nat.mul_comm]

/-- No zero stands in front of the other digits of a whole number. -/
theorem digits_ne_zero_cons (n : Nat) (d : Nat) (more : List Nat) :
    (decimal n).map (fun c => c.toNat - '0'.toNat) ≠ 0 :: d :: more := by
  intro h
  by_cases hn : n = 0
  · subst hn
    rw [Decimal.decimal_of_lt (by decide)] at h
    simp at h
  · obtain ⟨c, ds, hds, hne⟩ := Decimal.head_decimal hn
    have hc : c.isDigit = true := Decimal.isDigit_of_mem_decimal (n := n) (by simp [hds])
    rw [hds, List.map_cons, List.cons.injEq] at h
    have hrange := Decimal.toNat_of_isDigit hc
    refine hne (Char.toNat_inj.1 ?_)
    have hzero : c.toNat - 48 = 0 := h.1
    show c.toNat = 48
    omega

/-- The digits of a whole number are gathered to it, whatever its sign. -/
theorem readNumber_digits (negative : Bool) (hfits : n ≤ maxSignificand) (hend : AtEnd rest) :
    readNumber negative (symbols (decimal n) ++ rest)
      = (Gathered.integer ⟨n, 0, false⟩ negative >>= fun number => .ok (number, rest)) := by
  have htake := takeDigits_append (fun c hc => Decimal.isDigit_of_mem_decimal (n := n) hc) hend
  have hfold := foldl_digits (decimal n) 0
  have hzero := digits_ne_zero_cons n
  have hne : (decimal n).map (fun c => c.toNat - '0'.toNat) ≠ [] := by
    simpa using Decimal.decimal_ne_nil n
  rw [Decimal.ofDigitChars_decimal] at hfold
  unfold readNumber
  rw [htake]
  -- From here on only the value of the digits counts, and how they start.
  generalize (decimal n).map (fun c => c.toNat - '0'.toNat) = ds at hfold hzero hne
  have hwhole := foldl_whole ds 0 (by rw [hfold]; exact hfits)
  rw [hfold] at hwhole
  split
  · next h => exact absurd (Prod.mk.inj h).1 hne
  · next h => exact absurd (Prod.mk.inj h).1 hne
  · next h => exact absurd (Prod.mk.inj h).1 (hzero _ _)
  · next h =>
    obtain ⟨rfl, rfl⟩ := Prod.mk.inj h
    rw [hwhole]
    simp only
    split
    · exact absurd (hend (.char '.') _ rfl) (by decide)
    · exact absurd (hend (.char 'e') _ rfl) (by decide)
    · exact absurd (hend (.char 'E') _ rfl) (by decide)
    · rfl

/-- A whole number reads back. -/
theorem readNumber_decimal (hfits : n ≤ maxSignificand) (hend : AtEnd rest) :
    readNumber false (symbols (decimal n) ++ rest) = .ok (.integer n, rest) :=
  readNumber_digits false hfits hend

/-- After a minus sign it reads as its negative, down to that of the sixty-third power
of two. -/
theorem readNumber_negative (hpos : 0 < n) (hfits : n ≤ 9223372036854775808)
    (hend : AtEnd rest) :
    readNumber true (symbols (decimal n) ++ rest) = .ok (.integer (-n), rest) := by
  rw [readNumber_digits true (by unfold maxSignificand; omega) hend]
  have hrange : (decide (0 < n) && decide (n ≤ 9223372036854775808)) = true := by
    simp only [Bool.and_eq_true, decide_eq_true_eq]
    omega
  simp only [Gathered.integer, hrange, if_true]
  rfl

end Idempotency.Json
