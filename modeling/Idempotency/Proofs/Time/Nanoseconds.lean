import Idempotency.Proofs.Time.Order

/-!
# `Idempotency.Proofs.Time.Nanoseconds`: time as a whole number

Outside leap seconds an instant is the number of its nanoseconds: instants are in the
order of their numbers (`le_iff_total_le`), and adding a length adds its number
(`add?_eq_ofTotal?`). Seconds and nanoseconds carry into each other there, and the sum is
an instant as long as it is not beyond the last one, which comes 999999999 nanoseconds
into its second (`add?_eq_none_iff`).

A leap second takes no time once it is left, so adding to it is not the addition of
numbers. It still leads no further than adding to the end of the second before it
(`exists_add?`).
-/

set_option autoImplicit false

namespace Idempotency

namespace Span

variable {d : Span}

/-- A length counts as positive if it is more than no nanoseconds. -/
theorem isPositive_iff : d.isPositive = true ↔ 0 < d.total := by
  rw [isPositive, decide_eq_true_eq]

/-- What is dropped of a length that is more than nothing is less than a second. -/
theorem wholeSeconds_of_isPositive (h : d.isPositive = true) :
    d.wholeSeconds = d.total / nanosPerSecond :=
  Int.tdiv_eq_ediv_of_nonneg (Int.le_of_lt (isPositive_iff.1 h))

/-- A length of whole seconds has so many nanoseconds. -/
theorem total_ofSeconds (seconds : Int) : (ofSeconds seconds).total = seconds * nanosPerSecond := by
  simp only [ofSeconds, total, Int.natCast_zero, Int.add_zero]

end Span

namespace Instant

variable {a b t : Instant} {d : Span} {n : Int}

/-- Outside leap seconds, fewer nanoseconds than a second has are past. -/
theorem isLeap_eq_false_iff : t.isLeap = false ↔ t.nanos < nanosPerSecond := by
  rw [isLeap, decide_eq_false_iff_not, Nat.not_le]

/-- Outside leap seconds the order is that of the nanoseconds since 1970. -/
theorem le_iff_total_le (ha : a.isLeap = false) (hb : b.isLeap = false) :
    a ≤ b ↔ a.total ≤ b.total := by
  rw [isLeap_eq_false_iff] at ha hb
  simp only [nanosPerSecond] at ha hb
  simp only [le_iff, total, nanosPerSecond]
  omega

/-- A number of nanoseconds stands for an instant unless it is too small or too large. -/
theorem ofTotal?_eq_none_iff (hfirst : first.total ≤ n) :
    ofTotal? n = none ↔ last.total < n := by
  simp only [first, last, total, firstSecond, lastSecond, nanosPerSecond] at hfirst ⊢
  simp only [ofTotal?, ofParts?, firstSecond, lastSecond, nanosPerSecond,
    dite_eq_right_iff, reduceCtorEq, imp_false]
  omega

/-- Between the first instant and the last, a number of nanoseconds stands for one. -/
theorem exists_ofTotal? (hfirst : first.total ≤ n) (hlast : n ≤ last.total) :
    ∃ e, ofTotal? n = some e := by
  rw [← Option.ne_none_iff_exists', Ne, ofTotal?_eq_none_iff hfirst]
  omega

/-- The instant of a number of nanoseconds has that number, and is in no leap second. -/
theorem total_of_ofTotal? (h : ofTotal? n = some t) :
    t.total = n ∧ t.nanos < nanosPerSecond := by
  obtain ⟨hseconds, hnanos⟩ := parts_of_ofTotal? h
  simp only [total, nanosPerSecond] at hseconds hnanos ⊢
  omega

/-- No second starts before the first instant. -/
theorem first_total_le (t : Instant) : first.total ≤ t.seconds * nanosPerSecond := by
  have hfirst := t.first_le
  simp only [first, total, firstSecond, nanosPerSecond] at hfirst ⊢
  omega

/-- Outside leap seconds, adding is adding nanoseconds. -/
theorem add?_eq_ofTotal? (h : t.isLeap = false) (d : Span) :
    t.add? d = ofTotal? (t.total + d.total) := by
  rw [add?, h]
  rfl

/-- A length leads nowhere exactly if the sum is beyond the last instant. -/
theorem add?_eq_none_iff (h : t.isLeap = false) (hd : d.isPositive = true) :
    t.add? d = none ↔ last.total < t.total + d.total := by
  have hfirst := t.first_total_le
  have htotal : t.total = t.seconds * nanosPerSecond + t.nanos := rfl
  rw [Span.isPositive_iff] at hd
  rw [add?_eq_ofTotal? h, ofTotal?_eq_none_iff (by omega)]

/-- Where a length leads is the exact sum, in normal form. -/
theorem total_of_add? {e : Instant} (h : t.isLeap = false) (hadd : t.add? d = some e) :
    e.total = t.total + d.total ∧ e.nanos < nanosPerSecond := by
  rw [add?_eq_ofTotal? h] at hadd
  exact total_of_ofTotal? hadd

/-- A length leads somewhere from wherever in a second if it does from the end of it, also
if that is followed by a leap second. -/
theorem exists_add? (hd : d.isPositive = true)
    (hend : t.seconds * nanosPerSecond + 999999999 + d.total ≤ last.total) :
    ∃ e, t.add? d = some e := by
  have hok := t.nanos_ok
  have hfirst := t.first_total_le
  rw [Span.isPositive_iff] at hd
  simp only [total, nanosPerSecond] at hend hok hfirst
  unfold add?
  cases hleap : t.isLeap with
  | false =>
    rw [isLeap_eq_false_iff] at hleap
    simp only [nanosPerSecond] at hleap
    refine exists_ofTotal? ?_ ?_ <;> simp only [total, nanosPerSecond] <;> omega
  | true =>
    have hnanos : nanosPerSecond ≤ t.nanos := by simpa [isLeap] using hleap
    simp only [nanosPerSecond] at hnanos
    simp only [Bool.not_true, Bool.false_eq_true, if_false, nanosPerSecond]
    split
    · -- The leap second is left, and all that it takes is the second before it.
      refine exists_ofTotal? ?_ ?_ <;> simp only [total, nanosPerSecond] <;> omega
    · have hwithin : (t.nanos + d.total).toNat < 2 * nanosPerSecond := by
        simp only [nanosPerSecond]
        omega
      have hminute : t.seconds % 60 = 59 := by omega
      rw [if_neg (by omega), ofParts?,
        dif_pos ⟨t.first_le, t.le_last, .inr ⟨hminute, hwithin⟩⟩]
      exact ⟨_, rfl⟩

end Instant

end Idempotency
