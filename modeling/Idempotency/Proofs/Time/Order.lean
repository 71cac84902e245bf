import Mathlib.Order.Defs.LinearOrder
import Idempotency.Record.Basic

/-!
# `Idempotency.Proofs.Time.Order`: instants in order, and what lasts until when

Instants are ordered by their seconds and then by their nanoseconds, and that
is a linear order. Two facts about it carry the statements on expiry:

* `isExpiredAt_mono`: what has expired stays expired as time goes on.
* `lt_of_add?`: an instant a positive length later is later. It holds in a leap
  second too, where `Instant.add?` is not the addition of nanoseconds.
-/

set_option autoImplicit false

namespace Idempotency

namespace Instant

/-- The order on instants, spelled out. -/
theorem lt_iff {a b : Instant} :
    a < b ↔ a.seconds < b.seconds ∨ (a.seconds = b.seconds ∧ a.nanos < b.nanos) := by
  show a.before b = true ↔ _
  simp [before]

/-- Instants are in the order of their seconds, and then of their nanoseconds. -/
theorem le_iff {a b : Instant} :
    a ≤ b ↔ a.seconds < b.seconds ∨ (a.seconds = b.seconds ∧ a.nanos ≤ b.nanos) := by
  show ¬ b < a ↔ _
  rw [lt_iff]
  omega

/-- An instant is its seconds and nanoseconds. -/
theorem ext_parts {a b : Instant} (hs : a.seconds = b.seconds) (hn : a.nanos = b.nanos) :
    a = b := by
  cases a
  cases b
  cases hs
  cases hn
  rfl

instance : LinearOrder Instant where
  le_refl a := by rw [le_iff]; omega
  le_trans a b c := by simp only [le_iff]; omega
  lt_iff_le_not_ge a b := by simp only [le_iff, lt_iff]; omega
  le_antisymm a b hab hba := by
    rw [le_iff] at hab hba
    exact ext_parts (by omega) (by omega)
  le_total a b := by simp only [le_iff]; omega
  toDecidableLE := inferInstance
  toDecidableLT := inferInstance
  toDecidableEq := inferInstance

/-- The parts of an instant that `ofParts?` gives. -/
theorem parts_of_ofParts? {seconds : Int} {nanos : Nat} {t : Instant}
    (h : ofParts? seconds nanos = some t) : t.seconds = seconds ∧ t.nanos = nanos := by
  unfold ofParts? at h
  split at h
  · cases h
    exact ⟨rfl, rfl⟩
  · exact nomatch h

/-- An instant found by its nanoseconds since 1970 lies outside leap seconds,
so that its parts are the quotient and the remainder. -/
theorem parts_of_ofTotal? {total : Int} {t : Instant} (h : ofTotal? total = some t) :
    t.seconds = total / nanosPerSecond ∧ (t.nanos : Int) = total % nanosPerSecond := by
  obtain ⟨hs, hn⟩ := parts_of_ofParts? h
  refine ⟨hs, ?_⟩
  rw [hn, Int.toNat_of_nonneg (Int.emod_nonneg _ (by decide))]

/-- An instant a positive length later is later. -/
theorem lt_of_add? {t t' : Instant} {d : Span} (hd : d.isPositive = true)
    (h : t.add? d = some t') : t < t' := by
  have hpos : 0 < d.total := by simpa [Span.isPositive] using hd
  have hok := t.nanos_ok
  rw [lt_iff]
  unfold add? at h
  simp only [total, isLeap, nanosPerSecond, Bool.not_eq_true', decide_eq_false_iff_not] at h hok
  split at h
  · obtain ⟨hs, hn⟩ := parts_of_ofTotal? h
    simp only [nanosPerSecond] at hs hn
    omega
  · split at h
    · obtain ⟨hs, hn⟩ := parts_of_ofTotal? h
      simp only [nanosPerSecond] at hs hn
      omega
    · split at h
      · omega
      · obtain ⟨hs, hn⟩ := parts_of_ofParts? h
        omega

end Instant

namespace Record

/-- A record has expired once its last instant is over. -/
theorem isExpiredAt_iff {r : Record} {now : Instant} :
    r.isExpiredAt now = true ↔ r.expiresAt < now := by
  simp [isExpiredAt]

/-- Up to that instant, and at it, it has not. -/
theorem not_isExpiredAt_iff {r : Record} {now : Instant} :
    r.isExpiredAt now = false ↔ now ≤ r.expiresAt := by
  rw [← not_lt, ← isExpiredAt_iff, Bool.not_eq_true]

/-- What has expired stays expired. -/
theorem isExpiredAt_mono {r : Record} {now later : Instant} (hle : now ≤ later)
    (h : r.isExpiredAt now = true) : r.isExpiredAt later = true := by
  rw [isExpiredAt_iff] at h ⊢
  exact lt_of_lt_of_le h hle

/-- What has not expired later on has not expired now. -/
theorem live_of_le {r : Record} {now later : Instant} (hle : now ≤ later)
    (h : r.isExpiredAt later = false) : r.isExpiredAt now = false := by
  rw [Bool.eq_false_iff]
  intro hexpired
  rw [isExpiredAt_mono hle hexpired] at h
  exact nomatch h

/-- An expired record expires before one that has not expired. -/
theorem lt_of_isExpiredAt {a b : Record} {now : Instant} (ha : a.isExpiredAt now = true)
    (hb : b.isExpiredAt now = false) : a.expiresAt < b.expiresAt :=
  lt_of_lt_of_le (isExpiredAt_iff.1 ha) (not_isExpiredAt_iff.1 hb)

end Record

end Idempotency
