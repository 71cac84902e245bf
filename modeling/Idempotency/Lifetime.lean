import Idempotency.Time.Instant

/-!
# `Idempotency.Lifetime`: how long records count

Records count for seven days unless a longer or shorter time is asked for. A
length of nothing, or less, asks for nothing.
-/

set_option autoImplicit false

namespace Idempotency.Lifetime

/-- Seven days, in seconds. -/
def standardSeconds : Int := 7 * 24 * 60 * 60

/-- The lifetime of records when none is asked for. -/
def standard : Span := .ofSeconds standardSeconds

/-- The lifetime for what was asked for. -/
def resolve (asked : Option Span) : Span :=
  match asked with
  | some d => if d.isPositive then d else standard
  | none => standard

/-- Records always have some time to count. -/
theorem isPositive_resolve (asked : Option Span) : (resolve asked).isPositive = true := by
  unfold resolve
  split
  · split
    · assumption
    · decide
  · decide

end Idempotency.Lifetime
