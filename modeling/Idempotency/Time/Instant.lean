/-!
# `Idempotency.Time.Instant`: points in time and lengths of time

A `Span` is a signed length, an `Instant` a point of Coordinated Universal
Time, both to the nanosecond. Instants are the ones of the years -262143 to
262142. A leap second is the continuation of the second before it: its
nanoseconds count on from one thousand million, and the second it continues is
the last of a minute.

Away from leap seconds, `Instant.add?` is exact addition of nanoseconds, with
no answer outside the range.
-/

set_option autoImplicit false

namespace Idempotency

/-- Nanoseconds in a second. -/
abbrev nanosPerSecond : Nat := 1000000000

/-- A length of time, `seconds + nanos / 10 ^ 9`; a negative length has
negative seconds and nanoseconds that count up. -/
structure Span where
  seconds : Int
  nanos : Nat
  nanos_lt : nanos < nanosPerSecond := by decide
  deriving DecidableEq

namespace Span

/-- A whole number of seconds. -/
def ofSeconds (seconds : Int) : Span := { seconds := seconds, nanos := 0 }

/-- The length with these parts, if the nanoseconds are a part of a second. -/
def ofParts? (seconds : Int) (nanos : Nat) : Option Span :=
  if h : nanos < nanosPerSecond then some ⟨seconds, nanos, h⟩ else none

/-- The length in nanoseconds. -/
def total (d : Span) : Int := d.seconds * nanosPerSecond + d.nanos

/-- Whether the length is more than nothing. -/
def isPositive (d : Span) : Bool := 0 < d.total

/-- The length in whole seconds; the rest is dropped, towards zero. -/
def wholeSeconds (d : Span) : Int := d.total.tdiv nanosPerSecond

instance : Inhabited Span := ⟨ofSeconds 0⟩

end Span

namespace Instant

/-- Midnight at the start of the year -262143. -/
abbrev firstSecond : Int := -8334601228800

/-- The last second of the year 262142. -/
abbrev lastSecond : Int := 8210266876799

end Instant

/-- A point in time: seconds since the start of 1970, and nanoseconds. -/
structure Instant where
  seconds : Int
  nanos : Nat
  first_le : Instant.firstSecond ≤ seconds := by decide
  le_last : seconds ≤ Instant.lastSecond := by decide
  nanos_ok : nanos < nanosPerSecond
      ∨ (seconds % 60 = 59 ∧ nanos < 2 * nanosPerSecond) := by decide
  deriving DecidableEq

namespace Instant

/-- The first instant. -/
def first : Instant := { seconds := firstSecond, nanos := 0 }

/-- The last instant that is not in a leap second. -/
def last : Instant := { seconds := lastSecond, nanos := 999999999 }

instance : Inhabited Instant := ⟨first⟩

/-- The instant with these parts, if there is one. -/
def ofParts? (seconds : Int) (nanos : Nat) : Option Instant :=
  if h : firstSecond ≤ seconds ∧ seconds ≤ lastSecond ∧
      (nanos < nanosPerSecond ∨ (seconds % 60 = 59 ∧ nanos < 2 * nanosPerSecond)) then
    some ⟨seconds, nanos, h.1, h.2.1, h.2.2⟩
  else none

/-- Earlier in time. A leap second comes after the second it continues and
before the next one. -/
def before (a b : Instant) : Bool :=
  a.seconds < b.seconds || (a.seconds == b.seconds && a.nanos < b.nanos)

instance : LT Instant := ⟨fun a b => a.before b = true⟩

instance (a b : Instant) : Decidable (a < b) := inferInstanceAs (Decidable (_ = true))

instance : LE Instant := ⟨fun a b => ¬ b < a⟩

instance (a b : Instant) : Decidable (a ≤ b) := inferInstanceAs (Decidable (¬ _))

/-- Nanoseconds since the start of 1970. -/
def total (t : Instant) : Int := t.seconds * nanosPerSecond + t.nanos

/-- The instant so many nanoseconds after the start of 1970. -/
def ofTotal? (total : Int) : Option Instant :=
  ofParts? (total / nanosPerSecond) (total % nanosPerSecond).toNat

/-- Whether the instant is in a leap second. -/
def isLeap (t : Instant) : Bool := nanosPerSecond ≤ t.nanos

/-- The instant a length later, or earlier if the length is negative. A leap
second can be moved about in; once left, it takes no time forwards, and
backwards it is left from its end. -/
def add? (t : Instant) (d : Span) : Option Instant :=
  if !t.isLeap then ofTotal? (t.total + d.total)
  -- Past the end of the leap second, which itself takes no time.
  else if 2 * nanosPerSecond ≤ t.nanos + d.total then
    ofTotal? (t.total - nanosPerSecond + d.total)
  -- Back by a second or more, the leap second counts as the one after it.
  else if d.total ≤ -nanosPerSecond then ofTotal? (t.total + d.total)
  -- Within the leap second, or the one it continues.
  else ofParts? t.seconds (t.nanos + d.total).toNat

end Instant

end Idempotency
