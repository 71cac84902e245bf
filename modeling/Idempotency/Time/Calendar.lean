/-!
# `Idempotency.Time.Calendar`: days and dates

The Gregorian calendar, extended without end in both directions; year 0 is
the year before year 1. A day is counted from the first of January 1970.

Both directions reckon years from the first of March, so that the leap day is
the last of its year, and work inside cycles of four hundred years, each of
which has 146097 days.
-/

set_option autoImplicit false

namespace Idempotency

/-- A date by its numbers; not every triple is a day. -/
structure Date where
  year : Int
  month : Nat
  day : Nat
  deriving DecidableEq

namespace Date

/-- Whether the year has a twenty-ninth of February. -/
def isLeapYear (year : Int) : Bool :=
  year % 4 == 0 && (year % 100 != 0 || year % 400 == 0)

/-- The number of days of a month. -/
def daysInMonth (year : Int) (month : Nat) : Nat :=
  if month = 2 then (if isLeapYear year then 29 else 28)
  else if month = 4 || month = 6 || month = 9 || month = 11 then 30
  else 31

/-- Whether the date is a day of the calendar. -/
def isDay (d : Date) : Bool :=
  1 ≤ d.month && d.month ≤ 12 && 1 ≤ d.day && d.day ≤ daysInMonth d.year d.month

/-- Days since the first of January 1970. -/
def toDays (d : Date) : Int :=
  -- January and February belong to the year that began in March before.
  let year := if d.month ≤ 2 then d.year - 1 else d.year
  let cycle := year / 400
  let yearOfCycle := year % 400
  let month : Int := ((d.month + 9) % 12 : Nat)
  -- From March on, months come in fives of 31, 30, 31, 30, 31 days, which
  -- make 153.
  let dayOfYear := (153 * month + 2) / 5 + d.day - 1
  let dayOfCycle := yearOfCycle * 365 + yearOfCycle / 4 - yearOfCycle / 100 + dayOfYear
  -- That many days lie between the first of March of year 0 and 1970.
  cycle * 146097 + dayOfCycle - 719468

/-- The date of a day. -/
def ofDays (days : Int) : Date :=
  let shifted := days + 719468
  let cycle := shifted / 146097
  let dayOfCycle := (shifted % 146097).toNat
  -- Without the leap days passed so far, every year has 365 days.
  let yearOfCycle :=
    (dayOfCycle - dayOfCycle / 1460 + dayOfCycle / 36524 - dayOfCycle / 146096) / 365
  let dayOfYear := dayOfCycle - (365 * yearOfCycle + yearOfCycle / 4 - yearOfCycle / 100)
  let marchMonth := (5 * dayOfYear + 2) / 153
  let day := dayOfYear - (153 * marchMonth + 2) / 5 + 1
  let month := if marchMonth < 10 then marchMonth + 3 else marchMonth - 9
  let year : Int := yearOfCycle + cycle * 400
  { year := if month ≤ 2 then year + 1 else year, month := month, day := day }

end Date

end Idempotency
