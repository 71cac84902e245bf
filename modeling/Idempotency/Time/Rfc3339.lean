import Idempotency.Decimal.Whole
import Idempotency.Text.Blank
import Idempotency.Time.Calendar
import Idempotency.Time.Instant

/-!
# `Idempotency.Time.Rfc3339`: instants as text

`Instant.text` writes one form: date, `T`, time, `Z`. The fraction of the
second has no digits, three, six or nine, as few as show it exactly. A year
outside 0 to 9999 has a sign and at least four digits. A leap second is
second 60.

`Instant.ofText` reads that form and looser ones: blanks between the parts,
numbers with fewer digits, `t` or a blank for `T`, any offset from UTC, digits
beyond the ninth, which are dropped. Each number is checked as it is read, the
day of the month and the offset only when the whole text has been read.
-/

set_option autoImplicit false

namespace Idempotency

namespace Rfc3339

open Decimal (decimal padded)

/-! ### Writing -/

/-- The text of a year. -/
def yearText (year : Int) : List Char :=
  if 0 ≤ year && year ≤ 9999 then padded 4 year.natAbs
  else (if year < 0 then '-' else '+') :: padded 4 year.natAbs

/-- The text of a fraction of a second. -/
def fractionText (nanos : Nat) : List Char :=
  if nanos = 0 then []
  else if nanos % 1000000 = 0 then '.' :: padded 3 (nanos / 1000000)
  else if nanos % 1000 = 0 then '.' :: padded 6 (nanos / 1000)
  else '.' :: padded 9 nanos

/-- The text of a date. -/
def dateText (d : Date) : List Char :=
  yearText d.year ++ '-' :: padded 2 d.month ++ '-' :: padded 2 d.day

/-- The text of a time of day; a leap second shows as the second after the one
it continues. -/
def timeText (secondOfDay nanos : Nat) : List Char :=
  let leap := nanosPerSecond ≤ nanos
  let second := secondOfDay % 60 + if leap then 1 else 0
  padded 2 (secondOfDay / 3600) ++ ':' :: padded 2 (secondOfDay / 60 % 60)
    ++ ':' :: padded 2 second
    ++ fractionText (if leap then nanos - nanosPerSecond else nanos)

/-! ### Reading -/

/-- Why a text is no instant. -/
inductive Error
  | tooShort
  | invalid
  | outOfRange
  | tooLong
  /-- The instant is before the first or after the last. -/
  | impossible
  deriving DecidableEq

/-- The wording of a refusal. -/
def Error.message : Error → String
  | .tooShort => "premature end of input"
  | .invalid => "input contains invalid characters"
  | .outOfRange => "input is out of range"
  | .tooLong => "trailing input"
  | .impossible => "no possible date and time matching input"

/-- A reader of part of an instant. -/
abbrev Reader (α : Type) := List Char → Except Error (α × List Char)

/-- Whether a character is a decimal digit. -/
def isDigit (c : Char) : Bool := '0' ≤ c && c ≤ '9'

/-- The value of decimal digits. -/
def value (ds : List Char) : Nat := ds.foldl (fun n d => n * 10 + (d.toNat - '0'.toNat)) 0

/-- One digit or more, at most `most` of them. -/
def readDigits (most : Option Nat) : Reader (List Char) := fun cs =>
  match cs with
  | [] => .error .tooShort
  | c :: _ =>
    if isDigit c then
      let ds := cs.takeWhile isDigit
      -- Digits beyond the most belong to whatever comes next.
      let ds := match most with
        | some n => ds.take n
        | none => ds
      .ok (ds, cs.drop ds.length)
    else .error .invalid

/-- A number of one or two digits from `low` to `high`. -/
def readField (low high : Nat) : Reader Nat := fun cs => do
  let (ds, rest) ← readDigits (some 2) (Text.trimStart cs)
  let n := value ds
  if low ≤ n && n ≤ high then .ok (n, rest) else .error .outOfRange

/-- A year of up to four digits, or of any number of them after a sign. -/
def readYear : Reader Int := fun cs => do
  let (n, rest) ← show Except Error (Int × List Char) from
    match Text.trimStart cs with
    | '-' :: rest => (readDigits none rest).map fun (ds, rest) => (-(value ds : Int), rest)
    | '+' :: rest => (readDigits none rest).map fun (ds, rest) => ((value ds : Int), rest)
    | cs => (readDigits (some 4) cs).map fun (ds, rest) => ((value ds : Int), rest)
  if -2147483648 ≤ n && n ≤ 2147483647 then .ok (n, rest) else .error .outOfRange

/-- A punctuation mark, with blanks allowed before it. -/
def readMark (mark : Char) (cs : List Char) : Except Error (List Char) :=
  match Text.trimStart cs with
  | [] => .error .tooShort
  | c :: rest => if c = mark then .ok rest else .error .invalid

/-- A date; whether there is such a day is not asked yet. -/
def readDate : Reader Date := fun cs => do
  let (year, cs) ← readYear cs
  let cs ← readMark '-' cs
  let (month, cs) ← readField 1 12 cs
  let cs ← readMark '-' cs
  let (day, cs) ← readField 1 31 cs
  .ok (⟨year, month, day⟩, cs)

/-- What stands between date and time. -/
def readSeparator : List Char → Except Error (List Char)
  | [] => .error .tooShort
  | c :: rest => if c = 't' || c = 'T' || c = ' ' then .ok rest else .error .invalid

/-- Up to nine digits after a point, in nanoseconds; later digits are
dropped. -/
def readFraction : Reader Nat
  | '.' :: rest => do
    let (ds, rest) ← readDigits none rest
    let ds := ds.take 9
    .ok (value ds * Nat.pow 10 (9 - ds.length), rest)
  | rest => .ok (0, rest)

/-- A time of day, in seconds and nanoseconds. Second 60 continues second
59. -/
def readTime : Reader (Nat × Nat) := fun cs => do
  let (hour, cs) ← readField 0 23 cs
  let cs ← readMark ':' cs
  let (minute, cs) ← readField 0 59 cs
  let cs ← readMark ':' cs
  let (second, cs) ← readField 0 60 cs
  let (nanos, cs) ← readFraction cs
  let leap := second = 60
  .ok ((hour * 3600 + minute * 60 + (if leap then 59 else second),
    if leap then nanos + nanosPerSecond else nanos), cs)

/-- Two digits, the first at most `high`. A text that is one byte long at most
ends too early. -/
def readPair (high : Char) : Reader Nat
  | d₁ :: d₂ :: rest =>
    if isDigit d₁ && isDigit d₂ then
      if d₁ ≤ high then .ok (value [d₁, d₂], rest) else .error .outOfRange
    else .error .invalid
  | [c] => if c.utf8Size = 1 then .error .tooShort else .error .invalid
  | [] => .error .tooShort

/-- Whether a character may stand between the hours and minutes of an
offset. -/
def isOffsetMark (c : Char) : Bool := c == ':' || Text.isBlank c

/-- Hours and minutes of an offset, in seconds. -/
def readHoursMinutes : Reader Int := fun cs => do
  let (hours, cs) ← readPair '9' cs
  let (minutes, cs) ← readPair '5' (cs.dropWhile isOffsetMark)
  .ok ((hours * 3600 + minutes * 60 : Nat), cs)

/-- An offset from UTC, in seconds east. -/
def readOffset : Reader Int
  | [] => .error .tooShort
  | 'Z' :: rest => .ok (0, rest)
  | 'z' :: rest => .ok (0, rest)
  | '+' :: rest => readHoursMinutes rest
  | '-' :: rest => (readHoursMinutes rest).map fun (n, rest) => (-n, rest)
  | '−' :: rest => (readHoursMinutes rest).map fun (n, rest) => (-n, rest)
  | _ => .error .invalid

/-- The name of UTC, in letters of either case, or an offset. -/
def readZone : Reader Int := fun cs =>
  match cs with
  | u :: t :: c :: rest =>
    if (u = 'U' || u = 'u') && (t = 'T' || t = 't') && (c = 'C' || c = 'c') then .ok (0, rest)
    else readOffset cs
  | _ => readOffset cs

/-- The years that have instants. -/
def isYear (year : Int) : Bool := -262143 ≤ year && year ≤ 262142

/-- The instant of a date and time at an offset. -/
def resolve (date : Date) (secondOfDay nanos : Nat) (offset : Int) : Except Error Instant :=
  if !(isYear date.year && date.isDay) then .error .outOfRange
  else if 86400 ≤ offset.natAbs then .error .outOfRange
  else
    -- The offset may carry a day of the first or last year out of the range.
    match Instant.ofParts? (date.toDays * 86400 + secondOfDay - offset) nanos with
    | some t => .ok t
    | none => .error .impossible

end Rfc3339

/-- The text of an instant. -/
def Instant.text (t : Instant) : List Char :=
  let day := t.seconds / 86400
  Rfc3339.dateText (Date.ofDays day) ++ 'T'
    :: Rfc3339.timeText (t.seconds - day * 86400).toNat t.nanos ++ ['Z']

/-- The instant a text stands for. -/
def Instant.ofText (cs : List Char) : Except Rfc3339.Error Instant := do
  let (date, cs) ← Rfc3339.readDate cs
  let cs ← Rfc3339.readSeparator cs
  let ((secondOfDay, nanos), cs) ← Rfc3339.readTime cs
  let (offset, cs) ← Rfc3339.readZone (Text.trimStart cs)
  if !(Text.trimStart cs).isEmpty then .error .tooLong
  else Rfc3339.resolve date secondOfDay nanos offset

end Idempotency
