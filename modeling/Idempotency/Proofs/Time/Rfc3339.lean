import Idempotency.Time.Rfc3339
import Idempotency.Proofs.Decimal.Whole
import Idempotency.Proofs.Text.Blank
import Idempotency.Proofs.Time.Calendar

/-!
# `Idempotency.Proofs.Time.Rfc3339`: written instants read back

The text of an instant reads as the instant (`Instant.ofText_text`), in any year
and in leap seconds, and with the fraction of its second to the nanosecond.

The proof follows the text: each part that is written has the reader that takes
it and leaves what follows.
-/

set_option autoImplicit false

namespace Idempotency

namespace Rfc3339

open Decimal (decimal padded)

variable {ds rest : List Char} {n : Nat}

/-! ### Digits -/

/-- The digits of dates are the decimal ones. -/
theorem isDigit_eq (c : Char) : isDigit c = c.isDigit := by
  simp [isDigit, Char.isDigit, Char.le_def]

/-- They stand for the number that they spell. -/
theorem value_eq (ds : List Char) : value ds = Nat.ofDigitChars 10 ds 0 := by
  unfold value Nat.ofDigitChars
  congr 1
  funext n c
  rw [Nat.mul_comm]

/-- There is no blank in front of digits. -/
theorem trimStart_digits (hds : ∀ c ∈ ds, c.isDigit = true) (hne : ds ≠ []) (rest : List Char) :
    Text.trimStart (ds ++ rest) = ds ++ rest := by
  obtain ⟨c, more, rfl⟩ := List.exists_cons_of_ne_nil hne
  exact Text.trimStart_cons (Decimal.isBlank_digit (hds c List.mem_cons_self)) _

/-- All of the digits are taken. -/
theorem takeWhile_digits (hds : ∀ c ∈ ds, c.isDigit = true) (rest : List Char) :
    (ds ++ rest).takeWhile isDigit = ds ++ rest.takeWhile isDigit :=
  List.takeWhile_append_of_pos fun c hc => by rw [isDigit_eq, hds c hc]

/-- Where a digit stands, digits are taken. -/
theorem readDigits_eq (hds : ∀ c ∈ ds, c.isDigit = true) (hne : ds ≠ []) (most : Option Nat)
    {taken : List Char} (htaken : (match most with
      | some n => ((ds ++ rest).takeWhile isDigit).take n
      | none => (ds ++ rest).takeWhile isDigit) = taken) :
    readDigits most (ds ++ rest) = .ok (taken, (ds ++ rest).drop taken.length) := by
  obtain ⟨c, more, rfl⟩ := List.exists_cons_of_ne_nil hne
  subst htaken
  cases most with
  | none => simp only [List.cons_append, readDigits, isDigit_eq, hds c List.mem_cons_self, if_true]
  | some n =>
    simp only [List.cons_append, readDigits, isDigit_eq, hds c List.mem_cons_self, if_true]

/-- Digits are taken up to the most that are wanted, whatever follows. -/
theorem readDigits_some (hds : ∀ c ∈ ds, c.isDigit = true) (hne : ds ≠ [])
    (hlength : ds.length = n) : readDigits (some n) (ds ++ rest) = .ok (ds, rest) := by
  have htake : ((ds ++ rest).takeWhile isDigit).take n = ds := by
    rw [takeWhile_digits hds, List.take_append_of_le_length (by omega), ← hlength,
      List.take_length]
  rw [readDigits_eq hds hne (some n) htake, List.drop_left]

/-- Without a most, they are taken up to what is no digit. -/
theorem readDigits_none (hds : ∀ c ∈ ds, c.isDigit = true) (hne : ds ≠ []) {c : Char}
    (hc : c.isDigit = false) : readDigits none (ds ++ c :: rest) = .ok (ds, c :: rest) := by
  have htake : (ds ++ c :: rest).takeWhile isDigit = ds := by
    rw [takeWhile_digits hds, List.takeWhile_cons, isDigit_eq, hc]
    simp
  rw [readDigits_eq hds hne none htake, List.drop_left]

/-- A field of two digits reads back. -/
theorem readField_padded {low high : Nat} (hlow : low ≤ n) (hhigh : n ≤ high)
    (hfits : n < 100) : readField low high (padded 2 n ++ rest) = .ok (n, rest) := by
  have hds : ∀ c ∈ padded 2 n, c.isDigit = true := fun c hc => Decimal.isDigit_of_mem_padded hc
  have hne := Decimal.padded_ne_nil 2 n
  have hlength : (padded 2 n).length = 2 := Decimal.length_padded hfits (by decide)
  simp only [readField, trimStart_digits hds hne, readDigits_some hds hne hlength, bind,
    Except.bind, value_eq, Decimal.ofDigitChars_padded, hlow, hhigh, decide_true, Bool.and_self,
    if_true]

/-- A mark that comes at once is read. -/
theorem readMark_cons {mark : Char} (h : Text.isBlank mark = false) (rest : List Char) :
    readMark mark (mark :: rest) = .ok rest := by
  simp [readMark, Text.trimStart_cons h]

/-! ### Dates -/

/-- A year reads back, with a sign or without one. -/
theorem readYear_yearText {year : Int} (hlow : -2147483648 ≤ year) (hhigh : year ≤ 2147483647)
    (rest : List Char) : readYear (yearText year ++ '-' :: rest) = .ok (year, '-' :: rest) := by
  have hds : ∀ c ∈ padded 4 year.natAbs, c.isDigit = true := fun c hc =>
    Decimal.isDigit_of_mem_padded hc
  have hne := Decimal.padded_ne_nil 4 year.natAbs
  have hsigned : readDigits none (padded 4 year.natAbs ++ '-' :: rest)
      = .ok (padded 4 year.natAbs, '-' :: rest) := readDigits_none hds hne (by decide)
  have hvalue : value (padded 4 year.natAbs) = year.natAbs := by
    rw [value_eq, Decimal.ofDigitChars_padded]
  have hrange : (decide (-2147483648 ≤ year) && decide (year ≤ 2147483647)) = true := by
    simp [hlow, hhigh]
  unfold yearText
  split
  · next h =>
    simp only [Bool.and_eq_true, decide_eq_true_eq] at h
    have hlength : (padded 4 year.natAbs).length = 4 :=
      Decimal.length_padded (show year.natAbs < 10000 by omega) (by decide)
    have hread : readDigits (some 4) (padded 4 year.natAbs ++ '-' :: rest)
        = .ok (padded 4 year.natAbs, '-' :: rest) := readDigits_some hds hne hlength
    have hyear : (year.natAbs : Int) = year := by omega
    -- A year of four digits is read without a sign, and its digits end by count.
    have hnosign : ∀ d more, padded 4 year.natAbs ++ '-' :: rest = d :: more →
        d.isDigit = true := by
      intro d more heq
      obtain ⟨c, ds, hpadded⟩ := List.exists_cons_of_ne_nil hne
      rw [hpadded, List.cons_append] at heq
      rw [← (List.cons.inj heq).1]
      exact hds c (by simp [hpadded])
    unfold readYear
    rw [trimStart_digits hds hne]
    split
    · next heq => exact absurd (hnosign '-' _ heq) (by decide)
    · next heq => exact absurd (hnosign '+' _ heq) (by decide)
    · simp only [hread, Except.map, hvalue, hyear, bind, Except.bind, hrange, if_true]
  · split
    · next hnegative =>
      have hyear : -(year.natAbs : Int) = year := by omega
      simp only [readYear, List.cons_append,
        Text.trimStart_cons (show Text.isBlank '-' = false by decide), hsigned, Except.map,
        hvalue, hyear, bind, Except.bind, hrange, if_true]
    · next hpositive =>
      have hyear : (year.natAbs : Int) = year := by omega
      simp only [readYear, List.cons_append,
        Text.trimStart_cons (show Text.isBlank '+' = false by decide), hsigned, Except.map,
        hvalue, hyear, bind, Except.bind, hrange, if_true]

/-- A date of the calendar reads back. -/
theorem readDate_dateText {date : Date} (hday : date.isDay = true)
    (hlow : -2147483648 ≤ date.year) (hhigh : date.year ≤ 2147483647) (rest : List Char) :
    readDate (dateText date ++ rest) = .ok (date, rest) := by
  obtain ⟨hmonth, hmonth', hfrom, hto⟩ := Date.isDay_iff.1 hday
  have hdays : Date.daysInMonth date.year date.month ≤ 31 := by
    unfold Date.daysInMonth
    repeat' split
    all_goals decide
  have hsplit : dateText date ++ rest
      = yearText date.year
        ++ '-' :: (padded 2 date.month ++ '-' :: (padded 2 date.day ++ rest)) := by
    simp [dateText]
  have hmark : ∀ more, readMark '-' ('-' :: more) = .ok more := readMark_cons (by decide)
  rw [hsplit]
  simp only [readDate, readYear_yearText hlow hhigh, hmark,
    readField_padded hmonth hmonth' (show date.month < 100 by omega),
    readField_padded hfrom (show date.day ≤ 31 by omega) (show date.day < 100 by omega), bind,
    Except.bind]

/-! ### Times of day -/

/-- The fraction of a second reads back, whether it is written in three, six or nine
digits, or not at all. -/
theorem readFraction_fractionText (hfits : n < 1000000000) (rest : List Char) :
    readFraction (fractionText n ++ 'Z' :: rest) = .ok (n, 'Z' :: rest) := by
  -- The digits that are left out are zeros, which the reader puts back.
  have hpart : ∀ {width m : Nat}, 0 < width → width ≤ 9 → m < Nat.pow 10 width →
      readFraction ('.' :: padded width m ++ 'Z' :: rest)
        = .ok (m * Nat.pow 10 (9 - width), 'Z' :: rest) := by
    intro width m hpos hle hm
    have hds : ∀ c ∈ padded width m, c.isDigit = true := fun c hc =>
      Decimal.isDigit_of_mem_padded hc
    have hlength := Decimal.length_padded hm hpos
    have hread : readDigits none (padded width m ++ 'Z' :: rest)
        = .ok (padded width m, 'Z' :: rest) :=
      readDigits_none hds (Decimal.padded_ne_nil width m) (by decide)
    have htake : (padded width m).take 9 = padded width m :=
      List.take_of_length_le (by omega)
    simp only [List.cons_append, readFraction, hread, bind, Except.bind, htake, value_eq,
      Decimal.ofDigitChars_padded, hlength]
  unfold fractionText
  split
  · next h =>
    subst h
    rfl
  · split
    · rw [hpart (by decide) (by decide) (show n / 1000000 < 1000 by omega)]
      simp
      omega
    · split
      · rw [hpart (by decide) (by decide) (show n / 1000 < 1000000 by omega)]
        simp
        omega
      · rw [hpart (by decide) (by decide) (show n < 1000000000 by omega)]
        simp

/-- The parts of a time of day are read one after the other. -/
theorem readTime_parts {hour minute second fraction : Nat} (hhour : hour ≤ 23)
    (hminute : minute ≤ 59) (hsecond : second ≤ 60) (hfraction : fraction < 1000000000)
    (rest : List Char) :
    readTime (padded 2 hour ++ ':' :: (padded 2 minute ++ ':' :: (padded 2 second
        ++ (fractionText fraction ++ 'Z' :: rest))))
      = .ok ((hour * 3600 + minute * 60 + (if second = 60 then 59 else second),
          if second = 60 then fraction + nanosPerSecond else fraction), 'Z' :: rest) := by
  have hmark : ∀ more, readMark ':' (':' :: more) = .ok more := readMark_cons (by decide)
  simp only [readTime, hmark, readField_padded (Nat.zero_le hour) hhour (by omega),
    readField_padded (Nat.zero_le minute) hminute (by omega),
    readField_padded (Nat.zero_le second) hsecond (by omega),
    readFraction_fractionText hfraction, bind, Except.bind]

/-- A time of day reads back, also in a leap second. -/
theorem readTime_timeText {second nanos : Nat} (hsecond : second < 86400)
    (hnanos : nanos < nanosPerSecond ∨ (second % 60 = 59 ∧ nanos < 2 * nanosPerSecond))
    (rest : List Char) :
    readTime (timeText second nanos ++ 'Z' :: rest) = .ok ((second, nanos), 'Z' :: rest) := by
  have hsplit : timeText second nanos ++ 'Z' :: rest
      = padded 2 (second / 3600) ++ ':' :: (padded 2 (second / 60 % 60) ++ ':'
          :: (padded 2 (second % 60 + if nanosPerSecond ≤ nanos then 1 else 0)
            ++ (fractionText (if nanosPerSecond ≤ nanos then nanos - nanosPerSecond else nanos)
              ++ 'Z' :: rest))) := by
    simp only [timeText, List.append_assoc, List.cons_append]
  have hN : nanosPerSecond = 1000000000 := rfl
  -- A leap second is written as second 60, and read as second 59 going on.
  by_cases hleap : nanosPerSecond ≤ nanos
  · have hsixty : second % 60 + 1 = 60 := by omega
    rw [hsplit, if_pos hleap, if_pos hleap, hsixty,
      readTime_parts (by omega) (by omega) (Nat.le_refl 60) (by omega), if_pos rfl, if_pos rfl,
      Nat.sub_add_cancel hleap,
      show second / 3600 * 3600 + second / 60 % 60 * 60 + 59 = second by omega]
  · have hne : ¬ second % 60 = 60 := by omega
    rw [hsplit, if_neg hleap, if_neg hleap, Nat.add_zero,
      readTime_parts (by omega) (by omega) (by omega) (by omega), if_neg hne, if_neg hne,
      show second / 3600 * 3600 + second / 60 % 60 * 60 + second % 60 = second by omega]

end Rfc3339

/-- The text of an instant reads as the instant. -/
theorem Instant.ofText_text (t : Instant) : Instant.ofText t.text = .ok t := by
  have hfirst := t.first_le
  have hlast := t.le_last
  have hnanos := t.nanos_ok
  unfold Instant.firstSecond at hfirst
  unfold Instant.lastSecond at hlast
  have hN : nanosPerSecond = 1000000000 := rfl
  obtain ⟨day, hday⟩ : ∃ day, day = t.seconds / 86400 := ⟨_, rfl⟩
  obtain ⟨second, hsecond⟩ : ∃ second, second = (t.seconds - day * 86400).toNat := ⟨_, rfl⟩
  have hseconds : day * 86400 + second = t.seconds := by omega
  obtain ⟨hlow, hhigh⟩ : -262143 ≤ (Date.ofDays day).year ∧ (Date.ofDays day).year ≤ 262142 :=
    Date.year_ofDays (by omega) (by omega)
  have hdate : ∀ more, Rfc3339.readDate (Rfc3339.dateText (Date.ofDays day) ++ more)
      = .ok (Date.ofDays day, more) := fun more =>
    Rfc3339.readDate_dateText (Date.isDay_ofDays day) (by omega) (by omega) more
  have htime : Rfc3339.readTime (Rfc3339.timeText second t.nanos ++ ['Z'])
      = .ok ((second, t.nanos), ['Z']) :=
    Rfc3339.readTime_timeText (by omega) (by omega) []
  have htext : t.text = Rfc3339.dateText (Date.ofDays day)
      ++ 'T' :: (Rfc3339.timeText second t.nanos ++ ['Z']) := by
    simp only [Instant.text, ← hday, ← hsecond, List.append_assoc, List.cons_append]
  have hparts : Instant.ofParts? t.seconds t.nanos = some t := by
    unfold Instant.ofParts?
    rw [dif_pos ⟨t.first_le, t.le_last, t.nanos_ok⟩]
  have hresolve : Rfc3339.resolve (Date.ofDays day) second t.nanos 0 = .ok t := by
    simp only [Rfc3339.resolve, Rfc3339.isYear, hlow, hhigh, Date.isDay_ofDays,
      Date.toDays_ofDays, Int.sub_zero, hseconds, hparts, decide_true, Bool.and_self,
      Bool.not_true, Bool.false_eq_true, Int.natAbs_zero, if_false]
    rfl
  have hseparator : ∀ more, Rfc3339.readSeparator ('T' :: more) = .ok more := fun more => rfl
  have hzone : Rfc3339.readZone (Text.trimStart ['Z']) = .ok (0, []) := rfl
  rw [htext]
  simp only [Instant.ofText, hdate, bind, Except.bind, hseparator, htime, hzone, hresolve]
  rfl

end Idempotency
