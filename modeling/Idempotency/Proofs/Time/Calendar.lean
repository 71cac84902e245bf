import Idempotency.Time.Calendar

/-!
# `Idempotency.Proofs.Time.Calendar`: every day has its date

The date of a day is a day of the calendar (`isDay_ofDays`), and its day is the
one that it was made of (`toDays_ofDays`).

A day of a cycle of four hundred years lies in one of four centuries, in one of
its twenty-five groups of four years, and in one of the four years of that
(`exists_parts`). The last century, group and year are those that are longer
than the others. In these parts the number of the year and the day of the year
can be read off the day (`yearOfCycle_eq`), which the formulas by division do
not show.
-/

set_option autoImplicit false

namespace Idempotency.Date

/-! ### Cycles of four hundred years -/

/-- The year of a cycle in which a day of the cycle is. -/
def yearOfCycle (d : Nat) : Nat := (d - d / 1460 + d / 36524 - d / 146096) / 365

/-- The first day of a year of a cycle. -/
def firstDay (y : Nat) : Nat := 365 * y + y / 4 - y / 100

/-- The century, the group of years, the year and the day of the year. -/
theorem exists_parts {d : Nat} (hd : d ≤ 146096) :
    ∃ c q r s, d = 36524 * c + 1461 * q + 365 * r + s ∧ c ≤ 3 ∧ q ≤ 24 ∧ r ≤ 3 ∧ s ≤ 365
      ∧ (s = 365 → r = 3 ∧ (q < 24 ∨ c = 3)) := by
  obtain ⟨c, hc⟩ : ∃ c, c = min (d / 36524) 3 := ⟨_, rfl⟩
  obtain ⟨e, he⟩ : ∃ e, e = d - 36524 * c := ⟨_, rfl⟩
  obtain ⟨r, hr⟩ : ∃ r, r = min (e % 1461 / 365) 3 := ⟨_, rfl⟩
  refine ⟨c, e / 1461, r, e % 1461 - 365 * r, ?_, ?_, ?_, ?_, ?_, ?_⟩ <;> omega

section
variable {d c q r s : Nat} (hd : d = 36524 * c + 1461 * q + 365 * r + s) (hc : c ≤ 3)
  (hq : q ≤ 24) (hr : r ≤ 3) (hs : s ≤ 365) (hlast : s = 365 → r = 3 ∧ (q < 24 ∨ c = 3))
include hd hc hq hr hs hlast

/-- A cycle is a day longer than four centuries. -/
theorem centuries_eq : d / 36524 - d / 146096 = c ∧ d / 146096 ≤ d / 36524 := by
  by_cases hin : 1461 * q + 365 * r + s < 36524
  · have hcentury : d / 36524 = c := by omega
    have hcycle : d / 146096 = 0 := by omega
    omega
  · -- Only the last day of the cycle is left.
    obtain ⟨hr', hor⟩ := hlast (by omega)
    have hq' : q = 24 := by omega
    have hc' : c = 3 := by omega
    subst hd hr' hq' hc'
    have hs' : s = 365 := by omega
    subst hs'
    decide

/-- The leap days of a century that are over, and perhaps the one that is to
come. -/
theorem leapDays_eq :
    ∃ δ, d / 1460 = 25 * c + q + δ ∧ δ ≤ s ∧ s < 365 + δ := by
  refine ⟨(24 * c + q + 365 * r + s) / 1460, by omega, by omega, ?_⟩
  by_cases hleap : s = 365
  · obtain ⟨rfl, _⟩ := hlast hleap
    omega
  · omega

/-- The year is that of the century, the group and the year in it. -/
theorem yearOfCycle_eq : yearOfCycle d = 100 * c + 4 * q + r := by
  obtain ⟨hcenturies, hle⟩ := centuries_eq hd hc hq hr hs hlast
  obtain ⟨δ, hleap, hδ, hlt⟩ := leapDays_eq hd hc hq hr hs hlast
  have hsplit : d - d / 1460 + d / 36524 - d / 146096
      = 365 * (100 * c + 4 * q + r) + (s - δ) := by omega
  rw [yearOfCycle, hsplit]
  omega

end

/-- Each century before a year is a day short of a whole number of groups. -/
theorem firstDay_eq {c q r : Nat} (hq : q ≤ 24) (hr : r ≤ 3) :
    firstDay (100 * c + 4 * q + r) = 36524 * c + 1461 * q + 365 * r := by
  unfold firstDay
  omega

/-- A day of a cycle is so many days after the first of its year, and three
hundred and sixty-five only if the year ends in a leap day. -/
theorem dayOfYear_spec {d : Nat} (hd : d ≤ 146096) :
    ∃ s, d = firstDay (yearOfCycle d) + s ∧ yearOfCycle d ≤ 399 ∧ s ≤ 365
      ∧ (s = 365 → (yearOfCycle d + 1) % 4 = 0
          ∧ ((yearOfCycle d + 1) % 100 ≠ 0 ∨ (yearOfCycle d + 1) % 400 = 0)) := by
  obtain ⟨c, q, r, s, hparts, hc, hq, hr, hs, hlast⟩ := exists_parts hd
  rw [yearOfCycle_eq hparts hc hq hr hs hlast,
    firstDay_eq hq hr]
  refine ⟨s, hparts, by omega, hs, fun h => ?_⟩
  obtain ⟨rfl, hor⟩ := hlast h
  omega

/-! ### Months -/

/-- The day of a year that starts in March, by month and day of the month. -/
theorem monthDay_spec {s : Nat} (hs : s ≤ 365) :
    let m := (5 * s + 2) / 153
    m ≤ 11 ∧ (153 * m + 2) / 5 ≤ s ∧ s < (153 * (m + 1) + 2) / 5 := by
  intro m
  omega

/-! ### Days -/

/-- A day in its cycle, year and month, as `ofDays` finds them. -/
theorem ofDays_spec (days : Int) :
    ∃ (cycle : Int) (y s m : Nat), days + 719468 = cycle * 146097 + (firstDay y + s : Nat)
      ∧ y ≤ 399 ∧ s ≤ 365
      ∧ (s = 365 → (y + 1) % 4 = 0 ∧ ((y + 1) % 100 ≠ 0 ∨ (y + 1) % 400 = 0))
      ∧ m ≤ 11 ∧ (153 * m + 2) / 5 ≤ s ∧ s < (153 * (m + 1) + 2) / 5
      ∧ ofDays days
        = { year := if m < 10 then y + cycle * 400 else y + cycle * 400 + 1
            month := if m < 10 then m + 3 else m - 9
            day := s - (153 * m + 2) / 5 + 1 } := by
  obtain ⟨d, hd⟩ : ∃ d, d = ((days + 719468) % 146097).toNat := ⟨_, rfl⟩
  have hd' : days + 719468 = (days + 719468) / 146097 * 146097 + d := by omega
  obtain ⟨s, hs, hy, hle, hleap⟩ := dayOfYear_spec (d := d) (by omega)
  obtain ⟨hm, hlow, hhigh⟩ := monthDay_spec hle
  have hdayOfYear : d - (365 * yearOfCycle d + yearOfCycle d / 4 - yearOfCycle d / 100) = s := by
    unfold firstDay at hs
    omega
  refine ⟨(days + 719468) / 146097, yearOfCycle d, s, (5 * s + 2) / 153, ?_, hy, hle, hleap,
    hm, hlow, hhigh, ?_⟩
  · rw [← hs]
    exact hd'
  · have hmonth : ∀ m : Nat, m ≤ 11 → ((if m < 10 then m + 3 else m - 9) ≤ 2 ↔ ¬ m < 10) := by
      intro m hm
      split <;> omega
    simp only [ofDays, ← hd, ← yearOfCycle.eq_def, hdayOfYear, hmonth _ hm, ite_not]

/-- The date of a day has that day. -/
theorem toDays_ofDays (days : Int) : (ofDays days).toDays = days := by
  obtain ⟨cycle, y, s, m, hdays, hy, hs, _, hm, hlow, hhigh, heq⟩ := ofDays_spec days
  unfold firstDay at hdays
  rw [heq]
  by_cases hmonth : m < 10
  · simp only [hmonth, if_true, toDays, show ¬ m + 3 ≤ 2 by omega, if_false,
      show (m + 3 + 9) % 12 = m by omega]
    omega
  · simp only [hmonth, if_false, toDays, show m - 9 ≤ 2 by omega, if_true,
      show (m - 9 + 9) % 12 = m by omega]
    omega

/-- A date is in the calendar if its month and its day are. -/
theorem isDay_iff {date : Date} :
    date.isDay = true ↔ 1 ≤ date.month ∧ date.month ≤ 12 ∧ 1 ≤ date.day
      ∧ date.day ≤ daysInMonth date.year date.month := by
  simp [isDay, and_assoc]

/-- February has its leap day in the years that end with one. -/
theorem isLeapYear_of {cycle : Int} {y : Nat}
    (h : (y + 1) % 4 = 0 ∧ ((y + 1) % 100 ≠ 0 ∨ (y + 1) % 400 = 0)) :
    isLeapYear (y + cycle * 400 + 1) = true := by
  simp only [isLeapYear, Bool.and_eq_true, Bool.or_eq_true, beq_iff_eq, bne_iff_ne]
  omega

/-- The date of a day is in the calendar. -/
theorem isDay_ofDays (days : Int) : (ofDays days).isDay = true := by
  obtain ⟨cycle, y, s, m, _, _, hs, hleap, hm, hlow, hhigh, heq⟩ := ofDays_spec days
  rw [heq, isDay_iff]
  have hcases : m = 0 ∨ m = 1 ∨ m = 2 ∨ m = 3 ∨ m = 4 ∨ m = 5 ∨ m = 6 ∨ m = 7 ∨ m = 8 ∨ m = 9
      ∨ m = 10 ∨ m = 11 := by omega
  rcases hcases with rfl | rfl | rfl | rfl | rfl | rfl | rfl | rfl | rfl | rfl | rfl | rfl
  -- February, the last month of such a year, is the only one whose length varies.
  case inr.inr.inr.inr.inr.inr.inr.inr.inr.inr.inr =>
    by_cases hlast : s = 365
    · simp [daysInMonth, isLeapYear_of (hleap hlast)]
      omega
    · simp [daysInMonth]
      split <;> omega
  all_goals
    simp [daysInMonth]
    omega

/-- Later years start on later days. -/
theorem firstDay_mono {y y' : Nat} (h : y ≤ y') : firstDay y ≤ firstDay y' := by
  obtain ⟨k, rfl⟩ := Nat.exists_eq_add_of_le h
  clear h
  induction k with
  | zero => exact Nat.le_refl _
  | succ k ih =>
    refine Nat.le_trans ih ?_
    unfold firstDay
    omega

/-- The days of instants are in the years of instants. -/
theorem year_ofDays {days : Int} (hlow : -96465292 ≤ days) (hhigh : days ≤ 95026236) :
    -262143 ≤ (ofDays days).year ∧ (ofDays days).year ≤ 262142 := by
  obtain ⟨cycle, y, s, m, hdays, hy, hs, _, hm, hfrom, hto, heq⟩ := ofDays_spec days
  have htop : firstDay y ≤ 145731 := firstDay_mono hy
  have hcycle : -656 ≤ cycle ∧ cycle ≤ 655 := by omega
  rw [heq]
  -- The first of January is day 306 of a year that starts in March.
  by_cases hmonth : m < 10
  · simp only [hmonth, if_true]
    constructor
    · rcases Nat.lt_or_ge 256 y with hlt | hge
      · omega
      · have : firstDay y ≤ 93502 := firstDay_mono hge
        omega
    · rcases Nat.lt_or_ge y 143 with hlt | hge
      · omega
      · have : 52229 ≤ firstDay y := firstDay_mono hge
        omega
  · simp only [hmonth, if_false]
    constructor
    · rcases Nat.lt_or_ge 255 y with hlt | hge
      · omega
      · have : firstDay y ≤ 93136 := firstDay_mono hge
        omega
    · rcases Nat.lt_or_ge y 142 with hlt | hge
      · omega
      · have : 51864 ≤ firstDay y := firstDay_mono hge
        omega

end Idempotency.Date
