import BenchReport.Calendar
import Mathlib.Tactic.IntervalCases

/-!
# The proleptic Gregorian calendar

The calendar is given by its rules: which years have a leap day, and how long months are.  Counting
days by these rules gives every date a number, and the date that is computed for a number is the
date of the calendar that has it.  Later dates have greater numbers, so it is the only one.

Dates are computed in years that begin in March.  In these a leap day comes last, which makes months
and days of a year, and years of four centuries, regular but for the end.

## Main definitions

* `CivilDate.IsLeap`, `CivilDate.monthLength` — the rules.
* `CivilDate.Valid` — the dates of the calendar.
* `CivilDate.dayNumber` — the number of a date, counted from the first day of 1970.
* `CivilDate.before` — the order of dates.

## Main results

* `CivilDate.daysBeforeYear_add_one`, `CivilDate.daysBeforeMonth_add_one` — days are counted by
  the rules.
* `CivilDate.valid_ofDay`, `CivilDate.dayNumber_ofDay` — **the date of a number has that number.**
* `CivilDate.ofDay_dayNumber` — every date of the calendar is found by its number.
* `CivilDate.dayNumber_lt_of_before` — later dates have greater numbers.
-/

namespace BenchReport.CivilDate

/-! ### The rules -/

/-- Every fourth year has a leap day, but of the full centuries only every fourth. -/
def IsLeap (year : Int) : Prop := 4 ∣ year ∧ (100 ∣ year → 400 ∣ year)

instance (year : Int) : Decidable (IsLeap year) :=
  inferInstanceAs (Decidable (_ ∧ (_ → _)))

/-- The number of leap days in a year. -/
def leapDays (year : Int) : Nat := if IsLeap year then 1 else 0

/-- The number of days in a month of a year. -/
def monthLength (year : Int) : Nat → Nat
  | 2 => 28 + leapDays year
  | 4 | 6 | 9 | 11 => 30
  | _ => 31

/-- The date is one of the calendar. -/
structure Valid (d : CivilDate) : Prop where
  month_pos : 1 ≤ d.month
  month_le : d.month ≤ 12
  day_pos : 1 ≤ d.day
  day_le : d.day ≤ monthLength d.year d.month

theorem leapDays_eq (year : Int) :
    leapDays year = 1 ∧ IsLeap year ∨ leapDays year = 0 ∧ ¬ IsLeap year := by
  by_cases h : IsLeap year <;> simp [leapDays, h]

theorem monthLength_le (year : Int) (month : Nat) : monthLength year month ≤ 31 := by
  have hleap := leapDays_eq year
  rw [monthLength.eq_def]
  split <;> omega

/-! ### Counting days -/

/-- Days from the beginning of 1970 to the beginning of a year. -/
def daysBeforeYear (year : Int) : Int :=
  365 * (year - 1970) + ((year - 1) / 4 - (year - 1) / 100 + (year - 1) / 400) - 477

/-- Days from the beginning of a year to the beginning of a month. -/
def daysBeforeMonth (year : Int) : Nat → Nat
  | 0 => 0
  | 1 => 0
  | month + 2 => daysBeforeMonth year (month + 1) + monthLength year (month + 1)

/-- The number of a date: the days from the first day of 1970 to it. -/
def dayNumber (d : CivilDate) : Int :=
  daysBeforeYear d.year + daysBeforeMonth d.year d.month + (d.day - 1)

theorem daysBeforeYear_epoch : daysBeforeYear 1970 = 0 := by decide

/-- A year has 365 days, and perhaps a leap day. -/
theorem daysBeforeYear_add_one (year : Int) :
    daysBeforeYear (year + 1) = daysBeforeYear year + 365 + leapDays year := by
  have hleap := leapDays_eq year
  simp only [daysBeforeYear, IsLeap] at *
  omega

theorem daysBeforeMonth_add_one (year : Int) {month : Nat} (h : 1 ≤ month) :
    daysBeforeMonth year (month + 1) = daysBeforeMonth year month + monthLength year month := by
  obtain ⟨month, rfl⟩ := Nat.exists_eq_add_of_le' h
  rfl

/-- The months of a year make up the year. -/
theorem daysBeforeMonth_thirteen (year : Int) :
    daysBeforeMonth year 13 = 365 + leapDays year := by
  simp only [daysBeforeMonth, monthLength]
  omega

/-! ### Years that begin in March -/

/-- Days from the beginning of 1970 to the first of March of a year. -/
def daysBeforeMarch (year : Int) : Int :=
  365 * year + year / 4 - year / 100 + year / 400 - epochOffset

theorem daysBeforeMarch_eq (year : Int) :
    daysBeforeMarch year = daysBeforeYear year + daysBeforeMonth year 3 := by
  have hleap := leapDays_eq year
  simp only [daysBeforeMarch, daysBeforeYear, daysBeforeMonth, monthLength, epochOffset,
    IsLeap] at *
  omega

/-- The date of a day in a year that begins in March.  January and February belong to the next year
of the calendar. -/
def ofMarch (year : Int) (dayOfYear : Nat) : CivilDate :=
  let marchMonth := (5 * dayOfYear + 2) / 153
  let month := if marchMonth < 10 then marchMonth + 3 else marchMonth - 9
  { year := year + (if month ≤ 2 then 1 else 0)
    month := month
    day := dayOfYear - (153 * marchMonth + 2) / 5 + 1 }

/-- The day is one of the year, whose leap day comes last and in the next year of the calendar. -/
def InMarchYear (year : Int) (dayOfYear : Nat) : Prop := dayOfYear < 365 + leapDays (year + 1)

theorem InMarchYear.month_lt {year : Int} {dayOfYear : Nat} (h : InMarchYear year dayOfYear) :
    (5 * dayOfYear + 2) / 153 < 12 := by
  have hleap := leapDays_eq (year + 1)
  rw [InMarchYear] at h
  omega

theorem valid_ofMarch {year : Int} {dayOfYear : Nat} (h : InMarchYear year dayOfYear) :
    (ofMarch year dayOfYear).Valid := by
  have hmonth := h.month_lt
  have hleap := leapDays_eq (year + 1)
  rw [InMarchYear] at h
  generalize hm : (5 * dayOfYear + 2) / 153 = m at hmonth
  -- one case for every month, in which the day is bounded
  interval_cases m <;> simp only [ofMarch, hm] <;> constructor <;>
    simp only [monthLength, Nat.reduceLT, Nat.reduceAdd, Nat.reduceSub, Nat.reduceLeDiff,
      if_true, if_false] <;> omega

theorem dayNumber_ofMarch {year : Int} {dayOfYear : Nat} (h : InMarchYear year dayOfYear) :
    (ofMarch year dayOfYear).dayNumber = daysBeforeMarch year + dayOfYear := by
  have hmonth := h.month_lt
  have hnext := daysBeforeYear_add_one year
  have hmarch := daysBeforeMarch_eq year
  generalize hm : (5 * dayOfYear + 2) / 153 = m at hmonth
  simp only [daysBeforeMonth, monthLength] at hmarch
  interval_cases m <;>
    simp only [ofMarch, hm, dayNumber, daysBeforeMonth, monthLength, Nat.reduceLT, Nat.reduceAdd,
      Nat.reduceSub, Nat.reduceLeDiff, if_true, if_false, Int.add_zero] <;> omega

/-! ### Four hundred years -/

/-- A day of four hundred years that begin in March is found by full centuries, by full fours of
years of the century, by full years and by days. -/
structure InEra (dayOfEra century cycle year day : Nat) : Prop where
  total : dayOfEra = 36524 * century + 1461 * cycle + 365 * year + day
  century_lt : century < 4
  cycle_lt : cycle < 25
  year_lt : year < 4
  day_le : day ≤ 365
  leap : day = 365 → year = 3 ∧ (cycle = 24 → century = 3)

theorem exists_inEra {dayOfEra : Nat} (h : dayOfEra < eraDays) :
    ∃ century cycle year day, InEra dayOfEra century cycle year day := by
  have hera : eraDays = 146097 := rfl
  -- the last century and the last year are longer by a leap day
  let century := min (dayOfEra / 36524) 3
  let cycle := (dayOfEra - 36524 * century) / 1461
  let year := min ((dayOfEra - 36524 * century - 1461 * cycle) / 365) 3
  refine ⟨century, cycle, year, dayOfEra - 36524 * century - 1461 * cycle - 365 * year, ?_⟩
  constructor <;> omega

namespace InEra

variable {dayOfEra century cycle year day : Nat}

/-- The days that are taken off leave 365 for every full year. -/
theorem year_eq (h : InEra dayOfEra century cycle year day) :
    (dayOfEra - dayOfEra / 1460 + dayOfEra / 36524 - dayOfEra / 146096) / 365 =
      100 * century + 4 * cycle + year := by
  obtain ⟨htotal, hcentury, hcycle, hyear, hday, hleap⟩ := h
  by_cases hlast : dayOfEra = 146096
  · omega
  · have hcenturies : dayOfEra / 36524 = century := by omega
    have hlast : dayOfEra / 146096 = 0 := by omega
    have hcycles : dayOfEra / 1460 =
        25 * century + cycle + (24 * century + cycle + 365 * year + day) / 1460 := by
      omega
    omega

theorem day_eq (h : InEra dayOfEra century cycle year day) {yearOfEra : Nat}
    (hyear : yearOfEra = 100 * century + 4 * cycle + year) :
    365 * yearOfEra + yearOfEra / 4 - yearOfEra / 100 + day = dayOfEra ∧ yearOfEra < 400 := by
  obtain ⟨htotal, hcentury, hcycle, hyear, hday, hleap⟩ := h
  omega

theorem inMarchYear (h : InEra dayOfEra century cycle year day) (era : Int) :
    InMarchYear ((100 * century + 4 * cycle + year : Nat) + era * 400) day := by
  obtain ⟨htotal, hcentury, hcycle, hyear, hday, hleap⟩ := h
  have hleap := leapDays_eq ((100 * century + 4 * cycle + year : Nat) + era * 400 + 1)
  simp only [InMarchYear, IsLeap] at *
  omega

end InEra

/-- The date that is computed is that of some day of a year that begins in March. -/
theorem ofDay_eq_ofMarch (day : Int) : ∃ (year : Int) (dayOfYear : Nat),
    ofDay day = ofMarch year dayOfYear ∧ day = daysBeforeMarch year + dayOfYear ∧
      InMarchYear year dayOfYear := by
  have hera : (eraDays : Int) = 146097 := rfl
  have hnonneg := Int.fmod_nonneg_of_pos (day + epochOffset) (b := eraDays) (by decide)
  have hbound := Int.fmod_lt_of_pos (day + epochOffset) (b := eraDays) (by decide)
  have htotal := Int.mul_fdiv_add_fmod (day + epochOffset) eraDays
  rw [hera] at hnonneg hbound htotal
  rw [ofDay, hera]
  generalize (day + epochOffset).fdiv 146097 = era at htotal ⊢
  generalize hday : ((day + epochOffset).fmod 146097).toNat = dayOfEra
  have hlt : dayOfEra < eraDays := by omega
  obtain ⟨century, cycle, year, dayOfYear, h⟩ := exists_inEra hlt
  obtain ⟨hdays, hlt⟩ := h.day_eq rfl
  refine ⟨(100 * century + 4 * cycle + year : Nat) + era * 400, dayOfYear, ?_, ?_,
    h.inMarchYear era⟩
  · have hdayOfYear : dayOfYear = dayOfEra - (365 * (100 * century + 4 * cycle + year) +
        (100 * century + 4 * cycle + year) / 4 - (100 * century + 4 * cycle + year) / 100) := by
      omega
    rw [ofMarch, hdayOfYear, ← h.year_eq]
  · have hfour (n : Nat) (m : Int) : (n + m * 400) / 4 = n / 4 + m * 100 := by omega
    have hhundred (n : Nat) (m : Int) : (n + m * 400) / 100 = n / 100 + m * 4 := by omega
    have hera (n : Nat) (m : Int) (h : n < 400) : (n + m * 400) / 400 = m := by omega
    rw [daysBeforeMarch, hfour, hhundred, hera _ _ hlt]
    omega

/-- The date of a number is a date of the calendar. -/
theorem valid_ofDay (day : Int) : (ofDay day).Valid := by
  obtain ⟨year, dayOfYear, heq, -, h⟩ := ofDay_eq_ofMarch day
  rw [heq]
  exact valid_ofMarch h

/-- **The date of a number has that number.** -/
theorem dayNumber_ofDay (day : Int) : (ofDay day).dayNumber = day := by
  obtain ⟨year, dayOfYear, heq, hday, h⟩ := ofDay_eq_ofMarch day
  rw [heq, dayNumber_ofMarch h, hday]

theorem ofDay_injective {m n : Int} (h : ofDay m = ofDay n) : m = n := by
  rw [← dayNumber_ofDay m, h, dayNumber_ofDay]

example : (ofDay 11016 = ⟨2000, 2, 29⟩) ∧ ofDay (-1) = ⟨1969, 12, 31⟩ := by decide

/-! ### Order -/

/-- The order of dates: by year, by month and by day. -/
def before (d e : CivilDate) : Prop :=
  d.year < e.year ∨ d.year = e.year ∧ (d.month < e.month ∨ d.month = e.month ∧ d.day < e.day)

theorem daysBeforeYear_le {year later : Int} (h : year < later) :
    daysBeforeYear year + 365 + leapDays year ≤ daysBeforeYear later := by
  rw [← daysBeforeYear_add_one]
  simp only [daysBeforeYear]
  omega

theorem daysBeforeMonth_mono (year : Int) {month later : Nat} (h : month ≤ later) :
    daysBeforeMonth year month ≤ daysBeforeMonth year later := by
  induction later, h using Nat.le_induction with
  | base => exact le_rfl
  | succ n _ ih =>
    cases n with
    | zero => exact ih
    | succ n => exact ih.trans (Nat.le_add_right _ _)

/-- A date is in its month. -/
theorem Valid.dayNumber_lt {d : CivilDate} (hd : d.Valid) :
    d.dayNumber < daysBeforeYear d.year + daysBeforeMonth d.year (d.month + 1) := by
  have := hd.day_pos
  have := hd.day_le
  rw [daysBeforeMonth_add_one _ hd.month_pos, dayNumber]
  omega

theorem Valid.le_dayNumber {d : CivilDate} (hd : d.Valid) :
    daysBeforeYear d.year + daysBeforeMonth d.year d.month ≤ d.dayNumber := by
  have := hd.day_pos
  rw [dayNumber]
  omega

/-- Later dates have greater numbers. -/
theorem dayNumber_lt_of_before {d e : CivilDate} (hd : d.Valid) (he : e.Valid)
    (h : d.before e) : d.dayNumber < e.dayNumber := by
  have hend := hd.dayNumber_lt
  have hbegin := he.le_dayNumber
  obtain hyear | ⟨hyear, hmonth | ⟨hmonth, hday⟩⟩ := h
  · have hmonths := daysBeforeMonth_mono d.year (Nat.add_le_add_right hd.month_le 1)
    rw [daysBeforeMonth_thirteen] at hmonths
    have hyears := daysBeforeYear_le hyear
    omega
  · have hmonths := daysBeforeMonth_mono d.year (show d.month + 1 ≤ e.month from hmonth)
    rw [← hyear] at hbegin
    omega
  · simp only [dayNumber, hyear, hmonth]
    omega

theorem eq_or_before (d e : CivilDate) : d = e ∨ d.before e ∨ e.before d := by
  obtain ⟨⟩ := d
  obtain ⟨⟩ := e
  simp only [before, CivilDate.mk.injEq]
  omega

/-- A date of the calendar is the date of its number. -/
theorem ofDay_dayNumber {d : CivilDate} (hd : d.Valid) : ofDay d.dayNumber = d := by
  have hnumber := dayNumber_ofDay d.dayNumber
  obtain heq | hbefore | hafter := eq_or_before (ofDay d.dayNumber) d
  · exact heq
  · exact absurd hnumber (dayNumber_lt_of_before (valid_ofDay _) hd hbefore).ne
  · exact absurd hnumber (dayNumber_lt_of_before hd (valid_ofDay _) hafter).ne'

/-- The order of dates is the order of their numbers. -/
theorem before_ofDay_iff (m n : Int) : (ofDay m).before (ofDay n) ↔ m < n := by
  have hlt : ∀ m n, (ofDay m).before (ofDay n) → m < n := fun m n h => by
    simpa only [dayNumber_ofDay] using dayNumber_lt_of_before (valid_ofDay m) (valid_ofDay n) h
  refine ⟨hlt m n, fun h => ?_⟩
  obtain heq | hbefore | hafter := eq_or_before (ofDay m) (ofDay n)
  · exact absurd (ofDay_injective heq) h.ne
  · exact hbefore
  · exact absurd (hlt n m hafter) h.asymm

end BenchReport.CivilDate
