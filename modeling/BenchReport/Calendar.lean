import BenchReport.Text.Digits

/-!
# Instants and civil time

Instants count seconds from the beginning of 1970 in universal time.  They are shown in
the proleptic Gregorian calendar, whose leap years repeat every four hundred years.

## Main definitions

* `Instant` — whole seconds and nanoseconds, which always count forward.
* `CivilDate`, `CivilDate.ofDay` — the date of a day.
* `Instant.date`, `Instant.clock` — date and time of day.
* `Instant.minuteText`, `Instant.fileStem`, `Instant.text`, `Instant.microText` — the
  written forms.
-/

namespace BenchReport

/-- Nanoseconds in a second. -/
def secondNanos : Nat := 1000000000

theorem secondNanos_pos : 0 < secondNanos := by decide

/-- A point in time.

Any number of seconds is one, and `minuteText` and `fileStem` write every instant.  A calendar
library has a range of years, about 262000 of them either way: it refuses an instant outside, and a
program that asks it for the date of one stops there. -/
structure Instant where
  /-- Whole seconds since the beginning of 1970; negative before. -/
  seconds : Int
  /-- Nanoseconds after that second. -/
  nanos : Nat
  /-- They make up less than a second. -/
  nanos_lt : nanos < secondNanos := by decide
  deriving DecidableEq

/-- A date of the proleptic Gregorian calendar; the year before 1 is the year 0. -/
structure CivilDate where
  /-- The year. -/
  year : Int
  /-- The month, from 1. -/
  month : Nat
  /-- The day of the month, from 1. -/
  day : Nat
  deriving DecidableEq

/-- A time of day. -/
structure ClockTime where
  /-- The hour, from 0. -/
  hour : Nat
  /-- The minute, from 0. -/
  minute : Nat
  /-- The second, from 0. -/
  second : Nat
  deriving DecidableEq

namespace CivilDate

/-- Days from the first of March of the year 0 to the beginning of 1970. -/
def epochOffset : Int := 719468

/-- Days in four hundred years. -/
def eraDays : Nat := 146097

/-- The date of a day, counted from the first day of 1970.  Years are counted from March
first, so that a leap day is the last day of its year. -/
def ofDay (day : Int) : CivilDate :=
  let shifted := day + epochOffset
  let era := shifted.fdiv eraDays
  let dayOfEra := (shifted.fmod eraDays).toNat
  let yearOfEra :=
    (dayOfEra - dayOfEra / 1460 + dayOfEra / 36524 - dayOfEra / 146096) / 365
  let dayOfYear := dayOfEra - (365 * yearOfEra + yearOfEra / 4 - yearOfEra / 100)
  let marchMonth := (5 * dayOfYear + 2) / 153
  let month := if marchMonth < 10 then marchMonth + 3 else marchMonth - 9
  { year := yearOfEra + era * 400 + (if month ≤ 2 then 1 else 0)
    month := month
    day := dayOfYear - (153 * marchMonth + 2) / 5 + 1 }

/-- A year: at least four digits, with a sign before the years outside `0` to `9999`. -/
def yearText (year : Int) : List Char :=
  let sign := if year < 0 then ['-'] else if 9999 < year then ['+'] else []
  sign ++ Text.zeroPadded 4 year.natAbs

end CivilDate

namespace Instant

/-- The instant some nanoseconds after a second; a second's worth of them is carried. -/
def ofParts (seconds : Int) (nanos : Nat) : Instant where
  seconds := seconds + (nanos / secondNanos : Nat)
  nanos := nanos % secondNanos
  nanos_lt := Nat.mod_lt _ secondNanos_pos

/-- Seconds in a day. -/
def daySeconds : Nat := 86400

/-- The date. -/
def date (t : Instant) : CivilDate := .ofDay (t.seconds.fdiv daySeconds)

/-- The time of day. -/
def clock (t : Instant) : ClockTime :=
  let s := (t.seconds.fmod daySeconds).toNat
  ⟨s / 3600, s / 60 % 60, s % 60⟩

/-- `t` comes before `u`. -/
def before (t u : Instant) : Bool :=
  t.seconds < u.seconds || (t.seconds == u.seconds && t.nanos < u.nanos)

/-- Two digits. -/
def pair (n : Nat) : List Char := Text.zeroPadded 2 n

/-- Date and minute, as in `2025-03-14 09:26`. -/
def minuteText (t : Instant) : String :=
  String.ofList
    (CivilDate.yearText t.date.year ++ '-' :: pair t.date.month ++ '-' :: pair t.date.day ++
      ' ' :: pair t.clock.hour ++ ':' :: pair t.clock.minute)

/-- Date and second, as in `20250314_092653`. -/
def fileStem (t : Instant) : String :=
  String.ofList
    (CivilDate.yearText t.date.year ++ pair t.date.month ++ pair t.date.day ++
      '_' :: pair t.clock.hour ++ pair t.clock.minute ++ pair t.clock.second)

/-- The fraction of the second: nothing, or as many of three, six and nine digits as are
needed. -/
def fractionText (nanos : Nat) : List Char :=
  if nanos = 0 then []
  else if nanos % 1000000 = 0 then '.' :: Text.zeroPadded 3 (nanos / 1000000)
  else if nanos % 1000 = 0 then '.' :: Text.zeroPadded 6 (nanos / 1000)
  else '.' :: Text.zeroPadded 9 nanos

/-- Date and time of day with a given text for the fraction of the second. -/
def fullChars (t : Instant) (fraction : List Char) : List Char :=
  CivilDate.yearText t.date.year ++ '-' :: pair t.date.month ++ '-' :: pair t.date.day ++
    'T' :: pair t.clock.hour ++ ':' :: pair t.clock.minute ++ ':' :: pair t.clock.second ++
    fraction ++ ['Z']

/-- Date and time of day, as in `2025-03-14T09:26:53.500Z`. -/
def text (t : Instant) : String := String.ofList (t.fullChars (fractionText t.nanos))

/-- Date and time of day with microseconds, as in `2025-03-14T09:26:53.500000Z`. -/
def microText (t : Instant) : String :=
  String.ofList (t.fullChars ('.' :: Text.zeroPadded 6 (t.nanos / 1000)))

end Instant

end BenchReport
