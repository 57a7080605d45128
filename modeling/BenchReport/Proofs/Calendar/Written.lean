import BenchReport.Proofs.Calendar.Gregorian
import BenchReport.Proofs.Decimal.Numeral
import BenchReport.Proofs.Results.Newest
import BenchReport.Proofs.Text.Order

/-!
# Written times

A time that is written to the minute or to the second is read back as the number of minutes or
seconds from the beginning of 1970, whatever its year.  The readers know nothing of the instant:
they take the numbers that are written and count days by the rules of the calendar.  The texts of
years with four digits are ordered as the times are.

## Main definitions

* `Instant.minute` — the minute in which an instant lies.
* `Instant.minuteOf?`, `Instant.secondOf?` — the readers.

## Main results

* `Instant.seconds_eq` — date and time of day make up the seconds of an instant.
* `Instant.minuteOf?_minuteText`, `Instant.secondOf?_fileStem` — **a written time is read back.**
* `Instant.minuteText_lt_iff`, `Instant.fileStem_append_lt_iff` — the order of texts.
-/

namespace BenchReport

instance (d : CivilDate) : Decidable d.Valid :=
  decidable_of_iff
    (1 ≤ d.month ∧ d.month ≤ 12 ∧ 1 ≤ d.day ∧ d.day ≤ CivilDate.monthLength d.year d.month)
    ⟨fun ⟨h₁, h₂, h₃, h₄⟩ => ⟨h₁, h₂, h₃, h₄⟩, fun ⟨h₁, h₂, h₃, h₄⟩ => ⟨h₁, h₂, h₃, h₄⟩⟩

namespace CivilDate

/-- The date whose digits make up a number: the last two pairs are month and day, and the year is
what stands before them. -/
def ofNumber (n : Int) : CivilDate :=
  ⟨Binary64.signed (decide (n < 0)) (n.natAbs / 10000), n.natAbs / 100 % 100, n.natAbs % 100⟩

theorem ofNumber_signed {d : CivilDate} (hd : d.Valid) :
    ofNumber (Binary64.signed (decide (d.year < 0))
      (d.year.natAbs * 10000 + (d.month * 100 + d.day))) = d := by
  obtain ⟨year, month, day⟩ := d
  obtain ⟨-, hmonth, -, hday⟩ := hd
  have hlength := monthLength_le year month
  simp only [ofNumber, Binary64.signed, decide_eq_true_eq, CivilDate.mk.injEq] at *
  split_ifs <;> omega

end CivilDate

/-- The time of day whose digits make up a number. -/
def ClockTime.ofNumber (n : Nat) : ClockTime := ⟨n / 10000, n / 100 % 100, n % 100⟩

/-- The time is one of the day. -/
structure ClockTime.Valid (c : ClockTime) : Prop where
  hour_lt : c.hour < 24
  minute_lt : c.minute < 60
  second_lt : c.second < 60

instance (c : ClockTime) : Decidable c.Valid :=
  decidable_of_iff (c.hour < 24 ∧ c.minute < 60 ∧ c.second < 60)
    ⟨fun ⟨h₁, h₂, h₃⟩ => ⟨h₁, h₂, h₃⟩, fun ⟨h₁, h₂, h₃⟩ => ⟨h₁, h₂, h₃⟩⟩

theorem ClockTime.ofNumber_eq {c : ClockTime} (hc : c.Valid) :
    ofNumber (c.hour * 10000 + (c.minute * 100 + c.second)) = c := by
  obtain ⟨hour, minute, second⟩ := c
  obtain ⟨hhour, hminute, hsecond⟩ := hc
  simp only [ofNumber, ClockTime.mk.injEq] at *
  omega

namespace Instant

/-! ### Times as numbers -/

/-- Nanoseconds in a minute. -/
def minuteNanos : Nat := 60 * secondNanos

/-- The minute in which an instant lies, counted from the beginning of 1970. -/
def minute (t : Instant) : Int := t.sinceEpoch / minuteNanos

theorem minute_eq (t : Instant) : t.minute = t.seconds / 60 := by
  have := t.nanos_lt
  simp only [minute, sinceEpoch, minuteNanos, secondNanos] at *
  omega

/-- A minute begins with its first nanosecond and ends before the first one of the next. -/
theorem minute_eq_iff (t : Instant) (minute : Int) : t.minute = minute ↔
    minute * minuteNanos ≤ t.sinceEpoch ∧ t.sinceEpoch < (minute + 1) * minuteNanos := by
  simp only [Instant.minute, minuteNanos, secondNanos]
  omega

theorem valid_date (t : Instant) : t.date.Valid := CivilDate.valid_ofDay _

theorem valid_clock (t : Instant) : t.clock.Valid := by
  have hlt := Int.fmod_lt_of_pos t.seconds (b := daySeconds) (by decide)
  constructor <;> simp only [clock, daySeconds] at * <;> omega

/-- **Date and time of day make up the seconds of an instant.** -/
theorem seconds_eq (t : Instant) : t.seconds =
    t.date.dayNumber * 86400 + t.clock.hour * 3600 + t.clock.minute * 60 + t.clock.second := by
  have hsum := Int.mul_fdiv_add_fmod t.seconds daySeconds
  have hnonneg := Int.fmod_nonneg_of_pos t.seconds (b := daySeconds) (by decide)
  simp only [date, clock, CivilDate.dayNumber_ofDay, daySeconds, Nat.cast_ofNat] at *
  omega

theorem seconds_eq_minute (t : Instant) : t.seconds = t.minute * 60 + t.clock.second := by
  have hsecond := t.valid_clock.second_lt
  rw [minute_eq, seconds_eq t]
  omega

/-- Instants with the same date and time of day have the same second. -/
theorem date_eq_and_clock_eq_iff {t u : Instant} :
    t.date = u.date ∧ t.clock = u.clock ↔ t.seconds = u.seconds := by
  constructor
  · rintro ⟨hdate, hclock⟩
    rw [seconds_eq t, seconds_eq u, hdate, hclock]
  · intro h
    rw [date, date, clock, clock, h]
    exact ⟨rfl, rfl⟩

/-- The first instant is on an earlier day. -/
theorem date_before_iff {t u : Instant} :
    t.date.before u.date ↔ t.date.dayNumber < u.date.dayNumber := by
  simp only [date, CivilDate.before_ofDay_iff, CivilDate.dayNumber_ofDay]

theorem date_eq_iff {t u : Instant} : t.date = u.date ↔ t.date.dayNumber = u.date.dayNumber := by
  simp only [date, CivilDate.dayNumber_ofDay]
  exact ⟨CivilDate.ofDay_injective, congrArg _⟩

/-! ### Reading -/

/-- Reads a mark and the digits behind it; the number and what follows. -/
def readAfter? (mark : Char) : List Char → Option (Nat × List Char)
  | [] => none
  | c :: text =>
    let (ds, rest) := Text.readDigits text
    if c = mark ∧ ds ≠ [] then some (Text.digitsValue ds, rest) else none

/-- Reads a time that is written to the minute, as minutes from the beginning of 1970.  It is
refused when there is no such date or no such time of day. -/
def minuteOf? (text : String) : Option Int := do
  let (year, text) ← Numeral.readExponentDigits text.toList
  let (month, text) ← readAfter? '-' text
  let (day, text) ← readAfter? '-' text
  let (hour, text) ← readAfter? ' ' text
  let (minute, text) ← readAfter? ':' text
  let date : CivilDate := ⟨year, month, day⟩
  if text = [] ∧ date.Valid ∧ ClockTime.Valid ⟨hour, minute, 0⟩ then
    some (date.dayNumber * 1440 + hour * 60 + minute)
  else none

/-- Reads a time that is written to the second, as seconds from the beginning of 1970. -/
def secondOf? (stem : String) : Option Int := do
  let (date, text) ← Numeral.readExponentDigits stem.toList
  let (time, text) ← readAfter? '_' text
  let date := CivilDate.ofNumber date
  let clock := ClockTime.ofNumber time
  if text = [] ∧ date.Valid ∧ clock.Valid then
    some (date.dayNumber * 86400 + clock.hour * 3600 + clock.minute * 60 + clock.second)
  else none

variable {ds rest : List Char}

theorem readAfter?_append (mark : Char) (hds : ∀ c ∈ ds, c.isDigit) (hne : ds ≠ [])
    (hrest : Text.EndsDigits rest) :
    readAfter? mark (mark :: (ds ++ rest)) = some (Text.digitsValue ds, rest) := by
  simp only [readAfter?, Text.readDigits_append_of hds hrest, true_and, if_pos hne]

theorem readAfter?_pair (mark : Char) (n : Nat) (hrest : Text.EndsDigits rest) :
    readAfter? mark (mark :: (pair n ++ rest)) = some (n, rest) := by
  rw [pair, readAfter?_append mark (fun _ => Text.isDigit_of_mem_zeroPadded)
    (Text.zeroPadded_ne_nil 2 n) hrest, Text.digitsValue_zeroPadded]

/-- A year and the digits behind it are read as one number. -/
theorem readExponentDigits_yearText (year : Int) (hds : ∀ c ∈ ds, c.isDigit)
    (hrest : Text.EndsDigits rest) :
    Numeral.readExponentDigits (CivilDate.yearText year ++ (ds ++ rest)) =
      some (Binary64.signed (decide (year < 0))
        (year.natAbs * 10 ^ ds.length + Text.digitsValue ds), rest) := by
  obtain ⟨c, cs, hcs⟩ := List.exists_cons_of_ne_nil (Text.zeroPadded_ne_nil 4 year.natAbs)
  have hc : c.isDigit := Text.isDigit_of_mem_zeroPadded (hcs ▸ List.mem_cons_self)
  have hsign : Numeral.readSign (CivilDate.yearText year ++ (ds ++ rest)) =
      (decide (year < 0), Text.zeroPadded 4 year.natAbs ++ ds ++ rest) := by
    rw [CivilDate.yearText, List.append_assoc, List.append_assoc]
    split_ifs with hneg hlong
    · rw [decide_eq_true hneg]
      rfl
    · rw [decide_eq_false hneg]
      rfl
    · rw [decide_eq_false hneg, List.nil_append, hcs]
      exact Numeral.readSign_of_isDigit hc _
  have hdigits : ∀ c ∈ Text.zeroPadded 4 year.natAbs ++ ds, c.isDigit := fun c hc =>
    (List.mem_append.1 hc).elim Text.isDigit_of_mem_zeroPadded (hds c)
  rw [Numeral.readExponentDigits, hsign]
  simp only [Text.readDigits_append_of hdigits hrest, Text.digitsValue_append,
    Text.digitsValue_zeroPadded]
  rw [hcs]
  rfl

theorem digitsValue_pair (n : Nat) : Text.digitsValue (pair n) = n :=
  Text.digitsValue_zeroPadded 2 n

theorem isDigit_of_mem_pair {n : Nat} : ∀ c ∈ pair n, c.isDigit :=
  fun _ => Text.isDigit_of_mem_zeroPadded

theorem length_pair {n : Nat} (hn : n < 100) : (pair n).length = 2 :=
  Text.length_zeroPadded (by decide) hn

theorem digitsValue_nil : Text.digitsValue [] = 0 := rfl

theorem endsDigits_nil : Text.EndsDigits [] := fun _ h => nomatch h

/-- **A time that is written to the minute is read back.** -/
theorem minuteOf?_minuteText (t : Instant) : minuteOf? t.minuteText = some t.minute := by
  have htext : t.minuteText.toList =
      CivilDate.yearText t.date.year ++ ([] ++ '-' :: (pair t.date.month ++
        '-' :: (pair t.date.day ++ ' ' :: (pair t.clock.hour ++ ':' :: (pair t.clock.minute ++
          []))))) := by
    simp only [minuteText, String.toList_ofList, List.append_assoc, List.cons_append,
      List.nil_append, List.append_nil]
  have hmark {c : Char} (hc : c.isDigit = false) (text : List Char) :
      Text.EndsDigits (c :: text) := Text.endsDigits_cons hc text
  have hyear : Binary64.signed (decide (t.date.year < 0)) t.date.year.natAbs = t.date.year := by
    simp only [Binary64.signed, decide_eq_true_eq]
    split <;> omega
  have hclock : ClockTime.Valid ⟨t.clock.hour, t.clock.minute, 0⟩ :=
    ⟨t.valid_clock.hour_lt, t.valid_clock.minute_lt, show 0 < 60 by decide⟩
  rw [minuteOf?, htext, readExponentDigits_yearText _ (List.forall_mem_nil _) (hmark rfl _),
    List.length_nil, Nat.pow_zero, Nat.mul_one, digitsValue_nil, Nat.add_zero, hyear]
  simp only [Option.bind_eq_bind, Option.bind_some, readAfter?_pair, hmark, endsDigits_nil,
    Char.reduceIsDigit]
  rw [if_pos ⟨trivial, t.valid_date, hclock⟩, Option.some_inj, minute_eq, seconds_eq t]
  have hsecond := t.valid_clock.second_lt
  have hdate : (⟨t.date.year, t.date.month, t.date.day⟩ : CivilDate) = t.date := rfl
  rw [hdate]
  omega

/-- **A time that is written to the second is read back.** -/
theorem secondOf?_fileStem (t : Instant) : secondOf? t.fileStem = some t.seconds := by
  have htext : t.fileStem.toList =
      CivilDate.yearText t.date.year ++ ((pair t.date.month ++ pair t.date.day) ++
        '_' :: ((pair t.clock.hour ++ (pair t.clock.minute ++ pair t.clock.second)) ++ [])) := by
    simp only [fileStem, String.toList_ofList, List.append_assoc, List.cons_append,
      List.append_nil]
  have hdate : ∀ c ∈ pair t.date.month ++ pair t.date.day, c.isDigit :=
    List.forall_mem_append.2 ⟨isDigit_of_mem_pair, isDigit_of_mem_pair⟩
  have hclock : ∀ c ∈ pair t.clock.hour ++ (pair t.clock.minute ++ pair t.clock.second),
      c.isDigit :=
    List.forall_mem_append.2 ⟨isDigit_of_mem_pair,
      List.forall_mem_append.2 ⟨isDigit_of_mem_pair, isDigit_of_mem_pair⟩⟩
  have hne : pair t.clock.hour ++ (pair t.clock.minute ++ pair t.clock.second) ≠ [] :=
    List.append_ne_nil_of_left_ne_nil (Text.zeroPadded_ne_nil 2 _) _
  have hmonth := length_pair (Nat.lt_of_le_of_lt t.valid_date.month_le (by decide))
  have hday := length_pair (Nat.lt_of_le_of_lt
    (t.valid_date.day_le.trans (CivilDate.monthLength_le _ _)) (by decide))
  have hminute := length_pair (t.valid_clock.minute_lt.trans (by decide))
  have hsecond := length_pair (t.valid_clock.second_lt.trans (by decide))
  rw [secondOf?, htext, readExponentDigits_yearText _ hdate (Text.endsDigits_cons rfl _)]
  simp only [Option.bind_eq_bind, Option.bind_some, readAfter?_append _ hclock hne endsDigits_nil,
    Text.digitsValue_append, digitsValue_pair, List.length_append, hmonth, hday, hminute, hsecond,
    Nat.reduceAdd, Nat.reducePow]
  rw [CivilDate.ofNumber_signed t.valid_date, ClockTime.ofNumber_eq t.valid_clock,
    if_pos ⟨trivial, t.valid_date, t.valid_clock⟩, ← seconds_eq]

/-- Texts to the minute are the same for the same minute only. -/
theorem minuteText_eq_iff {t u : Instant} : t.minuteText = u.minuteText ↔ t.minute = u.minute := by
  constructor
  · intro h
    have hread := minuteOf?_minuteText t
    rw [h, minuteOf?_minuteText] at hread
    exact (Option.some.inj hread).symm
  · intro h
    have ht := seconds_eq t
    have hu := seconds_eq u
    rw [minute_eq, minute_eq] at h
    obtain ⟨hhour, hminute, hsecond⟩ := t.valid_clock
    obtain ⟨hhour', hminute', hsecond'⟩ := u.valid_clock
    have hdate : t.date = u.date := date_eq_iff.2 (by omega)
    have hhours : t.clock.hour = u.clock.hour := by rw [hdate] at ht; omega
    have hminutes : t.clock.minute = u.clock.minute := by rw [hdate] at ht; omega
    rw [minuteText, minuteText, hdate, hhours, hminutes]

/-- Texts to the second are the same for the same second only. -/
theorem fileStem_eq_iff {t u : Instant} : t.fileStem = u.fileStem ↔ t.seconds = u.seconds := by
  constructor
  · intro h
    have hread := secondOf?_fileStem t
    rw [h, secondOf?_fileStem] at hread
    exact (Option.some.inj hread).symm
  · intro h
    obtain ⟨hdate, hclock⟩ := date_eq_and_clock_eq_iff.2 h
    rw [fileStem, fileStem, hdate, hclock]

/-! ### Characters -/

variable {c : Char}

theorem notMem_pair (hc : c.isDigit = false) (n : Nat) : c ∉ pair n :=
  fun h => Bool.false_ne_true (hc.symm.trans (isDigit_of_mem_pair c h))

/-- A year is written with digits and perhaps a sign. -/
theorem notMem_yearText (hc : c.isDigit = false) (hsign : c ∉ ['-', '+']) (year : Int) :
    c ∉ CivilDate.yearText year := by
  have hdigits : c ∉ Text.zeroPadded 4 year.natAbs := fun h =>
    Bool.false_ne_true (hc.symm.trans (Text.isDigit_of_mem_zeroPadded h))
  rw [List.mem_cons, List.mem_singleton, not_or] at hsign
  rw [CivilDate.yearText]
  split_ifs <;> simp [hdigits, hsign]

/-- A time that is written to the minute has no other characters. -/
theorem notMem_minuteText (hc : c.isDigit = false) (hmark : c ∉ ['-', '+', ' ', ':'])
    (t : Instant) : c ∉ t.minuteText.toList := by
  simp only [List.mem_cons, List.not_mem_nil, or_false, not_or] at hmark
  have hyear := notMem_yearText hc (by simp [hmark]) t.date.year
  simp [minuteText, hyear, notMem_pair hc, hmark]

/-- A time that is written to the second has no other characters. -/
theorem notMem_fileStem (hc : c.isDigit = false) (hmark : c ∉ ['-', '+', '_'])
    (t : Instant) : c ∉ t.fileStem.toList := by
  simp only [List.mem_cons, List.not_mem_nil, or_false, not_or] at hmark
  have hyear := notMem_yearText hc (by simp [hmark]) t.date.year
  simp [fileStem, hyear, notMem_pair hc, hmark]

/-! ### Order -/

/-- The year has four digits and no sign. -/
def HasFourDigitYear (t : Instant) : Prop := 0 ≤ t.date.year ∧ t.date.year ≤ 9999

theorem yearText_of_hasFourDigitYear {t : Instant} (h : t.HasFourDigitYear) :
    CivilDate.yearText t.date.year = Text.zeroPadded 4 t.date.year.natAbs := by
  rw [CivilDate.yearText, if_neg (not_lt.2 h.1), if_neg (not_lt.2 h.2)]
  rfl

theorem encode_yearText_lt_iff {t u : Instant} (ht : t.HasFourDigitYear)
    (hu : u.HasFourDigitYear) (x y : List Char) :
    Text.encode (CivilDate.yearText t.date.year ++ x) <
        Text.encode (CivilDate.yearText u.date.year ++ y) ↔
      t.date.year < u.date.year ∨ t.date.year = u.date.year ∧ Text.encode x < Text.encode y := by
  rw [yearText_of_hasFourDigitYear ht, yearText_of_hasFourDigitYear hu]
  rw [HasFourDigitYear] at ht hu
  rw [Text.encode_zeroPadded_lt_iff (by decide) (by omega) (by omega)]
  by_cases hxy : Text.encode x < Text.encode y <;>
    simp only [hxy, and_true, and_false, or_false] <;> omega

theorem encode_pair_lt_iff {n m : Nat} (hn : n < 100) (hm : m < 100) (x y : List Char) :
    Text.encode (pair n ++ x) < Text.encode (pair m ++ y) ↔
      n < m ∨ n = m ∧ Text.encode x < Text.encode y :=
  Text.encode_zeroPadded_lt_iff (by decide) hn hm x y

/-- Months, days and times of day have two digits. -/
theorem pairs_lt (t : Instant) : t.date.month < 100 ∧ t.date.day < 100 ∧
    t.clock.hour < 100 ∧ t.clock.minute < 100 ∧ t.clock.second < 100 := by
  obtain ⟨-, hmonth, -, hday⟩ := t.valid_date
  have hlength := CivilDate.monthLength_le t.date.year t.date.month
  obtain ⟨hhour, hminute, hsecond⟩ := t.valid_clock
  omega

/-- Minutes are ordered as their dates and times of day are, number by number. -/
theorem minute_lt_or_iff (t u : Instant) (p : Prop) :
    (t.date.year < u.date.year ∨ t.date.year = u.date.year ∧
      (t.date.month < u.date.month ∨ t.date.month = u.date.month ∧
        (t.date.day < u.date.day ∨ t.date.day = u.date.day ∧
          (t.clock.hour < u.clock.hour ∨ t.clock.hour = u.clock.hour ∧
            (t.clock.minute < u.clock.minute ∨ t.clock.minute = u.clock.minute ∧ p))))) ↔
      t.minute < u.minute ∨ t.minute = u.minute ∧ p := by
  have hbefore := date_before_iff (t := t) (u := u)
  have hafter := date_before_iff (t := u) (u := t)
  rw [CivilDate.before] at hbefore hafter
  have ht := seconds_eq t
  have hu := seconds_eq u
  obtain ⟨hhour, hminute, hsecond⟩ := t.valid_clock
  obtain ⟨hhour', hminute', hsecond'⟩ := u.valid_clock
  rw [minute_eq, minute_eq]
  by_cases hp : p <;> simp only [hp, and_true, and_false, or_false] <;> omega

/-- **Texts to the minute are ordered as the minutes are.** -/
theorem minuteText_lt_iff {t u : Instant} (ht : t.HasFourDigitYear) (hu : u.HasFourDigitYear) :
    Text.bytes t.minuteText < Text.bytes u.minuteText ↔ t.minute < u.minute := by
  obtain ⟨hmonth, hday, hhour, hminute, -⟩ := t.pairs_lt
  obtain ⟨hmonth', hday', hhour', hminute', -⟩ := u.pairs_lt
  rw [minuteText, minuteText, Text.bytes_ofList, Text.bytes_ofList,
    ← List.append_nil (pair t.clock.minute), ← List.append_nil (pair u.clock.minute)]
  simp only [List.append_assoc, List.cons_append, encode_yearText_lt_iff ht hu,
    Text.encode_cons_lt_iff, encode_pair_lt_iff hmonth hmonth', encode_pair_lt_iff hday hday',
    encode_pair_lt_iff hhour hhour', encode_pair_lt_iff hminute hminute']
  rw [minute_lt_or_iff]
  simp only [Text.not_encode_lt_self, and_false, or_false]

/-- **Texts to the second are ordered as the seconds are**, and then by what follows them. -/
theorem fileStem_append_lt_iff {t u : Instant} (ht : t.HasFourDigitYear)
    (hu : u.HasFourDigitYear) (x y : List Char) :
    Text.encode (t.fileStem.toList ++ x) < Text.encode (u.fileStem.toList ++ y) ↔
      t.seconds < u.seconds ∨ t.seconds = u.seconds ∧ Text.encode x < Text.encode y := by
  obtain ⟨hmonth, hday, hhour, hminute, hsecond⟩ := t.pairs_lt
  obtain ⟨hmonth', hday', hhour', hminute', hsecond'⟩ := u.pairs_lt
  rw [fileStem, fileStem, String.toList_ofList, String.toList_ofList]
  simp only [List.append_assoc, List.cons_append, encode_yearText_lt_iff ht hu,
    Text.encode_cons_lt_iff, encode_pair_lt_iff hmonth hmonth', encode_pair_lt_iff hday hday',
    encode_pair_lt_iff hhour hhour', encode_pair_lt_iff hminute hminute',
    encode_pair_lt_iff hsecond hsecond']
  rw [minute_lt_or_iff, seconds_eq_minute t, seconds_eq_minute u]
  have hlt := t.valid_clock.second_lt
  have hlt' := u.valid_clock.second_lt
  by_cases hxy : Text.encode x < Text.encode y <;>
    simp only [hxy, and_true, and_false, or_false] <;> omega

end Instant

end BenchReport
