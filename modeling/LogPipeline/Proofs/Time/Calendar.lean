import LogPipeline.Time.Calendar
import Mathlib.Tactic.IntervalCases

/-!
# Days and their dates

Every day has a date of the calendar, and the date has no other day.  A cycle of
400 years, counted from March, consists of four centuries, a century of
twenty-five spans of four years, and a span of four years; only the last century,
span or year of what it belongs to can be a day longer.
-/

namespace LogPipeline.Time.Date

/-- A day of a cycle: century, span, year and day of the year, each counted from zero. -/
structure IsPlace (dayOfCycle century span year day : Nat) : Prop where
  eq : dayOfCycle = 36524 * century + 1461 * span + 365 * year + day
  century_le : century ≤ 3
  span_le : span ≤ 24
  year_le : year ≤ 3
  day_le : day ≤ 365
  /-- Only the fourth year of a span has a leap day, but not that of an incomplete century. -/
  leap : day = 365 → year = 3 ∧ (span = 24 → century = 3)

theorem exists_isPlace {dayOfCycle : Nat} (inside : dayOfCycle < 146097) :
    ∃ century span year day, IsPlace dayOfCycle century span year day := by
  obtain ⟨century, inCentury, days, century_le, inCentury_le, longCentury⟩ :
      ∃ century inCentury, dayOfCycle = 36524 * century + inCentury ∧ century ≤ 3 ∧
        inCentury ≤ 36524 ∧ (inCentury = 36524 → century = 3) :=
    ⟨min (dayOfCycle / 36524) 3, dayOfCycle - 36524 * min (dayOfCycle / 36524) 3,
      by omega, by omega, by omega, by omega⟩
  obtain ⟨span, inSpan, daysOfCentury, inSpan_le⟩ :
      ∃ span inSpan, inCentury = 1461 * span + inSpan ∧ inSpan < 1461 :=
    ⟨inCentury / 1461, inCentury % 1461, by omega, by omega⟩
  obtain ⟨year, day, daysOfSpan, year_le, day_le, longYear⟩ :
      ∃ year day, inSpan = 365 * year + day ∧ year ≤ 3 ∧ day ≤ 365 ∧ (day = 365 → year = 3) :=
    ⟨min (inSpan / 365) 3, inSpan - 365 * min (inSpan / 365) 3,
      by omega, by omega, by omega, by omega⟩
  exact ⟨century, span, year, day, by omega, century_le, by omega, year_le, day_le, by omega⟩

variable {dayOfCycle century span year day : Nat}

/-- The only day of a fifth century is the last one of the cycle. -/
theorem IsPlace.centuries (place : IsPlace dayOfCycle century span year day) :
    dayOfCycle / 36524 = century + dayOfCycle / 146096 := by
  obtain ⟨eq, century_le, span_le, year_le, day_le, leap⟩ := place
  have last :
      1461 * span + 365 * year + day < 36524 ∨
        century = 3 ∧ 1461 * span + 365 * year + day = 36524 := by
    omega
  rcases last with inside | ⟨rfl, last⟩
  · have whole : dayOfCycle / 36524 = century := by omega
    have unfinished : dayOfCycle / 146096 = 0 := by omega
    rw [whole, unfinished, Nat.add_zero]
  · omega

theorem IsPlace.lt (place : IsPlace dayOfCycle century span year day) : dayOfCycle < 146097 := by
  obtain ⟨eq, century_le, span_le, year_le, day_le, leap⟩ := place
  omega

/-- The years before a day, from the days that have passed. -/
theorem IsPlace.yearOfCycle (place : IsPlace dayOfCycle century span year day) :
    (dayOfCycle - dayOfCycle / 1460 + dayOfCycle / 36524 - dayOfCycle / 146096) / 365 =
      100 * century + 4 * span + year := by
  have centuries := place.centuries
  obtain ⟨eq, century_le, span_le, year_le, day_le, leap⟩ := place
  -- Divided by 1460, a span leaves one day over, and a century leaves 24.
  have spans :
      dayOfCycle / 1460 =
        25 * century + span + (24 * century + span + 365 * year + day) / 1460 := by
    omega
  have leapDays :
      (24 * century + span + 365 * year + day) / 1460 ≤ day ∧
        day ≤ (24 * century + span + 365 * year + day) / 1460 + 364 := by
    omega
  rw [centuries, spans]
  generalize (24 * century + span + 365 * year + day) / 1460 = leapDay at leapDays
  omega

theorem IsPlace.years_lt (place : IsPlace dayOfCycle century span year day) :
    100 * century + 4 * span + year < 400 := by
  obtain ⟨eq, century_le, span_le, year_le, day_le, leap⟩ := place
  omega

/-- The days of a cycle before a year. -/
theorem IsPlace.daysBefore (place : IsPlace dayOfCycle century span year day) :
    365 * (100 * century + 4 * span + year) + (100 * century + 4 * span + year) / 4 -
        (100 * century + 4 * span + year) / 100 + day =
      dayOfCycle := by
  obtain ⟨eq, century_le, span_le, year_le, day_le, leap⟩ := place
  have spans : (100 * century + 4 * span + year) / 4 = 25 * century + span := by omega
  have centuries : (100 * century + 4 * span + year) / 100 = century := by omega
  rw [spans, centuries]
  omega

/-! ## Days of a year that begins in March -/

/-- The date of a day counted from 1 March of a year. -/
def ofMarch (year : Int) (day : Nat) : Date :=
  let monthFromMarch := (5 * day + 2) / 153
  let month := if monthFromMarch < 10 then monthFromMarch + 3 else monthFromMarch - 9
  ⟨if month ≤ 2 then year + 1 else year, month, day - (153 * monthFromMarch + 2) / 5 + 1⟩

/-- A day of a month is counted from the same day of the year. -/
theorem toDays_ofMarch {year : Int} {day : Nat} (inside : day ≤ 365) :
    (ofMarch year day).toDays =
      year / 400 * cycleDays +
          Int.ofNat ((year % 400).toNat * 365 + (year % 400).toNat / 4 -
            (year % 400).toNat / 100 + day) -
        epochDay := by
  have months : (5 * day + 2) / 153 < 12 := by omega
  have begun : (153 * ((5 * day + 2) / 153) + 2) / 5 ≤ day := by omega
  unfold ofMarch toDays
  generalize (5 * day + 2) / 153 = monthFromMarch at months begun
  by_cases sameYear : monthFromMarch < 10
  · have later : ¬ monthFromMarch + 3 ≤ 2 := by omega
    have march : 2 < monthFromMarch + 3 := by omega
    simp only [if_pos sameYear, if_neg later, if_pos march, Nat.add_sub_cancel]
    congr 3
    omega
  · have earlier : monthFromMarch - 9 ≤ 2 := by omega
    have january : ¬ 2 < monthFromMarch - 9 := by omega
    simp only [if_neg sameYear, if_pos earlier, if_neg january, Int.add_sub_cancel,
      Nat.sub_add_cancel (Nat.le_of_succ_le (Nat.not_lt.mp sameYear))]
    congr 3
    omega

/-- Only a day more than 365 days after 1 March needs a leap year. -/
theorem isValid_ofMarch
    {year : Int}
    {day : Nat}
    (inside : day ≤ 365)
    (leap : day = 365 → isLeapYear (year + 1) = true) :
    (ofMarch year day).isValid = true := by
  have months : (5 * day + 2) / 153 ≤ 11 := by omega
  generalize count : (5 * day + 2) / 153 = monthFromMarch at months
  unfold ofMarch isValid
  rw [count]
  rcases months.eq_or_lt with rfl | before
  · -- Only February, the last month, depends on the year.
    cases leapYear : isLeapYear (year + 1) with
    | false =>
        have noLeapDay : day ≠ 365 := by
          intro last
          cases leapYear.symm.trans (leap last)
        simp [daysInMonth, leapYear]
        omega
    | true =>
        simp [daysInMonth, leapYear]
        omega
  · interval_cases monthFromMarch
    all_goals
      simp [daysInMonth]
      omega

/-! ## Days and dates -/

/-- The day at a place of a cycle, counted from 1 January 1970. -/
def ofCycle (cycle : Int) (dayOfCycle : Nat) : Int :=
  cycle * cycleDays + Int.ofNat dayOfCycle - epochDay

theorem exists_ofCycle (days : Int) :
    ∃ cycle dayOfCycle, dayOfCycle < 146097 ∧ ofCycle cycle dayOfCycle = days := by
  refine ⟨(days + epochDay) / 146097, ((days + epochDay) % 146097).toNat, ?_, ?_⟩
  · omega
  · rw [ofCycle, cycleDays, Int.ofNat_eq_natCast]
    omega

section

variable (place : IsPlace dayOfCycle century span year day) (cycle : Int)
include place

theorem IsPlace.ofDays_ofCycle :
    ofDays (ofCycle cycle dayOfCycle) =
      ofMarch (cycle * 400 + Int.ofNat (100 * century + 4 * span + year)) day := by
  have inside := place.lt
  have cycles : (ofCycle cycle dayOfCycle + epochDay) / cycleDays = cycle := by
    rw [ofCycle, cycleDays, Int.ofNat_eq_natCast]
    omega
  have remaining : ((ofCycle cycle dayOfCycle + epochDay) % cycleDays).toNat = dayOfCycle := by
    rw [ofCycle, cycleDays, Int.ofNat_eq_natCast]
    omega
  have dayOfYear := place.daysBefore
  rw [ofDays, cycles, remaining, place.yearOfCycle]
  generalize 100 * century + 4 * span + year = yearOfCycle at dayOfYear
  have same : dayOfCycle - (365 * yearOfCycle + yearOfCycle / 4 - yearOfCycle / 100) = day := by
    omega
  rw [same]
  rfl

theorem IsPlace.toDays_ofMarch :
    (ofMarch (cycle * 400 + Int.ofNat (100 * century + 4 * span + year)) day).toDays =
      ofCycle cycle dayOfCycle := by
  have daysBefore := place.daysBefore
  have few := place.years_lt
  rw [Date.toDays_ofMarch place.day_le, ofCycle]
  generalize 100 * century + 4 * span + year = yearOfCycle at daysBefore few
  have cycles : (cycle * 400 + Int.ofNat yearOfCycle) / 400 = cycle := by
    rw [Int.ofNat_eq_natCast]
    omega
  have years : ((cycle * 400 + Int.ofNat yearOfCycle) % 400).toNat = yearOfCycle := by
    rw [Int.ofNat_eq_natCast]
    omega
  rw [cycles, years, Nat.mul_comm yearOfCycle, daysBefore]

theorem IsPlace.isLeapYear (last : day = 365) :
    isLeapYear (cycle * 400 + Int.ofNat (100 * century + 4 * span + year) + 1) = true := by
  obtain ⟨eq, century_le, span_le, year_le, day_le, leap⟩ := place
  obtain ⟨rfl, complete⟩ := leap last
  simp only [Time.isLeapYear, Int.ofNat_eq_natCast, Bool.and_eq_true, Bool.or_eq_true,
    beq_iff_eq, bne_iff_ne]
  omega

end

/-- Each day is counted from its date. -/
theorem toDays_ofDays (days : Int) : (ofDays days).toDays = days := by
  obtain ⟨cycle, dayOfCycle, inside, rfl⟩ := exists_ofCycle days
  obtain ⟨century, span, year, day, place⟩ := exists_isPlace inside
  rw [place.ofDays_ofCycle, place.toDays_ofMarch]

/-- Each day has a date that exists. -/
theorem isValid_ofDays (days : Int) : (ofDays days).isValid = true := by
  obtain ⟨cycle, dayOfCycle, inside, rfl⟩ := exists_ofCycle days
  obtain ⟨century, span, year, day, place⟩ := exists_isPlace inside
  rw [place.ofDays_ofCycle]
  exact isValid_ofMarch place.day_le (place.isLeapYear cycle)

end LogPipeline.Time.Date
