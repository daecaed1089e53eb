import IncidentBoard.Calendar
import Mathlib.Order.SuccPred.Archimedean
import Mathlib.Data.Int.SuccPred
import Mathlib.Tactic.IntervalCases

/-!
# Days of the calendar

The day number of a date counts the days of the Gregorian calendar: the first of January 1970 has
number zero, and the day after a date has the number after its own. Every number is that of one
date, and dates are ordered as their numbers are.

## Main definitions

* `Date.Valid`, `Date.Before`, `Date.next` — the dates of the calendar, their order, and the day
  after a date.
* `Date.dayNumber_next` — the number of the day after a date.
* `Date.CycleDay` — a day of a cycle of 400 years, by what lies before it in the cycle.
* `Date.dayNumber_ofDayNumber`, `Date.valid_ofDayNumber` — the date of a number.
* `Date.before_iff` — the order of dates and of their numbers.
-/

namespace IncidentBoard

namespace Date

/-- A date of the calendar. -/
structure Valid (x : Date) : Prop where
  month_pos : 1 ≤ x.month
  month_le : x.month ≤ 12
  day_pos : 1 ≤ x.day
  day_le : x.day ≤ daysInMonth x.year x.month

theorem valid_iff {x : Date} : x.Valid ↔
    1 ≤ x.month ∧ x.month ≤ 12 ∧ 1 ≤ x.day ∧ x.day ≤ daysInMonth x.year x.month :=
  ⟨fun ⟨a, b, c, d⟩ => ⟨a, b, c, d⟩, fun ⟨a, b, c, d⟩ => ⟨a, b, c, d⟩⟩

instance (x : Date) : Decidable x.Valid := decidable_of_iff _ valid_iff.symm

/-- A date lies before another one: compared by year, then by month, then by day. -/
def Before (x y : Date) : Prop :=
  x.year < y.year ∨
    x.year = y.year ∧ (x.month < y.month ∨ x.month = y.month ∧ x.day < y.day)

instance (x y : Date) : Decidable (x.Before y) := inferInstanceAs (Decidable (_ ∨ _))

/-- The day after a date: the next one of the month, or the first one of the next month. -/
def next (x : Date) : Date :=
  if x.day < daysInMonth x.year x.month then { x with day := x.day + 1 }
  else if x.month < 12 then ⟨x.year, x.month + 1, 1⟩
  else ⟨x.year + 1, 1, 1⟩

variable {x y : Date}

/-! ## Years -/

theorem isLeap_iff (year : Int) :
    isLeap year = true ↔ year % 4 = 0 ∧ (year % 100 ≠ 0 ∨ year % 400 = 0) := by
  simp [isLeap]

/-- The number of the first of March of a year. -/
def marchStart (year : Int) : Int :=
  year / 400 * 146097 + (year % 400 * 365 + year % 400 / 4 - year % 400 / 100) - 719468

/-- From March to March a year has a day more if its February has. -/
theorem marchStart_succ (year : Int) :
    marchStart (year + 1) = marchStart year + (if isLeap (year + 1) then 366 else 365) := by
  have leap := isLeap_iff (year + 1)
  unfold marchStart
  split
  · rename_i long
    have rule := leap.1 long
    omega
  · rename_i short
    have rule := mt leap.2 short
    omega

/-! ## Months -/

/-- The number of the day before a month. -/
def monthStart (year : Int) (month : Nat) : Int := dayNumber ⟨year, month, 0⟩

theorem dayNumber_eq (x : Date) : x.dayNumber = monthStart x.year x.month + x.day := by
  simp only [monthStart, dayNumber, Nat.cast_zero]
  omega

theorem monthStart_eq (year : Int) (month : Nat) :
    monthStart year month =
      if month ≤ 2 then marchStart (year - 1) + (153 * (month + 9) + 2) / 5 - 1
      else marchStart year + (153 * (month - 3) + 2) / 5 - 1 := by
  unfold monthStart dayNumber marchStart
  by_cases early : month ≤ 2
  · simp only [early, if_true, Nat.not_lt.2 early, if_false, Nat.cast_zero]
    omega
  · simp only [early, if_false, Nat.not_le.1 early, if_true, Nat.cast_zero]
    omega

/-- A month starts after all days of the month before it. -/
theorem monthStart_succ {year : Int} {month : Nat} (pos : 1 ≤ month) (le : month < 12) :
    monthStart year (month + 1) = monthStart year month + daysInMonth year month := by
  rw [monthStart_eq, monthStart_eq]
  by_cases february : month = 2
  · have march := marchStart_succ (year - 1)
    rw [Int.sub_add_cancel] at march
    subst february
    cases leap : isLeap year <;> simp [leap, daysInMonth] at march ⊢ <;> omega
  · interval_cases month <;> simp [daysInMonth] at february ⊢ <;> omega

theorem monthStart_one (year : Int) :
    monthStart (year + 1) 1 = monthStart year 12 + daysInMonth year 12 := by
  rw [monthStart_eq, monthStart_eq]
  simp [daysInMonth]
  omega

theorem daysInMonth_pos (year : Int) (month : Nat) : 0 < daysInMonth year month := by
  unfold daysInMonth
  split_ifs <;> decide

theorem daysInMonth_le (year : Int) (month : Nat) : daysInMonth year month ≤ 31 := by
  unfold daysInMonth
  split_ifs <;> decide

theorem Valid.next (valid : x.Valid) : x.next.Valid := by
  unfold Date.next
  split
  · rename_i within
    exact { valid with day_pos := by simp, day_le := within }
  · split
    · rename_i early
      exact ⟨by simp, early, Nat.le_refl 1, daysInMonth_pos _ _⟩
    · exact ⟨Nat.le_refl 1, Nat.le_add_left 1 11, Nat.le_refl 1, daysInMonth_pos _ _⟩

/-- The day after a date has the number after its own. -/
theorem Valid.dayNumber_next (valid : x.Valid) : x.next.dayNumber = x.dayNumber + 1 := by
  have last := valid.day_le
  unfold Date.next
  split
  · rw [dayNumber_eq, dayNumber_eq x]
    push_cast
    omega
  · rename_i beyond
    rw [dayNumber_eq x, (Nat.not_lt.1 beyond).antisymm last |>.symm]
    split
    · rename_i early
      rw [dayNumber_eq, monthStart_succ valid.month_pos early]
      rfl
    · have december : x.month = 12 := by
        have := valid.month_le
        omega
      rw [dayNumber_eq, monthStart_one, december]
      rfl

/-! ## Order -/

/-- The number of the day before a month, the months of all years being counted through. -/
def monthStartAt (k : Int) : Int := monthStart (k / 12) ((k % 12).toNat + 1)

/-- The count of a month through all years. -/
def monthCount (x : Date) : Int := x.year * 12 + x.month - 1

theorem monthStartAt_add_one (k : Int) :
    monthStartAt (k + 1) = monthStartAt k + daysInMonth (k / 12) ((k % 12).toNat + 1) := by
  unfold monthStartAt
  by_cases december : k % 12 = 11
  · have year : (k + 1) / 12 = k / 12 + 1 := by omega
    have month : (k + 1) % 12 = 0 := by omega
    rw [year, month, december]
    exact monthStart_one _
  · have year : (k + 1) / 12 = k / 12 := by omega
    have month : ((k + 1) % 12).toNat = (k % 12).toNat + 1 := by omega
    rw [year, month]
    exact monthStart_succ (by omega) (by omega)

theorem monthStartAt_le {j k : Int} (le : j ≤ k) : monthStartAt j ≤ monthStartAt k := by
  refine monotone_int_of_le_succ (fun k => ?_) le
  rw [monthStartAt_add_one]
  omega

theorem Valid.monthCount_eq (valid : x.Valid) :
    x.monthCount / 12 = x.year ∧ (x.monthCount % 12).toNat + 1 = x.month := by
  have pos := valid.month_pos
  have le := valid.month_le
  unfold monthCount
  omega

theorem Valid.monthStartAt_monthCount (valid : x.Valid) :
    monthStartAt x.monthCount = monthStart x.year x.month := by
  rw [monthStartAt, valid.monthCount_eq.1, valid.monthCount_eq.2]

theorem dayNumber_lt_of_before (valid : x.Valid) (valid' : y.Valid) (before : x.Before y) :
    x.dayNumber < y.dayNumber := by
  have last := valid.day_le
  have first := valid'.day_pos
  have months : x.monthCount < y.monthCount ∨ x.monthCount = y.monthCount ∧ x.day < y.day := by
    have := valid.month_le
    have := valid'.month_le
    have := valid.month_pos
    have := valid'.month_pos
    unfold Before at before
    unfold monthCount
    omega
  rw [dayNumber_eq, dayNumber_eq, ← valid.monthStartAt_monthCount, ← valid'.monthStartAt_monthCount]
  rcases months with earlier | ⟨same, day⟩
  · -- The month of the first date ends before the month of the second one begins.
    have ends : monthStartAt (x.monthCount + 1) ≤ monthStartAt y.monthCount :=
      monthStartAt_le earlier
    rw [monthStartAt_add_one, valid.monthCount_eq.1, valid.monthCount_eq.2] at ends
    omega
  · rw [same]
    omega

theorem before_trichotomy (x y : Date) : x.Before y ∨ x = y ∨ y.Before x := by
  obtain ⟨year, month, day⟩ := x
  obtain ⟨year', month', day'⟩ := y
  simp only [Before, mk.injEq]
  omega

/-- Dates are ordered as their numbers are. -/
theorem before_iff (valid : x.Valid) (valid' : y.Valid) :
    x.Before y ↔ x.dayNumber < y.dayNumber := by
  refine ⟨dayNumber_lt_of_before valid valid', fun less => ?_⟩
  rcases before_trichotomy x y with before | rfl | after
  · exact before
  · exact absurd less (lt_irrefl _)
  · exact absurd less (dayNumber_lt_of_before valid' valid after).not_gt

theorem dayNumber_injective (valid : x.Valid) (valid' : y.Valid)
    (same : x.dayNumber = y.dayNumber) : x = y := by
  rcases before_trichotomy x y with before | equal | after
  · exact absurd same (dayNumber_lt_of_before valid valid' before).ne
  · exact equal
  · exact absurd same (dayNumber_lt_of_before valid' valid after).ne'

/-! ## Cycles of 400 years -/

/-- A day of a cycle of 400 years that begin in March: the centuries before it in the cycle, the
groups of four years before it in its century, the years before it in its group, and the days before
it in its year. Only the last year of a group has a day more, but for the group at the end of a
century, unless that ends the cycle. -/
structure CycleDay where
  century : Int
  group : Int
  year : Int
  day : Int
  century_range : 0 ≤ century ∧ century ≤ 3
  group_range : 0 ≤ group ∧ group ≤ 24
  year_range : 0 ≤ year ∧ year ≤ 3
  day_range : 0 ≤ day ∧ day ≤ 365
  leap : day = 365 → year = 3 ∧ (group = 24 → century = 3)

namespace CycleDay

/-- The days of the cycle before a day. -/
def number (x : CycleDay) : Int := 36524 * x.century + 1461 * x.group + 365 * x.year + x.day

/-- The years of the cycle before a day. -/
def yearOfCycle (x : CycleDay) : Int := 100 * x.century + 4 * x.group + x.year

theorem exists_number {n : Int} (nonneg : 0 ≤ n) (less : n < 146097) :
    ∃ x : CycleDay, x.number = n := by
  -- The last day of the cycle begins no further century, the leap day of a group no further year.
  obtain ⟨century, inCentury, centuries, centuryRange, rest, last⟩ :
      ∃ c r : Int, n = 36524 * c + r ∧ (0 ≤ c ∧ c ≤ 3) ∧ (0 ≤ r ∧ r ≤ 36524) ∧
        (r = 36524 → c = 3) :=
    ⟨min 3 (n / 36524), n - 36524 * min 3 (n / 36524), by omega, by omega, by omega, by omega⟩
  obtain ⟨group, inGroup, groups, groupRange, rest'⟩ :
      ∃ q r : Int, inCentury = 1461 * q + r ∧ (0 ≤ q ∧ q ≤ 24) ∧ 0 ≤ r ∧ r ≤ 1460 :=
    ⟨inCentury / 1461, inCentury % 1461, by omega, by omega, by omega⟩
  obtain ⟨year, day, years, yearRange, dayRange, last'⟩ :
      ∃ t d : Int, inGroup = 365 * t + d ∧ (0 ≤ t ∧ t ≤ 3) ∧ (0 ≤ d ∧ d ≤ 365) ∧
        (d = 365 → t = 3) :=
    ⟨min 3 (inGroup / 365), inGroup - 365 * min 3 (inGroup / 365), by omega, by omega, by omega,
      by omega⟩
  refine ⟨⟨century, group, year, day, centuryRange, groupRange, yearRange, dayRange, ?_⟩, ?_⟩
  · omega
  · unfold number
    dsimp only
    omega

variable (x : CycleDay)

/-- The year of a day: its number without the leap days before it, in years of 365 days. -/
theorem yearOfCycle_number :
    (x.number - x.number / 1460 + x.number / 36524 - x.number / 146096) / 365 = x.yearOfCycle := by
  obtain ⟨century, group, year, day, centuries, groups, years, days, leap⟩ := x
  simp only [number, yearOfCycle]
  generalize whole : 36524 * century + 1461 * group + 365 * year + day = n
  -- The leap day of the group may be counted early, but not on the first day of a year.
  obtain ⟨early, leapDays, few, counted, first⟩ :
      ∃ early, n / 1460 = 25 * century + group + early ∧ (0 ≤ early ∧ early ≤ 1) ∧
        (day = 365 → early = 1) ∧ (early = 1 → 0 < day) :=
    ⟨(24 * century + group + 365 * year + day) / 1460, by omega, by omega, by omega, by omega⟩
  have dropped : n / 36524 - n / 146096 = century := by
    by_cases last : n = 146096
    · omega
    · have inCentury : 1461 * group + 365 * year + day < 36524 := by omega
      omega
  omega

theorem dayOfYear_number :
    x.number - (365 * x.yearOfCycle + x.yearOfCycle / 4 - x.yearOfCycle / 100) = x.day := by
  obtain ⟨century, group, year, day, century_range, group_range, year_range, day_range, leap⟩ := x
  unfold number yearOfCycle
  dsimp only
  omega

/-- The date of a day, after some cycles. Months are counted from March. -/
def date (cycle : Int) : Date :=
  let months := (5 * x.day + 2) / 153
  let month := if months < 10 then months + 3 else months - 9
  let year := x.yearOfCycle + cycle * 400
  ⟨if month ≤ 2 then year + 1 else year, month.toNat,
    (x.day - (153 * months + 2) / 5 + 1).toNat⟩

theorem yearOfCycle_range : 0 ≤ x.yearOfCycle ∧ x.yearOfCycle ≤ 399 := by
  obtain ⟨century, group, year, day, centuries, groups, years, days, leap⟩ := x
  unfold yearOfCycle
  dsimp only
  omega

theorem marchStart_yearOfCycle (cycle : Int) :
    marchStart (x.yearOfCycle + cycle * 400) = 146097 * cycle + x.number - x.day - 719468 := by
  have range := x.yearOfCycle_range
  have inYear := x.dayOfYear_number
  have quotient : (x.yearOfCycle + cycle * 400) / 400 = cycle := by omega
  have remainder : (x.yearOfCycle + cycle * 400) % 400 = x.yearOfCycle := by omega
  rw [marchStart, quotient, remainder]
  omega

theorem isLeap_of_day (last : x.day = 365) (cycle : Int) :
    isLeap (x.yearOfCycle + cycle * 400 + 1) = true := by
  rw [isLeap_iff]
  obtain ⟨century, group, year, day, centuries, groups, years, days, leap⟩ := x
  have rule := leap last
  unfold yearOfCycle
  dsimp only
  omega

theorem dayNumber_date (cycle : Int) :
    (x.date cycle).dayNumber = 146097 * cycle + x.number - 719468 := by
  have start := x.marchStart_yearOfCycle cycle
  have range := x.day_range
  rw [dayNumber_eq, monthStart_eq]
  simp only [date]
  by_cases spring : (5 * x.day + 2) / 153 < 10
  · have late : ¬(5 * x.day + 2) / 153 + 3 ≤ 2 := by omega
    have month : ¬((5 * x.day + 2) / 153 + 3).toNat ≤ 2 := by omega
    simp only [spring, if_true, late, if_false, month, start]
    omega
  · have early : (5 * x.day + 2) / 153 - 9 ≤ 2 := by omega
    have month : ((5 * x.day + 2) / 153 - 9).toNat ≤ 2 := by omega
    simp only [spring, if_false, early, if_true, month, Int.add_sub_cancel, start]
    omega

theorem valid_date (cycle : Int) : (x.date cycle).Valid := by
  have range := x.day_range
  have leap := fun last => x.isLeap_of_day last cycle
  obtain ⟨months, counted, first, last⟩ : ∃ months : Nat, (5 * x.day + 2) / 153 = months ∧
      153 * (months : Int) ≤ 5 * x.day + 2 ∧ 5 * x.day + 2 < 153 * (months + 1) :=
    ⟨((5 * x.day + 2) / 153).toNat, by omega, by omega, by omega⟩
  have twelve : months < 12 := by omega
  simp only [date, counted]
  rw [valid_iff]
  interval_cases months <;> simp [daysInMonth] <;> try omega
  -- In February the last day of a leap year remains.
  by_cases leapDay : x.day = 365
  · rw [leap leapDay, if_pos rfl]
    omega
  · split <;> omega

end CycleDay

/-! ## Dates of numbers -/

/-- The date of a number is that of a day of a cycle. -/
theorem exists_cycleDay (n : Int) : ∃ (cycle : Int) (x : CycleDay),
    ofDayNumber n = x.date cycle ∧ n = 146097 * cycle + x.number - 719468 := by
  obtain ⟨x, number⟩ := CycleDay.exists_number (n := (n + 719468) % 146097) (by omega) (by omega)
  refine ⟨(n + 719468) / 146097, x, ?_, by omega⟩
  simp only [ofDayNumber, ← number, x.yearOfCycle_number, x.dayOfYear_number, CycleDay.date]

theorem dayNumber_ofDayNumber (n : Int) : (ofDayNumber n).dayNumber = n := by
  obtain ⟨cycle, x, date, number⟩ := exists_cycleDay n
  rw [date, x.dayNumber_date, ← number]

theorem valid_ofDayNumber (n : Int) : (ofDayNumber n).Valid := by
  obtain ⟨cycle, x, date, -⟩ := exists_cycleDay n
  rw [date]
  exact x.valid_date cycle

theorem Valid.ofDayNumber_dayNumber (valid : x.Valid) : ofDayNumber x.dayNumber = x :=
  dayNumber_injective (valid_ofDayNumber _) valid (dayNumber_ofDayNumber _)

end Date

end IncidentBoard
