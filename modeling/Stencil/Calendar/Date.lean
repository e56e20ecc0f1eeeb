/-!
# Dates

The Gregorian calendar, extended to all years. Days are counted from the first of January 1970.
-/

namespace Stencil.Calendar

/-- A day of the calendar. Years before the first are zero and negative. -/
structure Date where
  year : Int
  month : Nat
  day : Nat
deriving DecidableEq, Repr

/-- How many days go before the first of a month in a year that starts in March, where March is
month zero. -/
def daysBeforeMonth (month : Nat) : Nat := (153 * month + 2) / 5

/-- The date of a day. Years are taken to start in March, so that a leap day ends its year, and
are counted within a period of 400 years. -/
def Date.ofDays (days : Int) : Date :=
  let shifted := days + 719468
  let period := shifted / 146097
  let dayOfPeriod := shifted % 146097
  let yearOfPeriod :=
    (dayOfPeriod - dayOfPeriod / 1460 + dayOfPeriod / 36524 - dayOfPeriod / 146096) / 365
  let dayOfYear :=
    (dayOfPeriod - (365 * yearOfPeriod + yearOfPeriod / 4 - yearOfPeriod / 100)).toNat
  let monthFromMarch := (5 * dayOfYear + 2) / 153
  let day := dayOfYear - daysBeforeMonth monthFromMarch + 1
  let month := if monthFromMarch < 10 then monthFromMarch + 3 else monthFromMarch - 9
  let year := yearOfPeriod + 400 * period
  ⟨if month ≤ 2 then year + 1 else year, month, day⟩

/-- The day of a date. -/
def Date.toDays (d : Date) : Int :=
  let year := if d.month ≤ 2 then d.year - 1 else d.year
  let period := year / 400
  let yearOfPeriod := year % 400
  let monthFromMarch := if 2 < d.month then d.month - 3 else d.month + 9
  let dayOfYear := daysBeforeMonth monthFromMarch + d.day - 1
  let dayOfPeriod := 365 * yearOfPeriod + yearOfPeriod / 4 - yearOfPeriod / 100 + dayOfYear
  period * 146097 + dayOfPeriod - 719468

/-- The number of the day in its year, from one. -/
def Date.ordinal (d : Date) : Nat := (d.toDays - Date.toDays ⟨d.year, 1, 1⟩).toNat + 1

/-- The day of the week, where Sunday is zero. -/
def Date.weekday (d : Date) : Nat := ((d.toDays + 4) % 7).toNat

/-- The day of the week, where Monday is zero. -/
def Date.weekdayFromMonday (d : Date) : Nat := ((d.toDays + 3) % 7).toNat

/-- The number of the week in the year, where weeks start on the day that `sinceStart` counts from
and the days before the first such day are in week zero. -/
def Date.week (d : Date) (sinceStart : Nat) : Nat := (d.ordinal + 6 - sinceStart) / 7

/-- The year and the number of the week by the standard rule: weeks start on Monday and belong to
the year that their Thursday is in. -/
def Date.isoWeek (d : Date) : Int × Nat :=
  let thursday := Date.ofDays (d.toDays + 3 - d.weekdayFromMonday)
  (thursday.year, (thursday.ordinal - 1) / 7 + 1)

end Stencil.Calendar
