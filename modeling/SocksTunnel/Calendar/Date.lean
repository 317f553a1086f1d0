/-!
Dates of the calendar, which counts its years from 1 and takes a leap year every fourth year except
in three of four centuries.

A date may also be given by a week and a weekday: the first week of a year is the one that holds
its first Thursday, and the week starts on Monday. Such a date may lie in the year before or after.
-/

namespace SocksTunnel.Calendar

/-- A year, a month from 1 to 12, and a day from 1 on. -/
structure Date where
  year : Nat
  month : Nat
  day : Nat
  deriving DecidableEq, Repr

def isLeap (year : Nat) : Bool := year % 4 = 0 && (year % 100 ≠ 0 || year % 400 = 0)

/-- The days of a month. -/
def daysIn (year month : Nat) : Nat :=
  if month = 2 then if isLeap year then 29 else 28
  else if month = 4 ∨ month = 6 ∨ month = 9 ∨ month = 11 then 30
  else 31

/-- The days of a year. -/
def daysInYear (year : Nat) : Nat := if isLeap year then 366 else 365

/-- The days of the calendar before a year. -/
def daysBefore (year : Nat) : Nat :=
  let past := year - 1
  past * 365 + past / 4 - past / 100 + past / 400

/-- The weekday on which a year starts; Monday is zero. The calendar starts on a Monday. -/
def firstWeekday (year : Nat) : Nat := daysBefore year % 7

/-! ### Days of a year -/

/-- The month and the day of a day of a year, which is counted from zero on from a month. -/
def monthDay (year : Nat) : (left month n : Nat) → Nat × Nat
  | 0, month, n => (month, n + 1)
  | left + 1, month, n =>
      if n < daysIn year month then (month, n + 1)
      else monthDay year left (month + 1) (n - daysIn year month)

/-- The date of a day of a year, counted from zero on. -/
def Date.ofDay (year n : Nat) : Date :=
  let (month, day) := monthDay year 11 1 n
  ⟨year, month, day⟩

/-! ### Weeks -/

/-- Whether a year has a week of a number. Years that start on a Thursday, and leap years that
start on a Wednesday, have 53 weeks. -/
def hasWeek (year week : Nat) : Bool :=
  1 ≤ week && (week ≤ 52
    || (week = 53 && (firstWeekday year = 3 || (firstWeekday year = 2 && isLeap year))))

/-- The Monday of the first week of a year, as a day of that year. It may lie before the year. -/
def firstMonday (year : Nat) : Int :=
  let weekday := firstWeekday year
  if weekday ≤ 3 then -(weekday : Int) else 7 - (weekday : Int)

/-- The date of a weekday, from 1 for Monday to 7 for Sunday, of a week of a year. -/
def Date.ofWeek (year week weekday : Nat) : Date :=
  let n : Int := firstMonday year + ((week - 1) * 7 + (weekday - 1) : Nat)
  if n < 0 then ⟨year - 1, 12, 31 - (n.natAbs - 1)⟩
  else if n.toNat < daysInYear year then .ofDay year n.toNat
  else .ofDay (year + 1) (n.toNat - daysInYear year)

end SocksTunnel.Calendar
