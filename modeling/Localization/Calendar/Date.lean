/-! # Dates

Days of the proleptic Gregorian calendar in the years 1 to 9999, their position in the
count of days, their weekday, and the weeks of the year that begin on Monday and belong
to the year of their Thursday.
-/
namespace Localization.Calendar

structure Date where
  year : Nat
  month : Nat
  day : Nat
  deriving DecidableEq, Repr

/-- Why fields do not name a moment. -/
inductive Fault where
  | year (n : Nat)
  | month
  | day
  | hour
  | minute
  | second
  | offset (seconds : Int)
  deriving DecidableEq, Repr

def isLeap (year : Nat) : Bool := year % 4 == 0 && (year % 100 != 0 || year % 400 == 0)

def daysInMonth (year month : Nat) : Nat :=
  if month == 2 then (if isLeap year then 29 else 28)
  else if month == 4 || month == 6 || month == 9 || month == 11 then 30
  else 31

def daysBeforeMonth (year month : Nat) : Nat :=
  (List.range (month - 1)).foldl (fun days k => days + daysInMonth year (k + 1)) 0

def daysBeforeYear (year : Nat) : Nat :=
  let y := year - 1
  365 * y + y / 4 - y / 100 + y / 400

namespace Date

def of? (year month day : Nat) : Except Fault Date :=
  if year < 1 || 9999 < year then .error (.year year)
  else if month < 1 || 12 < month then .error .month
  else if day < 1 || daysInMonth year month < day then .error .day
  else .ok ⟨year, month, day⟩

/-- The place of a date in the count of days; the first day of year 1 is day 1. -/
def ordinal (d : Date) : Nat := daysBeforeYear d.year + daysBeforeMonth d.year d.month + d.day

def weekday (d : Date) : Nat := (d.ordinal + 6) % 7

def monthAndDay (year : Nat) : Nat → Nat → Nat → Nat × Nat
  | 0, month, day => (month, day + 1)
  | fuel + 1, month, day =>
    if day < daysInMonth year month then (month, day + 1)
    else monthAndDay year fuel (month + 1) (day - daysInMonth year month)

/-- The date at a place in the count of days, when it falls in the years 1 to 9999. -/
def ofOrdinal? (n : Int) : Option Date :=
  if n < 1 || 3652059 < n then none
  else
    let k := n.toNat
    let guess := k / 366 + 1
    let year := guess + ((List.range 30).takeWhile fun i => daysBeforeYear (guess + i + 1) < k).length
    let (month, day) := monthAndDay year 11 1 (k - daysBeforeYear year - 1)
    some ⟨year, month, day⟩

/-- Whether a year of Monday weeks has a week 53. -/
def hasLongYear (year : Nat) : Bool :=
  let first := (daysBeforeYear year + 1) % 7
  first == 4 || (first == 3 && isLeap year)

def ofWeek? (year week day : Nat) : Option Date :=
  if year < 1 || 9999 < year || week < 1 || 53 < week || day < 1 || 7 < day then none
  else if week = 53 && !hasLongYear year then none
  else
    let january4 := daysBeforeYear year + 4
    let firstMonday : Int := january4 - ((january4 + 6) % 7 : Nat)
    ofOrdinal? (firstMonday + ((week - 1) * 7 + (day - 1) : Nat))

end Date

end Localization.Calendar
