/-!
Days of the Gregorian calendar, carried back to all years, within a fixed range of years.
-/
namespace IdentitySync.Time

def isLeapYear (y : Int) : Bool := y % 4 = 0 && (y % 100 != 0 || y % 400 = 0)

def daysIn (y : Int) (m : Nat) : Nat :=
  if m = 2 then (if isLeapYear y then 29 else 28)
  else if m = 4 ∨ m = 6 ∨ m = 9 ∨ m = 11 then 30 else 31

def firstYear : Int := -262143

def lastYear : Int := 262142

structure Date where
  year : Int
  month : Nat
  day : Nat
  year_range : firstYear ≤ year ∧ year ≤ lastYear
  month_range : 1 ≤ month ∧ month ≤ 12
  day_range : 1 ≤ day ∧ day ≤ daysIn year month
deriving DecidableEq

namespace Date

def of? (y : Int) (m d : Nat) : Option Date :=
  if hy : firstYear ≤ y ∧ y ≤ lastYear then
    if hm : 1 ≤ m ∧ m ≤ 12 then
      if hd : 1 ≤ d ∧ d ≤ daysIn y m then some ⟨y, m, d, hy, hm, hd⟩ else none
    else none
  else none

def next? (t : Date) : Option Date :=
  if t.day < daysIn t.year t.month then of? t.year t.month (t.day + 1)
  else if t.month < 12 then of? t.year (t.month + 1) 1
  else of? (t.year + 1) 1 1

def previous? (t : Date) : Option Date :=
  if 1 < t.day then of? t.year t.month (t.day - 1)
  else if 1 < t.month then of? t.year (t.month - 1) (daysIn t.year (t.month - 1))
  else of? (t.year - 1) 12 31

/-- Days since 1970-01-01. Years are counted from March, so that a leap day ends its year. -/
def dayNumber (t : Date) : Int :=
  let y := if t.month ≤ 2 then t.year - 1 else t.year
  let era := Int.fdiv y 400
  let yearOfEra := y - era * 400
  let month : Int := if t.month ≤ 2 then t.month + 9 else t.month - 3
  let dayOfYear := (153 * month + 2) / 5 + t.day - 1
  era * 146097 + (yearOfEra * 365 + yearOfEra / 4 - yearOfEra / 100 + dayOfYear) - 719468

def ofDayNumber? (n : Int) : Option Date :=
  let z := n + 719468
  let era := Int.fdiv z 146097
  let dayOfEra := z - era * 146097
  let yearOfEra := (dayOfEra - dayOfEra / 1460 + dayOfEra / 36524 - dayOfEra / 146096) / 365
  let dayOfYear := dayOfEra - (365 * yearOfEra + yearOfEra / 4 - yearOfEra / 100)
  let month := (5 * dayOfYear + 2) / 153
  let day := dayOfYear - (153 * month + 2) / 5 + 1
  let m := if month < 10 then month + 3 else month - 9
  let y := yearOfEra + era * 400
  of? (if m ≤ 2 then y + 1 else y) m.toNat day.toNat

end Date

end IdentitySync.Time
