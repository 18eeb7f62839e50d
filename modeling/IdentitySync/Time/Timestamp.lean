import IdentitySync.Time.Date

/-!
Moments in UTC, to the nanosecond. A leap second is the last second of its minute with a billion
nanoseconds more.
-/
namespace IdentitySync.Time

def secondsPerDay : Nat := 86400

def billion : Nat := 1000000000

structure Timestamp where
  date : Date
  second : Nat
  nano : Nat
  second_range : second < secondsPerDay
  nano_range : nano < billion ∨ (nano < 2 * billion ∧ second % 60 = 59)
deriving DecidableEq

namespace Timestamp

def of? (date : Date) (second nano : Nat) : Option Timestamp :=
  if hs : second < secondsPerDay then
    if hn : nano < billion ∨ (nano < 2 * billion ∧ second % 60 = 59) then
      some ⟨date, second, nano, hs, hn⟩
    else none
  else none

/-- The moment in UTC at which clocks that are `offset` seconds ahead show the given time. -/
def ofLocal? (date : Date) (second nano : Nat) (offset : Int) : Option Timestamp :=
  let shifted : Int := second - offset
  if shifted < 0 then
    date.previous?.bind fun d => of? d (shifted + secondsPerDay).toNat nano
  else if (secondsPerDay : Int) ≤ shifted then
    date.next?.bind fun d => of? d (shifted - secondsPerDay).toNat nano
  else of? date shifted.toNat nano

def epochSeconds (t : Timestamp) : Int := t.date.dayNumber * secondsPerDay + t.second

def later? (t : Timestamp) (seconds : Nat) : Option Timestamp :=
  let total := t.epochSeconds + seconds
  (Date.ofDayNumber? (Int.fdiv total secondsPerDay)).bind fun d =>
    of? d (Int.fmod total secondsPerDay).toNat (if seconds = 0 then t.nano else t.nano % billion)

end Timestamp

end IdentitySync.Time
