import IdentitySync.Time.Timestamp

/-!
Days are numbered without gaps: the calendar has a date for every number from its first to its last
day, and the date's own number is that one. A moment some seconds later therefore exists exactly
when it comes no later than the calendar's last second.
-/
namespace IdentitySync.Time

/-- Days from the March that begins year zero to the March that begins another year. -/
def daysBefore (y : Int) : Int := 365 * y + y / 4 - y / 100 + y / 400

theorem isLeapYear_iff (y : Int) :
    isLeapYear y = true ↔ y % 4 = 0 ∧ (y % 100 ≠ 0 ∨ y % 400 = 0) := by
  simp [isLeapYear]

theorem daysBefore_succ (y : Int) :
    daysBefore (y + 1) = daysBefore y + if isLeapYear (y + 1) then 366 else 365 := by
  by_cases leap : isLeapYear (y + 1) = true
  · rw [if_pos leap]
    rw [isLeapYear_iff] at leap
    simp only [daysBefore]
    omega
  · rw [if_neg leap]
    rw [isLeapYear_iff] at leap
    simp only [daysBefore]
    omega

theorem daysBefore_mono {a b : Int} (h : a ≤ b) : daysBefore a ≤ daysBefore b := by
  simp only [daysBefore]
  omega

theorem daysBefore_era (y era : Int) :
    daysBefore (y + era * 400) = daysBefore y + era * 146097 := by
  simp only [daysBefore]
  omega

/-- The year in which a day of an era of 400 years falls. -/
def yearOfEra (d : Int) : Int := (d - d / 1460 + d / 36524 - d / 146096) / 365

theorem yearOfEra_bounds {d : Int} (first : 0 ≤ d) (last : d < 146097) :
    0 ≤ yearOfEra d ∧ yearOfEra d < 400 := by
  rw [yearOfEra]
  omega

/-- Only the last day of an era belongs to the century that its number would begin. -/
theorem yearOfEra_century {d : Int} (first : 0 ≤ d) (last : d < 146097) :
    yearOfEra d / 100 = d / 36524 - d / 146096 := by
  have centuries : d / 36524 = 0 ∨ d / 36524 = 1 ∨ d / 36524 = 2 ∨ d / 36524 = 3 ∨
      d / 36524 = 4 := by omega
  rw [yearOfEra]
  rcases centuries with h | h | h | h | h <;> omega

theorem yearOfEra_days {d : Int} (first : 0 ≤ d) (last : d < 146097) :
    daysBefore (yearOfEra d) ≤ d ∧ d < daysBefore (yearOfEra d + 1) := by
  have century := yearOfEra_century first last
  obtain ⟨low, high⟩ := yearOfEra_bounds first last
  have read : yearOfEra d = (d - d / 1460 + d / 36524 - d / 146096) / 365 := rfl
  generalize yearOfEra d = y at *
  simp only [daysBefore]
  have era : y / 400 = 0 := by omega
  -- The quotients are bounded only up to one, so the day is compared with the end of its century
  -- and with the last leap day before the year's end.
  have ends : (y + 1) / 100 = y / 100 ∨ y + 1 = 100 * (y / 100 + 1) := by omega
  have leaps : d / 1460 ≤ (y + 1) / 4 ∨ (y + 1) / 4 < d / 1460 := by omega
  have closed : d / 146096 = 0 ∨ d / 146096 = 1 := by omega
  constructor
  · rcases closed with h | h <;> omega
  · rcases ends with h | h <;> rcases leaps with h' | h' <;> omega

namespace Date

def epochDays : Int := 719468

/-- The year of a date, when years begin in March. -/
def marchYear (t : Date) : Int := if t.month ≤ 2 then t.year - 1 else t.year

def marchMonth (t : Date) : Int := if t.month ≤ 2 then t.month + 9 else t.month - 3

theorem dayNumber_eq (t : Date) : t.dayNumber + epochDays =
    daysBefore t.marchYear + (153 * t.marchMonth + 2) / 5 + t.day - 1 := by
  have era := Int.fdiv_eq_ediv_of_nonneg t.marchYear (by decide : (0 : Int) ≤ 400)
  simp only [dayNumber, epochDays, daysBefore]
  simp only [marchYear, marchMonth] at era ⊢
  rw [era]
  omega

def yearOfDay (z : Int) : Int := yearOfEra (z % 146097) + z / 146097 * 400

theorem yearOfDay_days (z : Int) :
    daysBefore (yearOfDay z) ≤ z ∧ z < daysBefore (yearOfDay z + 1) := by
  have first : 0 ≤ z % 146097 := Int.emod_nonneg z (by decide)
  have last : z % 146097 < 146097 := Int.emod_lt_of_pos z (by decide)
  obtain ⟨starts, ends⟩ := yearOfEra_days first last
  have next : yearOfDay z + 1 = yearOfEra (z % 146097) + 1 + z / 146097 * 400 := by
    rw [yearOfDay]
    omega
  rw [next, yearOfDay, daysBefore_era, daysBefore_era]
  omega

def dayOfYear (z : Int) : Int := z - daysBefore (yearOfDay z)

theorem dayOfYear_range (z : Int) : 0 ≤ dayOfYear z ∧ dayOfYear z < 366 ∧
    (dayOfYear z = 365 → isLeapYear (yearOfDay z + 1) = true) := by
  obtain ⟨starts, ends⟩ := yearOfDay_days z
  rw [daysBefore_succ] at ends
  rw [dayOfYear]
  split at ends
  · rename_i leap
    exact ⟨by omega, by omega, fun _ => leap⟩
  · exact ⟨by omega, by omega, fun last => by omega⟩

def monthOfDay (day : Int) : Int := (5 * day + 2) / 153

theorem ofDayNumber?_eq (n : Int) :
    let z := n + epochDays
    let month := monthOfDay (dayOfYear z)
    ofDayNumber? n = of? (if month < 10 then yearOfDay z else yearOfDay z + 1)
      (if month < 10 then month + 3 else month - 9).toNat
      (dayOfYear z - (153 * month + 2) / 5 + 1).toNat := by
  intro z month
  have era : Int.fdiv (n + 719468) 146097 = z / 146097 :=
    Int.fdiv_eq_ediv_of_nonneg z (by decide : (0 : Int) ≤ 146097)
  have rest : n + 719468 - z / 146097 * 146097 = z % 146097 := by
    simp only [z, epochDays]
    omega
  have year : (z % 146097 - z % 146097 / 1460 + z % 146097 / 36524 - z % 146097 / 146096) / 365 =
    yearOfEra (z % 146097) := rfl
  have inEra := yearOfEra_bounds (Int.emod_nonneg z (by decide))
    (Int.emod_lt_of_pos z (by decide : (0 : Int) < 146097))
  have day : z % 146097 - (365 * yearOfEra (z % 146097) + yearOfEra (z % 146097) / 4 -
      yearOfEra (z % 146097) / 100) = dayOfYear z := by
    rw [dayOfYear, yearOfDay, daysBefore_era, daysBefore]
    omega
  have since : (5 * dayOfYear z + 2) / 153 = month := rfl
  have range := dayOfYear_range z
  simp only [ofDayNumber?, era, rest, year, day, since]
  by_cases early : month < 10
  · rw [if_pos early, if_pos early, if_neg (by omega)]
    rfl
  · rw [if_neg early, if_neg early, if_pos (by omega)]
    rfl

theorem day_fits {day y : Int} (first : 0 ≤ day) (last : day < 366)
    (leap : day = 365 → isLeapYear (y + 1) = true) :
    1 ≤ day - (153 * monthOfDay day + 2) / 5 + 1 ∧
    day - (153 * monthOfDay day + 2) / 5 + 1 ≤
      daysIn (if monthOfDay day < 10 then y else y + 1)
        (if monthOfDay day < 10 then monthOfDay day + 3 else monthOfDay day - 9).toNat := by
  have read : monthOfDay day = (5 * day + 2) / 153 := rfl
  have months : monthOfDay day = 0 ∨ monthOfDay day = 1 ∨ monthOfDay day = 2 ∨
      monthOfDay day = 3 ∨ monthOfDay day = 4 ∨ monthOfDay day = 5 ∨ monthOfDay day = 6 ∨
      monthOfDay day = 7 ∨ monthOfDay day = 8 ∨ monthOfDay day = 9 ∨ monthOfDay day = 10 ∨
      monthOfDay day = 11 := by omega
  generalize monthOfDay day = month at *
  refine ⟨by omega, ?_⟩
  by_cases february : month = 11
  · subst february
    by_cases ends : day = 365
    · simp [daysIn, leap ends, ends]
    · have short : 28 ≤ daysIn (y + 1) 2 := by
        rw [daysIn, if_pos rfl]
        split <;> decide
      have whole : ((28 : Nat) : Int) ≤ daysIn (y + 1) 2 := Int.ofNat_le.mpr short
      simp
      omega
  · rcases months with rfl | rfl | rfl | rfl | rfl | rfl | rfl | rfl | rfl | rfl | rfl | rfl <;>
      simp [daysIn] at february ⊢ <;> omega

theorem of?_some {y : Int} {m d : Nat} {t : Date} (h : of? y m d = some t) :
    t.year = y ∧ t.month = m ∧ t.day = d := by
  unfold of? at h
  split at h
  · split at h
    · split at h
      · cases h
        exact ⟨rfl, rfl, rfl⟩
      · cases h
    · cases h
  · cases h

theorem exists_of? {y : Int} {m d : Nat} (years : firstYear ≤ y ∧ y ≤ lastYear)
    (months : 1 ≤ m ∧ m ≤ 12) (days : 1 ≤ d ∧ d ≤ daysIn y m) : ∃ t, of? y m d = some t :=
  ⟨⟨y, m, d, years, months, days⟩, by rw [of?, dif_pos years, dif_pos months, dif_pos days]⟩

theorem dayNumber_of_some {n : Int} {t : Date} (h : ofDayNumber? n = some t) : t.dayNumber = n := by
  rw [ofDayNumber?_eq] at h
  obtain ⟨first, last, leap⟩ := dayOfYear_range (n + epochDays)
  obtain ⟨positive, -⟩ := day_fits first last leap
  have days : dayOfYear (n + epochDays) =
    n + epochDays - daysBefore (yearOfDay (n + epochDays)) := rfl
  have months : 0 ≤ monthOfDay (dayOfYear (n + epochDays)) ∧
      monthOfDay (dayOfYear (n + epochDays)) < 12 := by
    rw [monthOfDay]
    omega
  have own := dayNumber_eq t
  generalize monthOfDay (dayOfYear (n + epochDays)) = month at *
  generalize dayOfYear (n + epochDays) = day at *
  obtain ⟨sameYear, sameMonth, sameDay⟩ := of?_some h
  have year : t.marchYear = yearOfDay (n + epochDays) := by
    rw [marchYear, sameYear, sameMonth]
    split <;> split <;> omega
  have since : t.marchMonth = month := by
    rw [marchMonth, sameMonth]
    split <;> split <;> omega
  rw [year, since, sameDay] at own
  omega

def firstDay : Int := daysBefore (-262144) + 306 - epochDays

def lastDate : Date := ⟨lastYear, 12, 31, by decide, by decide, by decide⟩

theorem firstDay_days : firstDay + epochDays = daysBefore (-262144) + 306 := by decide

theorem lastDate_day : lastDate.dayNumber + epochDays = daysBefore 262142 + 305 := by decide

theorem march_range (t : Date) : 0 ≤ t.marchMonth ∧ t.marchMonth ≤ 11 ∧
    -262144 ≤ t.marchYear ∧ t.marchYear ≤ 262142 ∧
    (t.marchYear = -262144 → 10 ≤ t.marchMonth) ∧ (t.marchYear = 262142 → t.marchMonth ≤ 9) := by
  have months := t.month_range
  have years := t.year_range
  simp only [firstYear, lastYear] at years
  rw [marchYear, marchMonth]
  split
  · exact ⟨by omega, by omega, by omega, by omega, fun _ => by omega, fun _ => by omega⟩
  · exact ⟨by omega, by omega, by omega, by omega, fun _ => by omega, fun _ => by omega⟩

theorem daysIn_le (y : Int) (m : Nat) : daysIn y m ≤ 31 := by
  rw [daysIn]
  split
  · split <;> decide
  · split <;> decide

theorem day_bounds (t : Date) :
    firstDay ≤ t.dayNumber ∧ t.dayNumber ≤ lastDate.dayNumber := by
  have own := dayNumber_eq t
  have first := firstDay_days
  have last := lastDate_day
  have days := t.day_range
  have length := daysIn_le t.year t.month
  obtain ⟨low, high, oldest, latest, atFirst, atLast⟩ := march_range t
  constructor
  · by_cases edge : t.marchYear = -262144
    · have late := atFirst edge
      rw [edge] at own
      omega
    · have later := daysBefore_mono (by omega : -262144 + 1 ≤ t.marchYear)
      rw [daysBefore_succ] at later
      split at later <;> omega
  · by_cases edge : t.marchYear = 262142
    · have early := atLast edge
      rw [edge] at own
      omega
    · have earlier := daysBefore_mono (by omega : t.marchYear + 1 ≤ 262142)
      rw [daysBefore_succ] at earlier
      split at earlier <;> omega

theorem year_bounds {z : Int} (starts : daysBefore (-262144) + 306 ≤ z)
    (ends : z ≤ daysBefore 262142 + 305) :
    firstYear ≤ (if monthOfDay (dayOfYear z) < 10 then yearOfDay z else yearOfDay z + 1) ∧
      (if monthOfDay (dayOfYear z) < 10 then yearOfDay z else yearOfDay z + 1) ≤ lastYear := by
  obtain ⟨begins, before⟩ := yearOfDay_days z
  have days : dayOfYear z = z - daysBefore (yearOfDay z) := rfl
  have month : monthOfDay (dayOfYear z) = (5 * dayOfYear z + 2) / 153 := rfl
  have low : -262144 ≤ yearOfDay z := by
    refine Int.not_lt.mp fun early => ?_
    have earlier := daysBefore_mono (by omega : yearOfDay z + 1 ≤ -262144)
    omega
  have high : yearOfDay z ≤ 262142 := by
    refine Int.not_lt.mp fun late => ?_
    have later := daysBefore_mono (by omega : 262142 + 1 ≤ yearOfDay z)
    rw [daysBefore_succ] at later
    split at later <;> omega
  simp only [firstYear, lastYear]
  split
  · rename_i early
    refine ⟨Int.not_lt.mp fun first => ?_, high⟩
    have edge : yearOfDay z = -262144 := by omega
    rw [edge] at days
    omega
  · rename_i late
    refine ⟨by omega, Int.not_lt.mp fun last => ?_⟩
    have edge : yearOfDay z = 262142 := by omega
    rw [edge] at days
    omega

/-- There is a date for every day from the calendar's first to its last. -/
theorem exists_ofDayNumber?_iff (n : Int) :
    (∃ t, ofDayNumber? n = some t) ↔ firstDay ≤ n ∧ n ≤ lastDate.dayNumber := by
  constructor
  · rintro ⟨t, h⟩
    rw [← dayNumber_of_some h]
    exact day_bounds t
  · rintro ⟨starts, ends⟩
    obtain ⟨first, last, leap⟩ := dayOfYear_range (n + epochDays)
    obtain ⟨positive, fits⟩ := day_fits first last leap
    have lowest := firstDay_days
    have highest := lastDate_day
    rw [ofDayNumber?_eq]
    refine exists_of? (year_bounds (by omega) (by omega)) ?_ ⟨by omega, by omega⟩
    rw [monthOfDay]
    split <;> omega

end Date

namespace Timestamp

def lastSecond : Int := Date.lastDate.dayNumber * secondsPerDay + (secondsPerDay - 1)

def dayLater (t : Timestamp) (seconds : Nat) : Int := (t.epochSeconds + seconds) / secondsPerDay

def secondLater (t : Timestamp) (seconds : Nat) : Nat :=
  ((t.epochSeconds + seconds) % secondsPerDay).toNat

theorem secondLater_parts (t : Timestamp) (seconds : Nat) :
    t.secondLater seconds < secondsPerDay ∧
    t.dayLater seconds * secondsPerDay + t.secondLater seconds = t.epochSeconds + seconds ∧
    (seconds = 0 → t.secondLater seconds = t.second) := by
  have range := t.second_range
  simp only [secondLater, dayLater, epochSeconds, secondsPerDay] at range ⊢
  omega

theorem fdiv_day (t : Timestamp) (seconds : Nat) :
    Int.fdiv (t.epochSeconds + seconds) secondsPerDay = t.dayLater seconds :=
  Int.fdiv_eq_ediv_of_nonneg _ (by decide : (0 : Int) ≤ secondsPerDay)

theorem later?_of_day {t : Timestamp} {seconds : Nat} {d : Date}
    (day : Date.ofDayNumber? (t.dayLater seconds) = some d) :
    ∃ u, t.later? seconds = some u ∧ u.epochSeconds = t.epochSeconds + seconds := by
  have second : Int.fmod (t.epochSeconds + seconds) secondsPerDay =
      (t.epochSeconds + seconds) % secondsPerDay :=
    Int.fmod_eq_emod_of_nonneg _ (by decide : (0 : Int) ≤ secondsPerDay)
  obtain ⟨within, whole, same⟩ := secondLater_parts t seconds
  have nanos : (if seconds = 0 then t.nano else t.nano % billion) < billion ∨
      ((if seconds = 0 then t.nano else t.nano % billion) < 2 * billion ∧
        t.secondLater seconds % 60 = 59) := by
    by_cases none : seconds = 0
    · rw [if_pos none, same none]
      exact t.nano_range
    · rw [if_neg none]
      exact .inl (Nat.mod_lt _ (by decide))
  refine ⟨⟨d, t.secondLater seconds, _, within, nanos⟩, ?_, ?_⟩
  · rw [later?, fdiv_day, second, day]
    exact (dif_pos within).trans (dif_pos nanos)
  · rw [epochSeconds, Date.dayNumber_of_some day]
    exact whole

/-- There is no moment so many seconds later exactly when it would come after the last second. -/
theorem later?_eq_none_iff (t : Timestamp) (seconds : Nat) :
    t.later? seconds = none ↔ lastSecond < t.epochSeconds + seconds := by
  obtain ⟨within, whole, -⟩ := secondLater_parts t seconds
  have begins := t.date.day_bounds.1
  have known := Date.exists_ofDayNumber?_iff (t.dayLater seconds)
  have reached : Date.firstDay ≤ t.dayLater seconds := by
    simp only [dayLater, epochSeconds, secondsPerDay]
    omega
  cases day : Date.ofDayNumber? (t.dayLater seconds) with
  | none =>
    rw [day] at known
    have beyond : ¬t.dayLater seconds ≤ Date.lastDate.dayNumber := fun ends => by
      obtain ⟨_, found⟩ := known.mpr ⟨reached, ends⟩
      cases found
    have never : t.later? seconds = none := by
      rw [later?, fdiv_day, day]
      rfl
    refine ⟨fun _ => ?_, fun _ => never⟩
    simp only [lastSecond, secondsPerDay] at whole ⊢
    omega
  | some d =>
    obtain ⟨u, found, -⟩ := later?_of_day day
    have ends := (known.mp ⟨d, day⟩).2
    refine ⟨fun none => ?_, fun late => ?_⟩
    · rw [found] at none
      cases none
    · simp only [lastSecond, secondsPerDay] at whole within late
      omega

end Timestamp

end IdentitySync.Time
