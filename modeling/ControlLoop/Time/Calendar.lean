/-!
# The proleptic Gregorian calendar

A date is a valid day of a year within the range of the calendar, and moves by single days. Within
that range every date has a successor and a predecessor except at the two ends.
-/

namespace ControlLoop

def isLeapYear (year : Int) : Bool :=
  year % 4 == 0 && (year % 100 != 0 || year % 400 == 0)

def daysInMonth (year : Int) (month : Nat) : Nat :=
  if month = 2 then (if isLeapYear year then 29 else 28)
  else if month = 4 ∨ month = 6 ∨ month = 9 ∨ month = 11 then 30
  else 31

/-- The years of the calendar. -/
def isCalendarYear (year : Int) : Prop := -262143 ≤ year ∧ year ≤ 262142

instance (year : Int) : Decidable (isCalendarYear year) :=
  inferInstanceAs (Decidable (_ ∧ _))

structure Date where
  year : Int
  month : Nat
  day : Nat
  year_ok : isCalendarYear year
  month_ok : 1 ≤ month ∧ month ≤ 12
  day_ok : 1 ≤ day ∧ day ≤ daysInMonth year month
deriving DecidableEq

namespace Date

def ofFields? (year : Int) (month day : Nat) : Option Date :=
  if h : isCalendarYear year ∧ (1 ≤ month ∧ month ≤ 12) ∧ (1 ≤ day ∧ day ≤ daysInMonth year month)
  then some ⟨year, month, day, h.1, h.2.1, h.2.2⟩
  else none

theorem ofFields?_self (d : Date) : ofFields? d.year d.month d.day = some d := by
  simp [ofFields?, d.year_ok, d.month_ok, d.day_ok]

/-- The day after, unless the calendar ends. -/
def next? (d : Date) : Option Date :=
  if d.day < daysInMonth d.year d.month then ofFields? d.year d.month (d.day + 1)
  else if d.month < 12 then ofFields? d.year (d.month + 1) 1
  else ofFields? (d.year + 1) 1 1

/-- The day before, unless the calendar begins. -/
def prev? (d : Date) : Option Date :=
  if 1 < d.day then ofFields? d.year d.month (d.day - 1)
  else if 1 < d.month then ofFields? d.year (d.month - 1) (daysInMonth d.year (d.month - 1))
  else ofFields? (d.year - 1) 12 31

end Date

def secondsPerDay : Nat := 86400

/-- The time of day: a second of the day and nanoseconds, which reach into a second second where a
leap second follows the last second of a minute. -/
structure DayTime where
  second : Nat
  nano : Nat
  second_ok : second < secondsPerDay
  nano_ok : nano < 1000000000 ∨ (second % 60 = 59 ∧ nano < 2000000000)
deriving DecidableEq

namespace DayTime

/-- The sixtieth second of a minute is the leap second after the last one. -/
def ofFields? (hour minute second nano : Nat) : Option DayTime :=
  let start := if second = 60 then 59 else second
  let count := if second = 60 then nano + 1000000000 else nano
  let total := hour * 3600 + minute * 60 + start
  if h : hour < 24 ∧ minute < 60 ∧ second ≤ 60 ∧ nano < 1000000000 ∧ total < secondsPerDay ∧
      (count < 1000000000 ∨ (total % 60 = 59 ∧ count < 2000000000))
  then some ⟨total, count, h.2.2.2.2.1, h.2.2.2.2.2⟩
  else none

def hour (t : DayTime) : Nat := t.second / 3600

def minute (t : DayTime) : Nat := t.second / 60 % 60

/-- The second of the minute, sixty within a leap second. -/
def secondOfMinute (t : DayTime) : Nat :=
  if t.nano < 1000000000 then t.second % 60 else 60

/-- The nanoseconds within the second. -/
def fraction (t : DayTime) : Nat := t.nano % 1000000000

theorem ofFields?_self (t : DayTime) :
    ofFields? t.hour t.minute t.secondOfMinute t.fraction = some t := by
  obtain ⟨second, nano, hs, hn⟩ := t
  simp only [secondsPerDay] at hs
  unfold ofFields? hour minute secondOfMinute fraction secondsPerDay
  by_cases h : nano < 1000000000
  · have h60 : second % 60 ≠ 60 := by omega
    have hmod : nano % 1000000000 = nano := Nat.mod_eq_of_lt h
    have htotal : second / 3600 * 3600 + second / 60 % 60 * 60 + second % 60 = second := by omega
    simp only [h, if_true, h60, if_false, hmod, htotal]
    exact dif_pos ⟨by omega, by omega, by omega, trivial, hs, .inl trivial⟩
  · have h59 : second % 60 = 59 := by omega
    have hcount : nano % 1000000000 + 1000000000 = nano := by omega
    have htotal : second / 3600 * 3600 + second / 60 % 60 * 60 + 59 = second := by omega
    simp only [h, if_false, if_true, hcount, htotal]
    exact dif_pos ⟨by omega, by omega, by omega, by omega, hs, .inr (by omega)⟩

end DayTime

/-- A point in time on the universal time scale. -/
structure UtcTime where
  date : Date
  time : DayTime
deriving DecidableEq

namespace UtcTime

/-- The universal time of a local time that is `minutes` ahead of it. -/
def ofLocal? (date : Date) (time : DayTime) (minutes : Int) : Option UtcTime :=
  let shifted : Int := time.second - minutes * 60
  let second := (shifted % secondsPerDay).toNat
  let day? :=
    if shifted < 0 then date.prev? else if shifted < secondsPerDay then some date else date.next?
  if h : second < secondsPerDay ∧
      (time.nano < 1000000000 ∨ (second % 60 = 59 ∧ time.nano < 2000000000))
  then day?.map fun day ↦ ⟨day, ⟨second, time.nano, h.1, h.2⟩⟩
  else none

theorem ofLocal?_zero (date : Date) (time : DayTime) :
    ofLocal? date time 0 = some ⟨date, time⟩ := by
  obtain ⟨second, nano, hs, hn⟩ := time
  simp only [secondsPerDay] at hs
  have hmod : ((second : Int) % 86400).toNat = second := by omega
  have hneg : ¬ (second : Int) < 0 := by omega
  have hlt : (second : Int) < 86400 := by omega
  simp [ofLocal?, secondsPerDay, hmod, hneg, hlt, hs, hn]

end UtcTime

end ControlLoop
