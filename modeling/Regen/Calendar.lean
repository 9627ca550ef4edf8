/-!
# The calendar

Days of the Gregorian calendar, which is taken to hold from the first year on.
-/

namespace Regen.Calendar

def isLeap (year : Nat) : Bool := year % 4 = 0 && (year % 100 ≠ 0 || year % 400 = 0)

def daysIn (year month : Nat) : Nat :=
  if month = 2 then if isLeap year then 29 else 28
  else if month = 4 ∨ month = 6 ∨ month = 9 ∨ month = 11 then 30
  else 31

/-- The day is one of the calendar's. -/
def isDay (year month day : Nat) : Bool :=
  1 ≤ year && 1 ≤ month && month ≤ 12 && 1 ≤ day && day ≤ daysIn year month

/-- The count of days from the first day of the first year up to and with a day. -/
def dayNumber (year month day : Nat) : Nat :=
  let before := year - 1
  let months := (List.range (month - 1)).foldl (fun days m => days + daysIn year (m + 1)) 0
  365 * before + before / 4 - before / 100 + before / 400 + months + day

/-- The count of microseconds that a clock shows since the calendar's start. -/
def microseconds (date time : Nat × Nat × Nat) (micro : Nat) : Nat :=
  let (y, m, d) := date
  let (h, mi, s) := time
  (((dayNumber y m d * 24 + h) * 60 + mi) * 60 + s) * 1000000 + micro

end Regen.Calendar
