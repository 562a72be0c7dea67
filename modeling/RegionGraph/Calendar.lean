/-!
# The calendar

Lengths of months, and moments to the second in their order.
-/

namespace RegionGraph

/-- The days of a month. -/
def daysOfMonth (year : Int) (month : Nat) : Nat :=
  if month = 2 then if year % 4 = 0 ∧ (year % 100 ≠ 0 ∨ year % 400 = 0) then 29 else 28
  else if month ∈ [4, 6, 9, 11] then 30 else 31

/-- A moment by its date and its time of day. -/
structure Moment where
  year : Int
  month : Nat
  day : Nat
  hour : Nat
  minute : Nat
  second : Nat
deriving DecidableEq

namespace Moment

/-- Whether a moment is one of the calendar. A minute may have a leap second. -/
def isValid (m : Moment) : Bool :=
  1 ≤ m.month && m.month ≤ 12 && 1 ≤ m.day && m.day ≤ daysOfMonth m.year m.month
    && m.hour ≤ 23 && m.minute ≤ 59 && m.second ≤ 60

/-- A number that grows with the moment, for moments of the calendar. -/
def rank (m : Moment) : Int :=
  ((((m.year * 13 + m.month) * 32 + m.day) * 24 + m.hour) * 60 + m.minute) * 61 + m.second

end Moment

end RegionGraph
