/-!
# The calendar

Dates of the proleptic Gregorian calendar, with year 0 before year 1, in the years from `minYear`
to `maxYear`.  `Date.number` counts days, and `Date.next?` and `Date.previous?` step by one day.
-/

namespace FleetQuery

/-- A leap year. -/
def isLeapYear (y : Int) : Bool := y % 4 == 0 && (y % 100 != 0 || y % 400 == 0)

/-- The number of days of a month. -/
def daysInMonth (y : Int) (m : Nat) : Nat :=
  if m == 2 then (if isLeapYear y then 29 else 28)
  else if m == 4 || m == 6 || m == 9 || m == 11 then 30
  else 31

/-- The number of days of the first `m` months of a year. -/
def daysInMonths (y : Int) : Nat → Nat
  | 0 => 0
  | m + 1 => daysInMonths y m + daysInMonth y (m + 1)

/-- The first year of the calendar. -/
def minYear : Int := -262143

/-- The last year of the calendar. -/
def maxYear : Int := 262142

/-- The calendar has such a day. -/
def isDate (y : Int) (m d : Nat) : Bool :=
  minYear ≤ y && y ≤ maxYear && 1 ≤ m && m ≤ 12 && 1 ≤ d && d ≤ daysInMonth y m

/-- A day of the calendar. -/
structure Date where
  /-- The year; year 0 is the one before year 1. -/
  year : Int
  /-- The month, from 1. -/
  month : Nat
  /-- The day of the month, from 1. -/
  day : Nat
  /-- The calendar has this day. -/
  valid : isDate year month day = true
  deriving DecidableEq, Repr

namespace Date

/-- The day with a given year, month and day of the month, if the calendar has it. -/
def of? (y : Int) (m d : Nat) : Option Date :=
  if h : isDate y m d = true then some ⟨y, m, d, h⟩ else none

theorem of?_eq (d : Date) : of? d.year d.month d.day = some d := by
  simp [of?, d.valid]

/-- The day after. -/
def next? (d : Date) : Option Date :=
  of? d.year d.month (d.day + 1) <|> of? d.year (d.month + 1) 1 <|> of? (d.year + 1) 1 1

/-- The day before. -/
def previous? (d : Date) : Option Date :=
  if 1 < d.day then of? d.year d.month (d.day - 1)
  else if 1 < d.month then of? d.year (d.month - 1) (daysInMonth d.year (d.month - 1))
  else of? (d.year - 1) 12 31

/-- The number of days from the first day of year 1. -/
def number (d : Date) : Int :=
  let y := d.year - 1
  365 * y + y / 4 - y / 100 + y / 400 + daysInMonths d.year (d.month - 1) + d.day - 1

end Date

end FleetQuery
