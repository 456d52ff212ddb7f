/-
  RobotPipeline/Time/Date.lean
  ============================
  **Days of the Gregorian calendar, numbered.**

  Day 0 is the first of January of the year 1; the calendar is extended in
  both directions, up to the years in which instants are kept. `dayNumber` counts
  the days before a date and `ofDayNumber?` finds the date with a number.
-/

namespace RobotPipeline

namespace Date

def isLeap (year : Int) : Bool :=
  year % 4 = 0 && (year % 100 ≠ 0 || year % 400 = 0)

def monthLengths (leap : Bool) : List Nat :=
  [31, if leap then 29 else 28, 31, 30, 31, 30, 31, 31, 30, 31, 30, 31]

/-- The length of a month, counted from 1. -/
def monthLength (leap : Bool) (month : Nat) : Nat :=
  if month = 0 then 0 else (monthLengths leap).getD (month - 1) 0

/-- The first and last year in which instants are kept. -/
def firstYear : Int := -262143
def lastYear : Int := 262142

def inCalendar (year : Int) (month day : Nat) : Bool :=
  firstYear ≤ year && year ≤ lastYear && 1 ≤ day && day ≤ monthLength (isLeap year) month

end Date

/-- A day of the calendar. -/
structure Date where
  year : Int
  month : Nat
  day : Nat
  valid : Date.inCalendar year month day = true := by decide
deriving DecidableEq, Repr

namespace Date

/-- The date with the given parts, if the calendar has it. -/
def of? (year : Int) (month day : Nat) : Option Date :=
  if h : inCalendar year month day = true then some ⟨year, month, day, h⟩ else none

def daysBeforeYear (year : Int) : Int :=
  365 * (year - 1) + (year - 1) / 4 - (year - 1) / 100 + (year - 1) / 400

def daysBeforeMonth (leap : Bool) (month : Nat) : Nat :=
  ((monthLengths leap).take (month - 1)).foldl (· + ·) 0

def dayNumber (d : Date) : Int :=
  daysBeforeYear d.year + daysBeforeMonth (isLeap d.year) d.month + d.day - 1

/-- Finds month and day of the `n`-th day of a year (from 0), going through the month lengths. -/
def monthAndDay (month : Nat) : List Nat → Nat → Nat × Nat
  | [], n => (month, n + 1)
  | [_], n => (month, n + 1)
  | length :: rest, n =>
    if n < length then (month, n + 1) else monthAndDay (month + 1) rest (n - length)

/-- The date with a number, if the calendar reaches it: whole periods of 400, 100, 4 and 1 years are
taken off in turn. -/
def ofDayNumber? (n : Int) : Option Date :=
  let periods := n / 146097
  let r := n % 146097
  let centuries := min 3 (r / 36524)
  let r := r - centuries * 36524
  let quads := r / 1461
  let r := r % 1461
  let years := min 3 (r / 365)
  let r := r - years * 365
  let year := 400 * periods + 100 * centuries + 4 * quads + years + 1
  let (month, day) := monthAndDay 1 (monthLengths (isLeap year)) r.toNat
  of? year month day

end Date

end RobotPipeline
