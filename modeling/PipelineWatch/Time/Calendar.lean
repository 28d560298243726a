/-!
Days of the Gregorian calendar, extended to all years, and the seconds of a day.
-/
namespace PipelineWatch.Time

/-- Whether the year has 366 days. -/
def isLeapYear (year : Int) : Bool :=
  year % 4 == 0 && (year % 100 != 0 || year % 400 == 0)

/-- How many days each month has. -/
def monthLengths (year : Int) : List Nat :=
  [31, if isLeapYear year then 29 else 28, 31, 30, 31, 30, 31, 31, 30, 31, 30, 31]

/-- The days from the first of January of year 1 to that of `year`. -/
def daysBefore (year : Int) : Int :=
  let y := year - 1
  365 * y + y / 4 - y / 100 + y / 400

/-- A day by year, month and day of the month. -/
structure Date where
  year : Int
  month : Nat
  day : Nat
deriving DecidableEq, Repr

/-- The first year that a date may have. -/
def firstYear : Int := -262143

/-- The last year that a date may have. -/
def lastYear : Int := 262142

/-- Whether there is such a day. -/
def Date.isValid (d : Date) : Bool :=
  firstYear ≤ d.year && d.year ≤ lastYear && 1 ≤ d.month && 1 ≤ d.day &&
    d.day ≤ (monthLengths d.year).getD (d.month - 1) 0

/-- The days from the first of January 1970. -/
def Date.dayNumber (d : Date) : Int :=
  daysBefore d.year - daysBefore 1970 +
    (((monthLengths d.year).take (d.month - 1)).foldl (· + ·) 0 + d.day - 1 : Nat)

end PipelineWatch.Time
