/-! Moments: a day of the calendar, a time of the day, and the zone in which both are told. -/

namespace GridTable

structure Moment where
  year : Nat
  month : Nat
  day : Nat
  hour : Nat
  minute : Nat
  second : Nat
  millisecond : Nat
  zone : String
  /-- How many seconds the zone is ahead of the zone of reference. -/
  offset : Int
  deriving Repr, DecidableEq

namespace Moment

/-- The first moment of a day in the zone of reference. -/
def startOfDay (year month day : Nat) : Moment :=
  ⟨year, month, day, 0, 0, 0, 0, "UTC", 0⟩

def isLeapYear (year : Nat) : Bool :=
  year % 4 == 0 && (year % 100 != 0 || year % 400 == 0)

def yearLength (year : Nat) : Nat :=
  if isLeapYear year then 366 else 365

def monthLengths (year : Nat) : List Nat :=
  [31, if isLeapYear year then 29 else 28, 31, 30, 31, 30, 31, 31, 30, 31, 30, 31]

/-- The days of the year before the day of the moment. -/
def dayOfYear (moment : Moment) : Nat :=
  ((monthLengths moment.year).take (moment.month - 1)).foldl (· + ·) (moment.day - 1)

/-- The days before a year, counted from the year zero. -/
def daysBefore (year : Nat) : Nat :=
  365 * year + (year + 3) / 4 - (year + 99) / 100 + (year + 399) / 400

/-- The days before the day of the moment, counted from the year zero. -/
def dayNumber (moment : Moment) : Nat :=
  daysBefore moment.year + moment.dayOfYear

/-- The day of the week; Sunday is zero. The year zero began on a Saturday. -/
def dayOfWeek (moment : Moment) : Nat :=
  (moment.dayNumber + 6) % 7

/-- The seconds since the year 1970 began in the zone of reference. -/
def sinceEpoch (moment : Moment) : Int :=
  let days : Int := (moment.dayNumber : Int) - daysBefore 1970
  let time := (moment.hour * 60 + moment.minute) * 60 + moment.second
  days * 86400 + time - moment.offset

/-- The weeks of the year that have begun, if weeks begin on a given day of the week. -/
def weeksBegun (moment : Moment) (firstDay : Nat) : Nat :=
  (moment.dayOfYear + 7 - (moment.dayOfWeek + 7 - firstDay) % 7) / 7

/-- The year and the number of the week, which belong to the year of its Thursday. -/
def week (moment : Moment) : Nat × Nat :=
  let sinceMonday := (moment.dayOfWeek + 6) % 7
  let thursday : Int := (moment.dayOfYear : Int) + 3 - sinceMonday
  if thursday < 0 then
    (moment.year - 1, (thursday + yearLength (moment.year - 1)).toNat / 7 + 1)
  else if thursday < yearLength moment.year then (moment.year, thursday.toNat / 7 + 1)
  else (moment.year + 1, (thursday - yearLength moment.year).toNat / 7 + 1)

/-- The hour on a clock of twelve hours. -/
def clockHour (moment : Moment) : Nat :=
  (moment.hour + 11) % 12 + 1

end Moment

end GridTable
