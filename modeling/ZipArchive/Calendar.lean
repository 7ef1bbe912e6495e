/-!
# Calendar dates and DOS time

Seconds since the start of 1970 are turned into a date of the proleptic Gregorian calendar and a
time of day, and those into the two packed words of archive headers. The words count from 1980,
hold seven bits of years and even seconds only; earlier moments are written as the first of the
range and later ones as its last.
-/

namespace ZipArchive

/-- A date of the proleptic Gregorian calendar. -/
structure Date where
  /-- The year. -/
  year : Int
  /-- The month, from 1. -/
  month : Nat
  /-- The day of the month, from 1. -/
  day : Nat
deriving DecidableEq, Repr

/-- The packed time and date words of a header. -/
structure DosTime where
  /-- Hour, minute and half the second, in five, six and five bits. -/
  time : UInt16
  /-- Year since 1980, month and day, in seven, four and five bits. -/
  date : UInt16
deriving DecidableEq, Repr

namespace Date

/-- The date `days` days after the first of January 1970.

Years are counted from March, so that a leap day is the last of its year, and in cycles of 400
years, each of 146097 days. -/
def ofDays (days : Int) : Date :=
  let shifted := days + 719468
  let era := shifted / 146097
  let dayOfEra := (shifted % 146097).toNat
  let yearOfEra := (dayOfEra - dayOfEra / 1460 + dayOfEra / 36524 - dayOfEra / 146096) / 365
  let dayOfYear := dayOfEra - (365 * yearOfEra + yearOfEra / 4 - yearOfEra / 100)
  let march := (5 * dayOfYear + 2) / 153
  let month := if march < 10 then march + 3 else march - 9
  { year := era * 400 + yearOfEra + if month ≤ 2 then 1 else 0
    month := month
    day := dayOfYear - (153 * march + 2) / 5 + 1 }

end Date

namespace DosTime

/-- The words of a date and a time of day. -/
def pack (years month day hour minute second : Nat) : DosTime where
  time := UInt16.ofNat (hour * 2048 + minute * 32 + second / 2)
  date := UInt16.ofNat (years * 512 + month * 32 + day)

/-- The first moment that the words can say: the start of 1980. -/
def first : DosTime := pack 0 1 1 0 0 0

/-- The last moment that the words can say: two seconds before the end of 2107. -/
def last : DosTime := pack 127 12 31 23 59 58

/-- The words for a number of seconds since the start of 1970. -/
def ofSeconds (seconds : Int) : DosTime :=
  let date := Date.ofDays (seconds / 86400)
  let clock := (seconds % 86400).toNat
  if date.year < 1980 then first
  else if 2107 < date.year then last
  else pack (date.year - 1980).toNat date.month date.day (clock / 3600) (clock / 60 % 60) (clock % 60)

/-- The words for a moment that may not be known. -/
def ofSeconds? : Option Int → DosTime
  | none => first
  | some s => ofSeconds s

end DosTime

/-- Whole seconds from a count of seconds and nanoseconds after them. -/
def wholeSeconds (seconds : Int) (nanos : Nat) : Int :=
  seconds + (nanos / 1000000000 : Nat)

end ZipArchive
