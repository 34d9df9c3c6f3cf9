-- Points in time as a commit records them: a date and a time of day on the
-- clock of some place, and how far that clock is ahead of UTC. Two timestamps
-- are ordered by the instant they name, not by what the clock shows.

namespace CommitQuery

/-- A date of the Gregorian calendar, extended to all years. -/
structure Date where
  year : Int
  month : Nat
  day : Nat
deriving DecidableEq, Repr

/-- A local date and time with its offset from UTC in seconds. In a leap second
the second is 59 and the nanoseconds start at 1000000000. -/
structure Timestamp where
  date : Date
  hour : Nat
  minute : Nat
  second : Nat
  nanos : Nat
  offset : Int
deriving DecidableEq, Repr

namespace Date

def isLeapYear (year : Int) : Bool := year % 4 = 0 && (year % 100 ≠ 0 || year % 400 = 0)

/-- How many days a month has. -/
def daysInMonth (year : Int) (month : Nat) : Nat :=
  if month = 2 then if isLeapYear year then 29 else 28
  else if month = 4 || month = 6 || month = 9 || month = 11 then 30
  else 31

/-- Whether the calendar has the date. -/
def isValid (d : Date) : Bool :=
  1 ≤ d.month && d.month ≤ 12 && 1 ≤ d.day && d.day ≤ daysInMonth d.year d.month

/-- Days from 1970-01-01 to a date. Years are counted from March, so that the
leap day is the last day of its year. -/
def toDays (d : Date) : Int :=
  let y := if d.month ≤ 2 then d.year - 1 else d.year
  let era := y / 400
  let yearOfEra := y - era * 400
  let monthFromMarch : Int := (d.month + 9 : Nat) % 12
  let dayOfYear := (153 * monthFromMarch + 2) / 5 + d.day - 1
  let dayOfEra := yearOfEra * 365 + yearOfEra / 4 - yearOfEra / 100 + dayOfYear
  era * 146097 + dayOfEra - 719468

/-- The date some days after 1970-01-01. -/
def ofDays (days : Int) : Date :=
  let z := days + 719468
  let era := z / 146097
  let dayOfEra := z - era * 146097
  let yearOfEra := (dayOfEra - dayOfEra / 1460 + dayOfEra / 36524 - dayOfEra / 146096) / 365
  let dayOfYear := dayOfEra - (365 * yearOfEra + yearOfEra / 4 - yearOfEra / 100)
  let monthFromMarch := (5 * dayOfYear + 2) / 153
  let day := dayOfYear - (153 * monthFromMarch + 2) / 5 + 1
  let month := if monthFromMarch < 10 then monthFromMarch + 3 else monthFromMarch - 9
  let year := yearOfEra + era * 400 + (if month ≤ 2 then 1 else 0)
  ⟨year, month.toNat, day.toNat⟩

end Date

namespace Timestamp

/-- Seconds from 1970-01-01T00:00:00 UTC to the instant, its fraction left out. -/
def seconds (t : Timestamp) : Int :=
  t.date.toDays * 86400 + (t.hour * 3600 + t.minute * 60 + t.second : Nat) - t.offset

/-- The same instant on the clock of another place. -/
def atOffset (t : Timestamp) (offset : Int) : Timestamp :=
  if t.offset = offset then t
  else
    let total := t.seconds + offset
    let ofDay := total - total / 86400 * 86400
    ⟨Date.ofDays (total / 86400), (ofDay / 3600).toNat, (ofDay / 60 % 60).toNat,
      (ofDay % 60).toNat, t.nanos, offset⟩

/-- The order of instants. -/
def compare (a b : Timestamp) : Ordering :=
  (Ord.compare a.seconds b.seconds).then (Ord.compare a.nanos b.nanos)

/-- Whether two timestamps name one instant. -/
def sameInstant (a b : Timestamp) : Bool := a.seconds = b.seconds && a.nanos = b.nanos

/-! ## Writing -/

/-- A number with zeros in front, at least `width` digits. -/
def padded (width n : Nat) : List Char :=
  let digits := (toString n).toList
  List.replicate (width - digits.length) '0' ++ digits

/-- A year of four digits; a year out of their range has a sign. -/
def yearText (year : Int) : List Char :=
  if 0 ≤ year ∧ year ≤ 9999 then padded 4 year.toNat
  else (if year < 0 then '-' else '+') :: padded 4 year.natAbs

def dateText (d : Date) : List Char :=
  yearText d.year ++ '-' :: padded 2 d.month ++ '-' :: padded 2 d.day

/-- The fraction of a second in as many digits as it needs: none, 3, 6 or 9. -/
def fractionText (nanos : Nat) : List Char :=
  if nanos = 0 then []
  else if nanos % 1000000 = 0 then '.' :: padded 3 (nanos / 1000000)
  else if nanos % 1000 = 0 then '.' :: padded 6 (nanos / 1000)
  else '.' :: padded 9 nanos

/-- The time of day; a leap second shows as second 60. -/
def timeText (t : Timestamp) : List Char :=
  padded 2 t.hour ++ ':' :: padded 2 t.minute ++ ':' ::
    padded 2 (t.second + t.nanos / 1000000000) ++ fractionText (t.nanos % 1000000000)

/-- The offset as hours and minutes. -/
def offsetText (offset : Int) : List Char :=
  let minutes := offset.natAbs / 60
  (if offset < 0 then '-' else '+') :: padded 2 (minutes / 60) ++ ':' :: padded 2 (minutes % 60)

/-- The timestamp with its offset, such as `2025-01-02T03:04:05+01:00`. -/
def toText (t : Timestamp) : String :=
  String.ofList (dateText t.date ++ 'T' :: timeText t ++ offsetText t.offset)

/-- A timestamp of UTC as files hold it, with a `Z` at its end. -/
def toUtcText (t : Timestamp) : String :=
  String.ofList (dateText t.date ++ 'T' :: timeText t ++ ['Z'])

/-- The timestamp as tables show it: date, hour and minute of the local clock. -/
def shown (t : Timestamp) : String :=
  String.ofList (dateText t.date ++ ' ' :: padded 2 t.hour ++ ':' :: padded 2 t.minute)

end Timestamp

end CommitQuery
