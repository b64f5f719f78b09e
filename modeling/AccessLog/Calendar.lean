import AccessLog.Decimal.Digits
import AccessLog.Instant

/-!
# Calendar text

Instants as dates and times of the proleptic Gregorian calendar in UTC. A year is counted from March, so that
a leap day is its last day: 400 years have 146097 days, 100 years 36524, 4 years 1461 and one year 365,
where the last of four hundreds and the last of four years are a day longer.
-/

namespace AccessLog

structure Date where
  year : Int
  month : Nat
  day : Nat
  deriving DecidableEq, Repr

namespace Calendar

def epochDay : Int := 719468

def yearOfCycle (day : Nat) : Nat × Nat :=
  let century := min 3 (day / 36524)
  let day := day - century * 36524
  let quad := day / 1461
  let day := day - quad * 1461
  let year := min 3 (day / 365)
  (century * 100 + quad * 4 + year, day - year * 365)

def dateOfDay (day : Int) : Date :=
  let shifted := day + epochDay
  let cycle := shifted.fdiv 146097
  let (yearInCycle, dayOfYear) := yearOfCycle (shifted.fmod 146097).toNat
  let fromMarch := (5 * dayOfYear + 2) / 153
  let year := cycle * 400 + yearInCycle
  { year := if fromMarch < 10 then year else year + 1
    month := if fromMarch < 10 then fromMarch + 3 else fromMarch - 9
    day := dayOfYear - (153 * fromMarch + 2) / 5 + 1 }

/-- The first and the last second that the calendar covers. -/
def firstSecond : Int := -8334601228800

def lastSecond : Int := 8210266876799

/-- Four digits at least, and a sign outside the years 0 to 9999. -/
def yearText (year : Int) : List Char :=
  if 0 ≤ year then
    if year ≤ 9999 then Decimal.padded 4 year.toNat else '+' :: Decimal.ofNat year.toNat
  else
    '-' :: if -9999 ≤ year then Decimal.padded 4 (-year).toNat else Decimal.ofNat (-year).toNat

def dateText (d : Date) : List Char :=
  yearText d.year ++ '-' :: Decimal.padded 2 d.month ++ '-' :: Decimal.padded 2 d.day

def timeText (second : Nat) : List Char :=
  Decimal.padded 2 (second / 3600) ++ ':' :: Decimal.padded 2 (second / 60 % 60)
    ++ ':' :: Decimal.padded 2 (second % 60)

/-- As few of 0, 3, 6 and 9 decimals as tell the nanoseconds exactly. -/
def fractionText (nanos : Nat) : List Char :=
  if nanos = 0 then []
  else if nanos % 1000000 = 0 then '.' :: Decimal.padded 3 (nanos / 1000000)
  else if nanos % 1000 = 0 then '.' :: Decimal.padded 6 (nanos / 1000)
  else '.' :: Decimal.padded 9 nanos

end Calendar

namespace Instant

def inCalendar (t : Instant) : Bool :=
  Calendar.firstSecond ≤ t.seconds && t.seconds ≤ Calendar.lastSecond

def clockText (t : Instant) : List Char :=
  Calendar.dateText (Calendar.dateOfDay (t.seconds.fdiv 86400)) ++ 'T'
    :: Calendar.timeText (t.seconds.fmod 86400).toNat

/-- To the millisecond, rounded down, as `2023-11-14T22:13:20.123Z`. -/
def millisText (t : Instant) : String :=
  String.ofList (t.clockText ++ '.' :: Decimal.padded 3 (t.fraction / 1000000) ++ ['Z'])

def exactText (t : Instant) : String :=
  String.ofList (t.clockText ++ Calendar.fractionText t.fraction ++ "+00:00".toList)

end Instant

end AccessLog
