import Scratchpad.Decimal.FloatText
import Scratchpad.Text.Width

/-!
# Moments

Seconds since the start of 1970 as a date and a time of day in universal time, with
the days counted in the Gregorian calendar.
-/

namespace Scratchpad.Log

/-- A date and a time of day. -/
structure Moment where
  year : Int
  month : Nat
  day : Nat
  hour : Nat
  minute : Nat
  second : Nat
deriving DecidableEq, Repr

/-- Days from the first of March of the year zero to the start of 1970. -/
def epochDays : Int := 719468

/-- Days in four hundred years. -/
def eraDays : Nat := 146097

/-- Year, month and day of a day counted from the start of 1970. Years are counted
from March, so that the leap day ends one. -/
def civilDate (days : Int) : Int × Nat × Nat :=
  let z := days + epochDays
  let era := z / (eraDays : Int)
  let doe := (z % (eraDays : Int)).toNat
  let yoe := (doe - doe / 1460 + doe / 36524 - doe / 146096) / 365
  let doy := doe - (365 * yoe + yoe / 4 - yoe / 100)
  let mp := (5 * doy + 2) / 153
  let day := doy - (153 * mp + 2) / 5 + 1
  let month := if mp < 10 then mp + 3 else mp - 9
  let year : Int := (yoe : Int) + era * 400
  (if month ≤ 2 then year + 1 else year, month, day)

/-- The moment of a second. -/
def Moment.ofSeconds (seconds : Int) : Moment :=
  let (year, month, day) := civilDate (seconds / 86400)
  let rest := (seconds % 86400).toNat
  { year, month, day, hour := rest / 3600, minute := rest / 60 % 60, second := rest % 60 }

/-- A number of at least so many digits. -/
def padded (width : Nat) (n : Int) : Text := fillZeros width (integerText n)

namespace Moment

/-- The date, with the year as it is. -/
def dateText (m : Moment) (yearWidth : Nat) : Text :=
  padded yearWidth m.year ++ ['-'] ++ padded 2 m.month ++ ['-'] ++ padded 2 m.day

/-- The time of day. -/
def timeText (m : Moment) : Text :=
  padded 2 m.hour ++ [':'] ++ padded 2 m.minute ++ [':'] ++ padded 2 m.second

end Moment

/-! ## Time stamps -/

/-- The fraction of a second, with the sign of the whole. -/
def fractionOf (created : Float) : Float := created - floatOfInt (truncateFloat created)

/-- Milliseconds, cut towards zero. -/
def milliseconds (created : Float) : Int := truncateFloat (fractionOf created * 1000)

/-- Whole seconds and microseconds, to the nearest with halves to even. -/
def microseconds (created : Float) : Int × Int :=
  let whole := truncateFloat created
  let micro := roundFloat (fractionOf created * 1000000)
  if micro ≥ 1000000 then (whole + 1, micro - 1000000)
  else if micro < 0 then (whole - 1, micro + 1000000)
  else (whole, micro)

/-- The second that a time lies in. -/
def floorSeconds (created : Float) : Int := truncateFloat created.floor

/-- The stamp of a text line, to the millisecond. -/
def textStamp (created : Float) : Text :=
  let m := Moment.ofSeconds (floorSeconds created)
  m.dateText 0 ++ [' '] ++ m.timeText ++ ['.'] ++ padded 3 (milliseconds created)

/-- The stamp of a JSON line, to the microsecond if there are any. -/
def jsonStamp (created : Float) : Text :=
  let (seconds, micro) := microseconds created
  let m := Moment.ofSeconds seconds
  m.dateText 4 ++ ['T'] ++ m.timeText ++
    if micro = 0 then [] else '.' :: padded 6 micro

end Scratchpad.Log
