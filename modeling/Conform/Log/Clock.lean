import Conform.Fault

/-!
Points in time, as seconds since the beginning of 1970, and their texts in the Gregorian calendar.
-/
namespace Conform.Log

/-- A point in time: whole seconds, rounded down, and what is left in microseconds. -/
structure Instant where
  seconds : Int
  micros : Nat
  deriving DecidableEq, Repr

structure CivilDate where
  year : Int
  month : Nat
  day : Nat
  deriving DecidableEq, Repr

namespace CivilDate

/-- The date of a day counted from the first of January 1970. Years are taken to begin in March,
and four hundred of them have 146097 days. -/
def ofDay (n : Int) : CivilDate :=
  let z := n + 719468
  let era := z / 146097
  let doe := (z % 146097).toNat
  let yoe := (doe - doe / 1460 + doe / 36524 - doe / 146096) / 365
  let doy := doe - (365 * yoe + yoe / 4 - yoe / 100)
  let mp := (5 * doy + 2) / 153
  let month := if mp < 10 then mp + 3 else mp - 9
  ⟨era * 400 + yoe + (if month ≤ 2 then 1 else 0), month, doy - (153 * mp + 2) / 5 + 1⟩

end CivilDate

def padded (width n : Nat) : String :=
  let ds := Nat.toDigits 10 n
  String.ofList (List.replicate (width - ds.length) '0' ++ ds)

/-- A finite value as its whole part and the fraction of one that is left, without the sign. -/
def splitReal (d : Decimal) : Nat × Nat × Nat :=
  let (x, y) := (Binary64.ofDecimal d).getD ⟨0, 0⟩ |>.ratio
  (x / y, x % y, y)

/-- A fraction of one in units of `1 / n`, first rounded as floating-point values are. -/
def units (n x y : Nat) : Nat × Nat := ((Binary64.nearest (x * n) y).getD ⟨0, 0⟩).ratio

/-- Whether a number of seconds fits 64 bits. -/
def isClockSecond (n : Int) : Bool :=
  decide (-9223372036854775808 ≤ n) && decide (n < 9223372036854775808)

namespace Instant

/-- The point in time of a number of seconds; half a microsecond goes to the even one. -/
def ofSeconds (t : Real) : Except Fault Instant :=
  match t with
  | .nan => .error (.badValue "Invalid value NaN (not a number)")
  | .infinite _ => .error .timeRange
  | .finite d =>
    let (whole, x, y) := splitReal d
    let (u, v) := units 1000000 x y
    let micros := Binary64.divHalfEven u v
    let (seconds, micros) : Int × Nat :=
      if micros = 0 then (if d.negative then -whole else whole, 0)
      else if d.negative then (-whole - 1, 1000000 - micros)
      else if 1000000 ≤ micros then (whole + 1, micros - 1000000)
      else (whole, micros)
    if isClockSecond seconds then .ok ⟨seconds, micros⟩ else .error .timeRange

end Instant

def dayOf (seconds : Int) : CivilDate := .ofDay (seconds / 86400)

/-- The time of day with colons between its parts. -/
def timeText (seconds : Int) : String :=
  let s := (seconds % 86400).toNat
  padded 2 (s / 3600) ++ ":" ++ padded 2 (s / 60 % 60) ++ ":" ++ padded 2 (s % 60)

def monthDayText (d : CivilDate) : String := padded 2 d.month ++ "-" ++ padded 2 d.day

/-- Whether a year fits the 32 bits in which years are counted from 1900 on. -/
def isCountedYear (year : Int) : Bool :=
  decide (-2147483648 ≤ year - 1900) && decide (year - 1900 < 2147483648)

/-- The universal time with milliseconds, the rest of the microseconds being left out. -/
def stamp (t : Real) : Except Fault String := do
  let i ← Instant.ofSeconds t
  let d := dayOf i.seconds
  if !isCountedYear d.year then throw .yearRange
  else if d.year < 1 || 9999 < d.year then
    throw (.badValue ("year " ++ toString d.year ++ " is out of range"))
  else
    return padded 4 d.year.toNat ++ "-" ++ monthDayText d ++ "T" ++ timeText i.seconds ++ "." ++
      padded 3 (i.micros / 1000) ++ "Z"

/-- The milliseconds of a number of seconds, with its sign and at least three characters. -/
def milliseconds (negative : Bool) (x y : Nat) : String :=
  let (u, v) := units 1000 x y
  let ms := u / v
  if negative && ms != 0 then "-" ++ padded 2 ms else padded 3 ms

/-- The universal time as plain log lines begin with it. -/
def plainStamp (t : Real) : Except Fault String :=
  match t with
  | .nan => .error (.badValue "Invalid value NaN (not a number)")
  | .infinite _ => .error .timeRange
  | .finite d =>
    let (whole, x, y) := splitReal d
    let seconds : Int :=
      if d.negative then (if x = 0 then -(whole : Int) else -whole - 1) else whole
    let day := dayOf seconds
    if !isClockSecond seconds then .error .timeRange
    else if !isCountedYear day.year then .error .yearRange
    else
      .ok (toString day.year ++ "-" ++ monthDayText day ++ " " ++ timeText seconds ++ "," ++
        milliseconds d.negative x y)

end Conform.Log
