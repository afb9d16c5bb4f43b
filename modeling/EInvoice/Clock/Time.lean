/-!
# Instants and their wall clocks

A `Time` is an instant together with the offset from UTC of the wall clock it is shown in.
The instant is counted in seconds (and nanoseconds) from `0001-01-01T00:00:00Z`, the *zero
time*, which stands for "no time given". Two times are the same instant when their
`seconds` and `nanos` agree, whatever their offsets; the wall clock (year, month, day,
hour, minute, second) is the instant moved by the offset and read in the proleptic
Gregorian calendar.
-/

namespace EInvoice.Clock

/-- Days from `1970-01-01` to the civil date `y-m-d` (proleptic Gregorian calendar). -/
def daysFromCivil (y m d : Int) : Int :=
  let y := if m ≤ 2 then y - 1 else y
  let era := y / 400
  let yoe := y - era * 400
  let doy := (153 * (if m > 2 then m - 3 else m + 9) + 2) / 5 + d - 1
  let doe := yoe * 365 + yoe / 4 - yoe / 100 + doy
  era * 146097 + doe - 719468

/-- The civil date `(year, month, day)` of a day counted from `1970-01-01`. -/
def civilFromDays (z : Int) : Int × Int × Int :=
  let z := z + 719468
  let era := z / 146097
  let doe := z - era * 146097
  let yoe := (doe - doe / 1460 + doe / 36524 - doe / 146096) / 365
  let y := yoe + era * 400
  let doy := doe - (365 * yoe + yoe / 4 - yoe / 100)
  let mp := (5 * doy + 2) / 153
  let d := doy - (153 * mp + 2) / 5 + 1
  let m := if mp < 10 then mp + 3 else mp - 9
  (if m ≤ 2 then y + 1 else y, m, d)

/-- Days from `0001-01-01` to `1970-01-01`. -/
def unixEpochDays : Int := 719162

/-- Whether `y` is a leap year of the Gregorian calendar. -/
def isLeap (y : Int) : Bool :=
  y % 4 = 0 ∧ (y % 100 ≠ 0 ∨ y % 400 = 0)

/-- The number of days of month `m` (1 to 12) in year `y`. -/
def daysIn (y m : Int) : Int :=
  if m = 2 then (if isLeap y then 29 else 28)
  else if m = 4 ∨ m = 6 ∨ m = 9 ∨ m = 11 then 30
  else 31

/-- An instant, and the offset (in seconds east of UTC) of the clock it is shown in. -/
structure Time where
  /-- Whole seconds since `0001-01-01T00:00:00Z`. -/
  seconds : Int
  /-- Nanoseconds within the second. -/
  nanos : Nat := 0
  /-- Offset of the wall clock from UTC, in seconds. -/
  offset : Int := 0
  deriving Repr, DecidableEq, Inhabited

namespace Time

/-- The zero time: `0001-01-01T00:00:00Z`. -/
def zero : Time := ⟨0, 0, 0⟩

/-- Whether a time is the zero instant (its offset does not matter). -/
def isZero (t : Time) : Bool := t.seconds = 0 ∧ t.nanos = 0

/-- The time whose wall clock, at offset `offset`, reads the given civil date and time. -/
def ofCivil (year month day hour minute second : Int) (nanos : Nat) (offset : Int) : Time :=
  let days := daysFromCivil year month day + unixEpochDays
  ⟨days * 86400 + hour * 3600 + minute * 60 + second - offset, nanos, offset⟩

/-- Seconds of the wall clock since `0001-01-01T00:00:00` (the instant moved by the offset). -/
def wallSeconds (t : Time) : Int := t.seconds + t.offset

/-- The civil date `(year, month, day)` of the wall clock. -/
def date (t : Time) : Int × Int × Int :=
  civilFromDays (t.wallSeconds / 86400 - unixEpochDays)

def year (t : Time) : Int := t.date.1
def month (t : Time) : Int := t.date.2.1
def day (t : Time) : Int := t.date.2.2

/-- Seconds since midnight on the wall clock. -/
def secondOfDay (t : Time) : Int := t.wallSeconds % 86400

def hour (t : Time) : Int := t.secondOfDay / 3600
def minute (t : Time) : Int := t.secondOfDay % 3600 / 60
def second (t : Time) : Int := t.secondOfDay % 60

/-- Whether `a` is strictly earlier than `b`. -/
def before (a b : Time) : Bool :=
  a.seconds < b.seconds ∨ (a.seconds = b.seconds ∧ a.nanos < b.nanos)

/-- The same instant shown on a clock at another offset. -/
def withOffset (t : Time) (offset : Int) : Time := { t with offset := offset }

/-- The instant `ms` milliseconds later. -/
def addMillis (t : Time) (ms : Int) : Time :=
  let total := (t.nanos : Int) + (ms % 1000) * 1000000
  ⟨t.seconds + ms / 1000 + total / 1000000000, (total % 1000000000).toNat, t.offset⟩

/-- Nanoseconds from `a` to `b` (negative when `b` is earlier). -/
def diffNanos (b a : Time) : Int :=
  (b.seconds - a.seconds) * 1000000000 + (b.nanos : Int) - (a.nanos : Int)

end Time

example : (Time.ofCivil 1 1 1 0 0 0 0 0).isZero = true := by decide

example : civilFromDays (daysFromCivil 2024 2 29) = (2024, 2, 29) := by decide

end EInvoice.Clock
