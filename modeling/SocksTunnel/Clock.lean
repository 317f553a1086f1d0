import SocksTunnel.Binary64.Basic
import SocksTunnel.Text.Numeral

/-!
Readings of a clock and spans between them.

A reading is a number of seconds since the start of 1970. Statistics use whole seconds, cut toward
zero; spans are measured in microseconds between instants. An instant is a reading that is rounded
to the nearest microsecond and lies in the calendar of the years 1 to 9999.
-/

namespace SocksTunnel

open SocksTunnel.Text

/-- A reading of a clock, in seconds. -/
abbrev Reading := Binary64

/-- Why a reading has no whole second or is no instant. -/
inductive ClockError where
  | notNumber
  | infinite
  /-- There are more days than fit a machine word. -/
  | uncountedDays
  /-- There are more days than a span may have. -/
  | tooManyDays (days : Int)
  /-- It is outside of the calendar. -/
  | outsideCalendar
  deriving DecidableEq, Repr

namespace ClockError

/-- The most days that a span may have in either direction. -/
def mostDays : Nat := 999999999

def message : ClockError → String
  | .notNumber => "cannot convert float NaN to integer"
  | .infinite => "cannot convert float infinity to integer"
  | .uncountedDays => "Python int too large to convert to C int"
  | .tooManyDays days =>
      "days=" ++ signedDecimal days ++ "; must have magnitude <= " ++ decimal mostDays
  | .outsideCalendar => "date value out of range"

/-- Why a number that is not finite has no whole part. -/
def ofNumber : Binary64 → ClockError
  | .infinite _ => .infinite
  | _ => .notNumber

end ClockError

namespace Clock

/-- Microseconds in a second. -/
def perSecond : Nat := 1000000

/-- Microseconds in a day. -/
def perDay : Nat := 86400000000

/-- The second of a reading. -/
def second (now : Reading) : Except ClockError Int :=
  match now.truncate? with
  | some s => .ok s
  | none => .error (.ofNumber now)

/-- A reading in microseconds: its whole seconds, and a million times the rest. The product is
rounded to the format, and then to a whole number, a tie going to the even one. -/
def microseconds (now : Reading) : Except ClockError Int :=
  match now with
  | .finite negative mantissa exponent =>
      let size := Binary64.magnitude mantissa exponent
      let rest := Binary64.nearest false (size.1 % size.2 * perSecond) size.2
      let micro : Int := ((size.1 / size.2 * perSecond + rest.nearestNat : Nat) : Int)
      .ok (if negative then -micro else micro)
  | other => .error (.ofNumber other)

/-- The first instant of the year 1. -/
def firstInstant : Int := -62135596800000000

/-- The instant after the year 9999. -/
def endOfCalendar : Int := 253402300800000000

/-- The bound of a signed machine word of 32 bits. -/
def wordLimit : Int := 2147483648

/-- A reading as an instant, in microseconds. -/
def instant (now : Reading) : Except ClockError Int := do
  let micro ← microseconds now
  let days := Int.fdiv micro perDay
  if days < -wordLimit ∨ wordLimit ≤ days then throw .uncountedDays
  else if ClockError.mostDays < days.natAbs then throw (.tooManyDays days)
  else if micro < firstInstant ∨ endOfCalendar ≤ micro then throw .outsideCalendar
  else return micro

/-- A span as whole days and the time of day that is left, without the fraction of a second. A
negative span has negative days and a time of day that counts forward. -/
def spanText (micro : Int) : String :=
  let seconds := Int.fdiv micro perSecond
  let days := Int.fdiv seconds 86400
  let rest := (Int.fmod seconds 86400).toNat
  let day := if days = 0 then "" else
    signedDecimal days ++ (if days.natAbs = 1 then " day, " else " days, ")
  day ++ decimal (rest / 3600) ++ ":" ++ zeroPadded 2 (rest / 60 % 60) ++ ":"
    ++ zeroPadded 2 (rest % 60)

/-- The fraction of a second of a span, in six digits after a point; nothing if it is zero. -/
def fractionText (micro : Int) : String :=
  let fraction := (Int.fmod micro perSecond).toNat
  if fraction = 0 then "" else "." ++ zeroPadded 6 fraction

end Clock

end SocksTunnel
