import SocksTunnel.Calendar.Date
import SocksTunnel.Clock
import SocksTunnel.Text.Digit
import SocksTunnel.Text.Quoted

/-!
Moments: a date and a time of day, to the second, and how they are read.

A date is written `2024-01-31` or `2024-W05-3`, or the same without its hyphens; the weekday may be
left out. After any one character a time follows: hours, minutes and seconds, of which the later
ones may be left out, with colons between them or without, a fraction, and the offset from
universal time. The offset does not move the moment, which is the one that a clock on the spot
shows.

A character zero ends the text wherever a time could end.
-/

namespace SocksTunnel.Calendar

open SocksTunnel.Text

/-- A moment. -/
structure Moment where
  date : Date
  hour : Nat
  minute : Nat
  second : Nat
  deriving DecidableEq, Repr

/-- Why a text is no moment. -/
inductive MomentError where
  | malformed (text : String)
  | year (n : Nat)
  | month
  | day
  | hour
  | minute
  | second
  /-- The offset, in microseconds, is a day or more. -/
  | offset (micro : Int)
  deriving DecidableEq, Repr

/-! ### Messages -/

/-- A span in its parts, as days, seconds and microseconds; parts that are zero are left out. -/
def spanParts (micro : Int) : String :=
  let seconds := Int.fmod (Int.fdiv micro Clock.perSecond) 86400
  let parts := [("days", Int.fdiv micro Clock.perDay), ("seconds", seconds),
    ("microseconds", Int.fmod micro Clock.perSecond)]
  ", ".intercalate ((parts.filter (·.2 ≠ 0)).map fun (name, n) => name ++ "=" ++ signedDecimal n)

def MomentError.message : MomentError → String
  | .malformed text => "Invalid isoformat string: " ++ quote text
  | .year n => "year " ++ decimal n ++ " is out of range"
  | .month => "month must be in 1..12"
  | .day => "day is out of range for month"
  | .hour => "hour must be in 0..23"
  | .minute => "minute must be in 0..59"
  | .second => "second must be in 0..59"
  | .offset micro =>
      "offset must be a timedelta strictly between -timedelta(hours=24) and timedelta(hours=24), "
        ++ "not datetime.timedelta(" ++ spanParts micro ++ ")."

/-! ### Dates -/

/-- How many characters belong to the date at the front of a text. Where a hyphen or a digit after
a week could start a weekday as well as a time, the length of the run of digits decides. -/
def dateLength (cs : List Char) : Nat :=
  if cs.length = 7 then 7
  else match cs.drop 4 with
    | '-' :: 'W' :: _ =>
        if cs[8]? = some '-' && !cs[10]?.any isPlainDigit then 10 else 8
    | '-' :: _ => 10
    | 'W' :: _ =>
        let digits := ((cs.drop 7).takeWhile isPlainDigit).length
        if digits < 2 then 7 + digits else if digits % 2 = 1 then 7 else 8
    | _ => 8

/-- Skip a hyphen that has to be there, if dates are written with hyphens. -/
def skipHyphen? (hyphened : Bool) (cs : List Char) : Option (List Char) :=
  if hyphened then
    match cs with
    | '-' :: rest => some rest
    | _ => none
  else some cs

/-- A weekday, which is Monday where it is missing. -/
def readWeekday? (hyphened : Bool) (cs : List Char) : Option Nat :=
  if cs.isEmpty then some 1
  else do
    let (weekday, _) ← plainDigits? 1 (← skipHyphen? hyphened cs)
    if weekday < 1 || 7 < weekday then none else some weekday

/-- A week with an optional weekday. The weeks of the year zero, which the calendar does not have,
are in no month. -/
def readWeek? (hyphened : Bool) (year : Nat) (cs : List Char) : Option Date := do
  let (week, rest) ← plainDigits? 2 cs
  let weekday ← readWeekday? hyphened rest
  if !hasWeek year week then none
  else if year = 0 then some ⟨1, 0, 0⟩
  else some (.ofWeek year week weekday)

/-- A date that is the whole text. -/
def readDate? (cs : List Char) : Option Date := do
  let (year, rest) ← plainDigits? 4 cs
  let hyphened := rest.head? = some '-'
  let rest ← skipHyphen? hyphened rest
  match rest with
  | 'W' :: rest => readWeek? hyphened year rest
  | _ => do
      let (month, rest) ← plainDigits? 2 rest
      let (day, _) ← plainDigits? 2 (← skipHyphen? hyphened rest)
      return ⟨year, month, day⟩

/-! ### Times of day -/

/-- What follows the hours, minutes and seconds of a time. -/
inductive Remainder where
  /-- Nothing, or one character that does not belong to the time. -/
  | ended (clean : Bool)
  /-- The digits of a fraction and more. -/
  | fraction (cs : List Char)

/-- Hours, minutes and seconds: as many numbers of two digits as are written, up to a count. -/
def readUnits? (separated : Bool) : Nat → List Char → Option (List Nat × Remainder)
  | 0, cs => some ([], .fraction cs)
  | left + 1, cs => do
      let (n, rest) ← plainDigits? 2 cs
      match rest with
      | [] => return ([n], .ended true)
      | [c] => if c.toNat < 128 then return ([n], .ended (c.toNat = 0)) else none
      | c :: more =>
          if c = '.' || c = ',' then return ([n], .fraction more)
          else if separated && c ≠ ':' then none
          else
            let (ns, rest) ← readUnits? separated left (if separated then more else rest)
            return (n :: ns, rest)

/-- A time of day or an offset: its numbers, its microseconds, and whether nothing is left that
does not belong to it. -/
structure Hand where
  hour : Nat
  minute : Nat
  second : Nat
  micro : Nat
  clean : Bool

/-- A fraction of a second, of which six digits count, and whether nothing is left after it. -/
def readFraction? (cs : List Char) : Option (Nat × Bool) := do
  let width := min 6 cs.length
  let (n, rest) ← plainDigits? width cs
  let clean := match rest.dropWhile isPlainDigit with
    | [] => true
    | c :: _ => c.toNat = 0
  return (n * Nat.pow 10 (6 - width), clean)

/-- A time of day without its offset, or an offset without its sign. -/
def readHand? (cs : List Char) : Option Hand := do
  let (ns, rest) ← readUnits? (cs[2]? = some ':') 3 cs
  let (micro, clean) ← match rest with
    | .ended clean => some (0, clean)
    | .fraction more => readFraction? more
  return ⟨ns.getD 0 0, ns.getD 1 0, ns.getD 2 0, micro, clean⟩

/-- Whether a character starts an offset. -/
def startsOffset (c : Char) : Bool := c = '+' || c = '-' || c = 'Z'

/-- The offset after a time, in microseconds. -/
def readOffset? (cs : List Char) : Option Int :=
  match cs with
  | 'Z' :: rest => if rest.head?.all (·.toNat = 0) then some 0 else none
  | sign :: rest => do
      let hand ← readHand? rest
      if !hand.clean then none
      let micro : Int :=
        ((hand.hour * 3600 + hand.minute * 60 + hand.second) * Clock.perSecond + hand.micro : Nat)
      return if sign = '-' then -micro else micro
  | [] => none

/-- A time of day, and its offset if it has one. -/
def readTime? (cs : List Char) : Option (Hand × Int) := do
  let hand ← readHand? (cs.takeWhile (!startsOffset ·))
  match cs.dropWhile (!startsOffset ·) with
  | [] => if hand.clean then return (hand, 0) else none
  | offset => return (hand, ← readOffset? offset)

/-! ### Moments -/

/-- A date and a time of day without regard to their bounds. -/
def readParts? (cs : List Char) : Option (Date × Hand × Int) := do
  let date ← readDate? (cs.take (dateLength cs))
  match cs.drop (dateLength cs) with
  | [] => return (date, ⟨0, 0, 0, 0, true⟩, 0)
  | _ :: time => return (date, ← readTime? time)

namespace Moment

/-- A moment, if its parts are within their bounds. -/
def make (date : Date) (hour minute second : Nat) : Except MomentError Moment :=
  if date.year < 1 ∨ 9999 < date.year then .error (.year date.year)
  else if date.month < 1 ∨ 12 < date.month then .error .month
  else if date.day < 1 ∨ daysIn date.year date.month < date.day then .error .day
  else if 23 < hour then .error .hour
  else if 59 < minute then .error .minute
  else if 59 < second then .error .second
  else .ok ⟨date, hour, minute, second⟩

/-- Read a moment. -/
def read (text : String) : Except MomentError Moment :=
  match readParts? text.toList with
  | none => .error (.malformed text)
  | some (date, hand, offset) =>
      if Clock.perDay ≤ offset.natAbs then .error (.offset offset)
      else make date hand.hour hand.minute hand.second

/-- A moment as a date and a time of day. -/
def text (m : Moment) : String :=
  zeroPadded 4 m.date.year ++ "-" ++ zeroPadded 2 m.date.month ++ "-" ++ zeroPadded 2 m.date.day
    ++ " " ++ zeroPadded 2 m.hour ++ ":" ++ zeroPadded 2 m.minute ++ ":" ++ zeroPadded 2 m.second

end Moment

end SocksTunnel.Calendar
