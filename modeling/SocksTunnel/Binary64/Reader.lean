import SocksTunnel.Binary64.Basic
import SocksTunnel.Text.Blank
import SocksTunnel.Text.Digit

/-!
Reading numbers from decimal text.

A numeral is an optional sign, digits with an optional point, and an optional exponent; single
underscores may stand between digits, and digits of every script count. The words `inf`,
`infinity` and `nan` are read in any case. Blanks around the text do not matter, but the separator
control characters are none of them.
-/

namespace SocksTunnel.Binary64

open SocksTunnel.Text

/-- The number nearest to `± digits · 10 ^ exponent`. An exponent far outside the range of the
format decides the result on its own. -/
def ofDecimal (negative : Bool) (digits : Nat) (exponent : Int) : Binary64 :=
  let order : Int := (digits.log2 : Int) / 4 + exponent
  if digits = 0 then zero negative
  else if 400 < order then .infinite negative
  else if (digits.log2 : Int) + exponent < -400 then zero negative
  else if 0 ≤ exponent then nearest negative (digits * Nat.pow 10 exponent.toNat) 1
  else nearest negative digits (Nat.pow 10 (-exponent).toNat)

/-- A run of digits with single underscores between them: the number, how many digits, and the
rest of the text. `none` if an underscore does not stand between two digits. -/
def digitRun (n count : Nat) : List Char → Option (Nat × Nat × List Char)
  | [] => some (n, count, [])
  | c :: rest =>
      match decimalDigit? c with
      | some d => digitRun (10 * n + d) (count + 1) rest
      | none =>
          if c = '_' then
            match rest with
            | next :: _ =>
                if count = 0 ∨ (decimalDigit? next).isNone then none else digitRun n count rest
            | [] => none
          else some (n, count, c :: rest)

/-- A sign at the front of a text. -/
def takeSign : List Char → Bool × List Char
  | '-' :: rest => (true, rest)
  | '+' :: rest => (false, rest)
  | rest => (false, rest)

/-- The exponent part, which ends the text. -/
def exponentPart? : List Char → Option Int
  | [] => some 0
  | c :: rest =>
      if c = 'e' ∨ c = 'E' then
        let (negative, rest) := takeSign rest
        match digitRun 0 0 rest with
        | some (n, count, []) =>
            if count = 0 then none else some (if negative then -(n : Int) else n)
        | _ => none
      else none

/-- A numeral without its sign. -/
def unsigned? (negative : Bool) (cs : List Char) : Option Binary64 :=
  match digitRun 0 0 cs with
  | none => none
  | some (whole, wholeCount, rest) =>
      let split := match rest with
        | '.' :: more => digitRun whole 0 more
        | _ => some (whole, 0, rest)
      match split with
      | none => none
      | some (digits, partCount, rest) =>
          if wholeCount + partCount = 0 then none
          else (exponentPart? rest).map fun e => ofDecimal negative digits (e - (partCount : Int))

/-- Lower case of the letters of the ASCII alphabet. -/
def lowerLetters (cs : List Char) : List Char := cs.map Char.toLower

/-- Read a number that has no blanks around it. -/
def number? (cs : List Char) : Option Binary64 :=
  let (negative, cs) := takeSign cs
  let word := lowerLetters cs
  if word = "inf".toList ∨ word = "infinity".toList then some (.infinite negative)
  else if word = "nan".toList then some .nan
  else unsigned? negative cs

/-- Read a number. -/
def read? (s : String) : Option Binary64 := number? (trimNumber s.toList)

end SocksTunnel.Binary64
