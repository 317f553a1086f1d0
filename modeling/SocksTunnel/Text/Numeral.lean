/-!
Written numbers: decimal text of natural numbers and integers, and hexadecimal text of a given
width.
-/

namespace SocksTunnel.Text

/-- The character of a digit below sixteen. -/
def digitChar (d : Nat) : Char :=
  if d < 10 then Char.ofNat (48 + d) else Char.ofNat (87 + d)

/-- Decimal digits of a number: the last digit comes off the end. -/
def decimalDigits (n : Nat) : List Char :=
  if n < 10 then [digitChar n] else decimalDigits (n / 10) ++ [digitChar (n % 10)]

/-- The decimal text of a natural number, without leading zeros. -/
def decimal (n : Nat) : String := String.ofList (decimalDigits n)

/-- The decimal text of an integer: a hyphen before the digits of a negative number. -/
def signedDecimal (i : Int) : String :=
  if i < 0 then "-" ++ decimal i.natAbs else decimal i.natAbs

/-- The last `width` hexadecimal digits of a number, with leading zeros. -/
def hexDigits : Nat → Nat → List Char
  | 0, _ => []
  | width + 1, n => hexDigits width (n / 16) ++ [digitChar (n % 16)]

/-- A byte as two hexadecimal digits. -/
def hexByte (b : UInt8) : String := String.ofList (hexDigits 2 b.toNat)

/-- A text filled up with blanks on the right to a width. -/
def padRight (width : Nat) (s : String) : String :=
  s ++ String.ofList (List.replicate (width - s.length) ' ')

/-- A number with at least `width` digits, filled up with zeros on the left. -/
def zeroPadded (width n : Nat) : String :=
  String.ofList (List.replicate (width - (decimalDigits n).length) '0' ++ decimalDigits n)

end SocksTunnel.Text
