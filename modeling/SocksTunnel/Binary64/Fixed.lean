import SocksTunnel.Binary64.Basic
import SocksTunnel.Text.Numeral

/-!
Text with one decimal place. The exact value is rounded, and a tie goes to the even tenth.
-/

namespace SocksTunnel.Binary64

open SocksTunnel.Text

/-- A magnitude given as a quotient, in tenths. -/
def tenths (num den : Nat) : Nat := roundDiv (num * 10) den

/-- Tenths written with a point. -/
def writeTenths (n : Nat) : String := decimal (n / 10) ++ "." ++ decimal (n % 10)

/-- The text with one decimal place. The sign stays on a number that rounds to zero. -/
def oneDecimal : Binary64 → String
  | .nan => "nan"
  | .infinite negative => if negative then "-inf" else "inf"
  | .finite negative mantissa exponent =>
      let size := magnitude mantissa exponent
      let text := writeTenths (tenths size.1 size.2)
      if negative then "-" ++ text else text

end SocksTunnel.Binary64
