import SocksTunnel.Text.Digit
import SocksTunnel.Text.Quoted

/-!
Runs of digits as numbers. The digits may be of any script, and there is a limit on their number.
-/

namespace SocksTunnel.Text

/-- Why a run of digits is not a number. -/
inductive NumeralError where
  /-- Some digit has no place value. -/
  | notDecimal (digits : List Char)
  /-- There are more digits than the limit allows. -/
  | tooLong (count : Nat)
  deriving DecidableEq, Repr

/-- Numbers with more digits than this are not read. -/
def digitLimit : Nat := 4300

/-- The number that decimal digits write. -/
def decimalValue (cs : List Char) : Nat :=
  cs.foldl (fun n c => 10 * n + (decimalDigit? c).getD 0) 0

/-- Read a run of digits. The limit is on the decimal digits at its front. -/
def readDigitRun (cs : List Char) : Except NumeralError Nat :=
  let front := cs.takeWhile fun c => (decimalDigit? c).isSome
  if digitLimit < front.length then .error (.tooLong front.length)
  else if front.length < cs.length then .error (.notDecimal cs)
  else .ok (decimalValue cs)

/-- The message for a numeral; the digits are shown up to two hundred characters. -/
def NumeralError.message : NumeralError → String
  | .notDecimal digits =>
      "invalid literal for int() with base 10: " ++ String.ofList ((quoted digits).take 200)
  | .tooLong count =>
      "Exceeds the limit (" ++ decimal digitLimit ++ " digits) for integer string conversion: "
        ++ "value has " ++ decimal count
        ++ " digits; use sys.set_int_max_str_digits() to increase the limit"

end SocksTunnel.Text
