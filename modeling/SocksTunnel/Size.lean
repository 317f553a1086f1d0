import SocksTunnel.Binary64.Fixed
import SocksTunnel.Traffic.Stats

/-!
Sizes for the eye: a number with one decimal place and a unit. A size of at least 1024 of a unit
is shown in the next one, up to the largest.
-/

namespace SocksTunnel.Size

open SocksTunnel.Traffic (MagnitudeError quotient)

/-- The units, each 1024 times the one before. -/
def units : List String := ["B", "KB", "MB", "GB", "TB"]

def step : Nat := 1024

/-- A number with a unit. -/
def labelled (x : Binary64) (unit : String) : String := x.oneDecimal ++ " " ++ unit

/-- A number in the first of the units in which it is below the step, or in the last one. -/
def inUnits (x : Binary64) : List String → String
  | [] => x.oneDecimal
  | [unit] => labelled x unit
  | unit :: larger =>
      if Binary64.lt x (.ofInt step) then labelled x unit
      else inUnits (x.div (.ofInt step)) larger

/-- The text of a size. -/
def text (x : Binary64) : String := inUnits x units

/-- The text of a whole number of bytes. The first comparison and the first division are exact. -/
def ofInt (n : Int) : Except MagnitudeError String :=
  if n < step then
    match Binary64.ofInt n with
    | .infinite _ => .error .integer
    | x => .ok (inUnits x units)
  else (quotient n step).map fun x => inUnits x units.tail

end SocksTunnel.Size
