import SocksTunnel.Binary64.Basic
import SocksTunnel.Text.Numeral

/-!
The shortest decimal text that reads back as the same number.

The reals that round to a number form an interval around it. For one, two and up to seventeen
digits the two neighbours of the number on that decimal grid are tried; the first grid with a
neighbour inside the interval wins, and of two hits the nearer one, a tie going to the even one.
-/

namespace SocksTunnel.Binary64

open SocksTunnel.Text

/-- A decimal number `digits · 10 ^ exponent`. -/
structure Decimal where
  digits : Nat
  exponent : Int
  deriving DecidableEq, Repr

/-- A quotient divided by a power of ten, as a quotient. -/
def tenthed (num den : Nat) (power : Int) : Nat × Nat :=
  if 0 ≤ power then (num, den * Nat.pow 10 power.toNat) else (num * Nat.pow 10 (-power).toNat, den)

/-- The `k` with `10 ^ k ≤ num / den < 10 ^ (k + 1)`. -/
def decimalOrder (num den : Nat) : Int :=
  let k : Int := ((decimalDigits num).length : Int) - ((decimalDigits den).length : Int)
  let t := tenthed num den k
  if t.2 ≤ t.1 then k else k - 1

/-- The reals that round to `mantissa · 2 ^ exponent`, in quarters of the last place: the lower
and the upper end. Below a power of two the numbers stand closer. -/
def quarters (mantissa : Nat) (exponent : Int) : Nat × Nat :=
  let lower := if mantissa = leastNormal ∧ leastExponent < exponent then 4 * mantissa - 1
    else 4 * mantissa - 2
  (lower, 4 * mantissa + 2)

/-- Whether `candidate · 10 ^ grid` rounds to the number; the ends belong to an even mantissa. -/
def roundsTo (mantissa : Nat) (exponent : Int) (candidate : Nat) (grid : Int) : Bool :=
  let ends := quarters mantissa exponent
  let c := if 0 ≤ grid then (candidate * Nat.pow 10 grid.toNat, 1)
    else (candidate, Nat.pow 10 (-grid).toNat)
  let s := scaled c.1 c.2 (2 - exponent)
  if mantissa % 2 = 0 then ends.1 * s.2 ≤ s.1 && s.1 ≤ ends.2 * s.2
  else ends.1 * s.2 < s.1 && s.1 < ends.2 * s.2

/-- The better of the two neighbours on the grid of a digit count, if one rounds to the number. -/
def onGrid? (mantissa : Nat) (exponent : Int) (order : Int) (count : Nat) : Option Decimal :=
  let grid := order - (count : Int) + 1
  let size := magnitude mantissa exponent
  let t := tenthed size.1 size.2 grid
  let down := t.1 / t.2
  let downFits := roundsTo mantissa exponent down grid
  let upFits := roundsTo mantissa exponent (down + 1) grid
  if downFits && upFits then
    some ⟨roundDiv t.1 t.2, grid⟩
  else if downFits then some ⟨down, grid⟩
  else if upFits then some ⟨down + 1, grid⟩
  else none

/-- The shortest decimal that rounds to a number other than zero. Seventeen digits suffice. -/
def shortestDecimal (mantissa : Nat) (exponent : Int) : Decimal :=
  let size := magnitude mantissa exponent
  let order := decimalOrder size.1 size.2
  ((List.range 17).findSome? fun k => onGrid? mantissa exponent order (k + 1)).getD ⟨0, 0⟩

/-! ### Layout -/

/-- How a decimal is laid out: positional for the exponents of the first digit from `least` up
to but not including `limit`, otherwise with one digit before the point and an exponent of at
least `exponentWidth` digits. -/
structure Layout where
  least : Int
  limit : Int
  exponentWidth : Nat

/-- Numbers are positional from `0.0001` up to below `10 ^ 16`. -/
def layout : Layout := ⟨-4, 16, 2⟩

/-- Digits without the zeros at their end, and how many were dropped. -/
def dropZeros (ds : List Char) : List Char :=
  (ds.reverse.dropWhile (· = '0')).reverse

/-- Digits with a point after the first `before` of them; at least one digit on each side. -/
def pointed (before : Nat) (ds : List Char) : List Char :=
  let whole := ds.take before ++ List.replicate (before - ds.length) '0'
  let part := ds.drop before
  whole ++ '.' :: (if part.isEmpty then ['0'] else part)

/-- The text of a decimal other than zero. -/
def Layout.write (form : Layout) (d : Decimal) : String :=
  let all := decimalDigits d.digits
  let order : Int := d.exponent + (all.length : Int) - 1
  let ds := dropZeros all
  String.ofList <|
    if form.least ≤ order ∧ order < form.limit then
      if 0 ≤ order then pointed (order.toNat + 1) ds
      else '0' :: '.' :: (List.replicate ((-order).toNat - 1) '0' ++ ds)
    else
      let head := match ds with
        | [] => ['0']
        | [c] => [c]
        | c :: rest => c :: '.' :: rest
      let sign := if order < 0 then '-' else '+'
      head ++ 'e' :: sign :: (zeroPadded form.exponentWidth order.natAbs).toList

/-- The shortest text of a number. -/
def shortest : Binary64 → String
  | .nan => "nan"
  | .infinite negative => if negative then "-inf" else "inf"
  | .finite negative mantissa exponent =>
      let text := if mantissa = 0 then "0.0"
        else layout.write (shortestDecimal mantissa exponent)
      if negative then "-" ++ text else text

end SocksTunnel.Binary64
