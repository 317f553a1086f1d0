/-!
Binary floating point numbers of 64 bits, in exact integer arithmetic.

A finite number is a sign, a mantissa and an exponent and denotes `± mantissa · 2 ^ exponent`.
`Binary64.nearest` takes a quotient of natural numbers to the nearest number of the format, a tie
to the one with the even mantissa. Every operation is the exact operation on values followed by
`nearest`.
-/

namespace SocksTunnel

/-- A number of the format. A finite number made by this library has a mantissa below `2 ^ 53`
and the least exponent, not below `-1074`, for which that holds. -/
inductive Binary64 where
  | finite (negative : Bool) (mantissa : Nat) (exponent : Int)
  | infinite (negative : Bool)
  | nan
  deriving DecidableEq, Repr

namespace Binary64

/-! ### Rounding -/

/-- The natural number nearest to a quotient; a tie goes to the even neighbour. -/
def roundDiv (num den : Nat) : Nat :=
  let q := num / den
  let r := num % den
  if 2 * r < den then q
  else if den < 2 * r then q + 1
  else q + q % 2

/-- A quotient times a power of two, as a quotient. -/
def scaled (num den : Nat) (power : Int) : Nat × Nat :=
  if 0 ≤ power then (num * Nat.pow 2 power.toNat, den) else (num, den * Nat.pow 2 (-power).toNat)

/-- A number `k` with `2 ^ k ≤ num / den < 2 ^ (k + 1)`. -/
def binaryOrder (num den : Nat) : Int :=
  let k : Int := (num.log2 : Int) - (den.log2 : Int)
  let s := scaled num den (-k)
  if s.2 ≤ s.1 then k else k - 1

def leastExponent : Int := -1074

def greatestExponent : Int := 971

/-- Mantissas are below `2 ^ 53`. -/
def mantissaLimit : Nat := 9007199254740992

/-- Half of the limit, `2 ^ 52`: the least mantissa at an exponent above the least one. -/
def leastNormal : Nat := 4503599627370496

/-- The zero of a sign. -/
def zero (negative : Bool) : Binary64 := .finite negative 0 leastExponent

/-- The number nearest to `± num / den`. Beyond the greatest finite number it is infinite. -/
def nearest (negative : Bool) (num den : Nat) : Binary64 :=
  if num = 0 then zero negative
  else
    let exponent := max (binaryOrder num den - 52) leastExponent
    let s := scaled num den (-exponent)
    let mantissa := roundDiv s.1 s.2
    let carried := mantissa = mantissaLimit
    let exponent := if carried then exponent + 1 else exponent
    if greatestExponent < exponent then .infinite negative
    else .finite negative (if carried then leastNormal else mantissa) exponent

/-- The number nearest to a rational. -/
def ofRat (q : Rat) : Binary64 := nearest (q.num < 0) q.num.natAbs q.den

/-- The number nearest to an integer. -/
def ofInt (i : Int) : Binary64 := nearest (i < 0) i.natAbs 1

/-! ### Values -/

/-- The power of two as a rational. -/
def powerOfTwo (e : Int) : Rat :=
  if 0 ≤ e then (Nat.pow 2 e.toNat : Rat) else 1 / (Nat.pow 2 (-e).toNat : Rat)

/-- What a finite number denotes. -/
def value? : Binary64 → Option Rat
  | .finite negative mantissa exponent =>
      let magnitude := (mantissa : Rat) * powerOfTwo exponent
      some (if negative then -magnitude else magnitude)
  | _ => none

/-- The exact magnitude of a finite number as a quotient. -/
def magnitude (mantissa : Nat) (exponent : Int) : Nat × Nat := scaled mantissa 1 exponent

def isNegative : Binary64 → Bool
  | .finite negative _ _ => negative
  | .infinite negative => negative
  | .nan => false

def neg : Binary64 → Binary64
  | .finite negative mantissa exponent => .finite (!negative) mantissa exponent
  | .infinite negative => .infinite (!negative)
  | .nan => .nan

/-- The number without its sign. -/
def abs : Binary64 → Binary64
  | .finite _ mantissa exponent => .finite false mantissa exponent
  | .infinite _ => .infinite false
  | .nan => .nan

/-! ### Order -/

/-- Whether one number is below another; the two zeros are equal, and nothing is below or above
what is not a number. -/
def lt : Binary64 → Binary64 → Bool
  | .nan, _ => false
  | _, .nan => false
  | .infinite a, .infinite b => a && !b
  | .infinite a, .finite .. => a
  | .finite .., .infinite b => !b
  | x@(.finite ..), y@(.finite ..) =>
      match x.value?, y.value? with
      | some p, some q => p < q
      | _, _ => false

/-! ### Arithmetic -/

/-- The sum. Where finite numbers cancel the sum is the positive zero, unless both are the
negative zero. -/
def add : Binary64 → Binary64 → Binary64
  | .nan, _ => .nan
  | _, .nan => .nan
  | .infinite a, .infinite b => if a = b then .infinite a else .nan
  | .infinite a, .finite .. => .infinite a
  | .finite .., .infinite b => .infinite b
  | x@(.finite ..), y@(.finite ..) =>
      match x.value?, y.value? with
      | some p, some q =>
          if p + q = 0 then zero (x.isNegative && y.isNegative) else ofRat (p + q)
      | _, _ => .nan

def sub (x y : Binary64) : Binary64 := add x y.neg

/-- The quotient. The sign is negative if the signs differ. -/
def div : Binary64 → Binary64 → Binary64
  | .nan, _ => .nan
  | _, .nan => .nan
  | .infinite _, .infinite _ => .nan
  | .infinite a, .finite b _ _ => .infinite (a != b)
  | .finite a _ _, .infinite b => zero (a != b)
  | .finite a m e, .finite b n f =>
      if n = 0 then if m = 0 then .nan else .infinite (a != b)
      else
        let s := scaled m n (e - f)
        nearest (a != b) s.1 s.2

/-- The integer part of a finite number, toward zero. -/
def truncate? : Binary64 → Option Int
  | .finite negative mantissa exponent =>
      let size := magnitude mantissa exponent
      let whole : Int := ((size.1 / size.2 : Nat) : Int)
      some (if negative then -whole else whole)
  | _ => none

/-- The natural number nearest to the size of a finite number, a tie going to the even one. -/
def nearestNat : Binary64 → Nat
  | .finite _ mantissa exponent =>
      let size := magnitude mantissa exponent
      roundDiv size.1 size.2
  | _ => 0

end Binary64

end SocksTunnel
