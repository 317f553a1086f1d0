import SocksTunnel.Text.CodeRanges

/-!
Digits: the plain ones of ASCII, and those of all scripts.

A decimal digit stands in a row of ten consecutive code points, zero first, so the list of zeros
says which characters are decimal digits and what they are worth. Superscripts, circled digits
and their like are digits as well, but they have no place value and no number is written with
them.
-/

namespace SocksTunnel.Text

/-! ### Plain digits -/

/-- Whether a character is a decimal digit of ASCII. -/
def isPlainDigit (c : Char) : Bool := '0' ≤ c && c ≤ '9'

/-- The number that a run of plain digits writes. -/
def plainNumber (cs : List Char) : Nat := cs.foldl (fun n c => 10 * n + (c.toNat - 48)) 0

/-- The number that exactly `count` plain digits write at the front of a text, and the rest. -/
def plainDigits? (count : Nat) (cs : List Char) : Option (Nat × List Char) :=
  let front := cs.take count
  if front.length = count && front.all isPlainDigit then some (plainNumber front, cs.drop count)
  else none

/-! ### Digits of all scripts -/

/-- The zeros of all scripts, as code points. -/
def zeroCodes : List Nat :=
  (words "
  30 660 6f0 7c0 966 9e6 a66 ae6 b66 be6 c66 ce6 d66 de6 e50 ed0 f20 1040 1090 17e0 1810 1946
  19d0 1a80 1a90 1b50 1bb0 1c40 1c50 a620 a8d0 a900 a9d0 a9f0 aa50 abf0 ff10 104a0 10d30 11066
  110f0 11136 111d0 112f0 11450 114d0 11650 116c0 11730 118e0 11950 11c50 11d50 11da0 16a60
  16ac0 16b50 1d7ce 1d7d8 1d7e2 1d7ec 1d7f6 1e140 1e2f0 1e950 1fbf0").map hexNumber

/-- Digits that are not decimal digits. -/
def ornamentalDigits : CodeRanges :=
  .read "b2-b3 b9 1369-1371 19da 2070 2074-2079 2080-2089 2460-2468 2474-247c 2488-2490 24ea
  24f5-24fd 24ff 2776-277e 2780-2788 278a-2792 10a40-10a43 10e60-10e68 11052-1105a 1f100-1f10a"

/-- The value of a decimal digit of any script. -/
def decimalDigit? (c : Char) : Option Nat :=
  (zeroCodes.find? fun start => start ≤ c.toNat && c.toNat < start + 10).map (c.toNat - ·)

/-- Whether a character is a digit, decimal or not. -/
def isDigit (c : Char) : Bool :=
  (decimalDigit? c).isSome || ornamentalDigits.contains c

end SocksTunnel.Text
