/-!
Sets of characters written as ranges of code points.

A set is a list of closed ranges; its written form names each range in hexadecimal, `41-5a` or
`5f`, with blanks or line ends between them. `CodeRanges.read` takes the written form, and
`CodeRanges.contains` asks whether a character lies in one of the ranges.
-/

namespace SocksTunnel.Text

/-- The value of a lower-case hexadecimal digit. -/
def hexDigit? (c : Char) : Option Nat :=
  if '0' ≤ c ∧ c ≤ '9' then some (c.toNat - 48)
  else if 'a' ≤ c ∧ c ≤ 'f' then some (c.toNat - 87)
  else none

/-- The number written by a run of hexadecimal digits; other characters count as nothing. -/
def hexNumber (cs : List Char) : Nat :=
  cs.foldl (fun n c => match hexDigit? c with
    | some d => 16 * n + d
    | none => n) 0

/-- The words of a text, which stand between blanks and line ends. -/
def words (s : String) : List (List Char) :=
  (s.toList.splitOnP fun c => c = ' ' || c = '\n').filter fun word => !word.isEmpty

/-- A set of characters, as closed ranges of code points. -/
structure CodeRanges where
  ranges : List (Nat × Nat)

namespace CodeRanges

/-- One written range: a single code point, or the first and the last one. -/
def readRange (cs : List Char) : Nat × Nat :=
  match cs.splitOn '-' with
  | [first, last] => (hexNumber first, hexNumber last)
  | _ => (hexNumber cs, hexNumber cs)

/-- Read the written form. -/
def read (s : String) : CodeRanges := ⟨(words s).map readRange⟩

/-- Whether a character lies in one of the ranges. -/
def contains (set : CodeRanges) (c : Char) : Bool :=
  set.ranges.any fun range => range.1 ≤ c.toNat && c.toNat ≤ range.2

end CodeRanges

end SocksTunnel.Text
