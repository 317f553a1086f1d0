/-!
Punycode: a label in the letters, digits and hyphens of ASCII.

The ASCII characters of a label come first, as they are. The others follow in ascending order,
each as the distance from the one before, counted over all places where it could stand and
written as a number of variable length whose thresholds adapt to the distances met so far.
-/

namespace SocksTunnel.Domain.Punycode

/-- The letter or digit of a value below thirty-six. -/
def digit (d : Nat) : Char :=
  if d < 26 then Char.ofNat (97 + d) else Char.ofNat (22 + d)

/-- The threshold at a position, which counts in steps of thirty-six. -/
def threshold (position bias : Nat) : Nat := max 1 (min 26 (position - bias))

theorem threshold_bounds (position bias : Nat) :
    1 ≤ threshold position bias ∧ threshold position bias ≤ 26 := by
  unfold threshold; omega

/-- Write a distance; the last digit is the one below its threshold. -/
def writeDistance (bias position n : Nat) : List Char :=
  let t := threshold position bias
  if n < t then [digit n]
  else digit (t + (n - t) % (36 - t)) :: writeDistance bias (position + 36) ((n - t) / (36 - t))
termination_by n
decreasing_by
  have h := threshold_bounds position bias
  exact Nat.lt_of_le_of_lt (Nat.div_le_self _ _) (by omega)

/-- Scale a distance down; the steps taken count thirty-six each. -/
def dampen (delta steps : Nat) : Nat × Nat :=
  if 455 < delta then dampen (delta / 35) (steps + 36) else (delta, steps)
termination_by delta
decreasing_by exact Nat.div_lt_self (by omega) (by omega)

/-- The bias after a distance, `count` characters being placed. -/
def adapt (delta : Nat) (first : Bool) (count : Nat) : Nat :=
  let halved := if first then delta / 700 else delta / 2
  let (rest, steps) := dampen (halved + halved / count) 0
  steps + 36 * rest / (rest + 38)

/-- The state of the writer: what is written, the distance counted so far, the bias, and how many
characters are placed. -/
structure Writer where
  written : List Char
  distance : Nat
  bias : Nat
  placed : Nat

/-- Pass over one character of the label while placing the characters with code `code`. -/
def Writer.pass (plain code : Nat) (w : Writer) (c : Char) : Writer :=
  if c.toNat < code then { w with distance := w.distance + 1 }
  else if c.toNat = code then
    { written := w.written ++ writeDistance w.bias 36 w.distance
      distance := 0
      bias := adapt w.distance (w.placed == plain) (w.placed + 1)
      placed := w.placed + 1 }
  else w

/-- Place all characters with the given codes, in order. `next` is the least code not yet
counted. -/
def Writer.place (label : List Char) (plain : Nat) : Nat → List Nat → Writer → Writer
  | _, [], w => w
  | next, code :: codes, w =>
      let w := { w with distance := w.distance + (code - next) * (w.placed + 1) }
      let w := label.foldl (Writer.pass plain code) w
      Writer.place label plain (code + 1) codes { w with distance := w.distance + 1 }

def isAscii (c : Char) : Bool := c.toNat < 0x80

/-- The codes beyond ASCII that a label holds, ascending, each once. -/
def wideCodes (label : List Char) : List Nat :=
  (((label.filter fun c => !isAscii c).map Char.toNat).mergeSort (· ≤ ·)).eraseDups

/-- The ASCII form of a label. -/
def encode (label : List Char) : List Char :=
  let plain := label.filter isAscii
  let start : Writer := ⟨[], 0, 72, plain.length⟩
  let wide := (Writer.place label plain.length 0x80 (wideCodes label) start).written
  if plain.isEmpty then wide else plain ++ '-' :: wide

end SocksTunnel.Domain.Punycode
