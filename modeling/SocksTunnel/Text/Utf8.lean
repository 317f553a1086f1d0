/-!
Bytes and text. Writing is the plain UTF-8 of each character. Reading never fails: where the
bytes are no UTF-8, the longest start of a character that stands there, or a single byte if
there is none, becomes one replacement character.
-/

namespace SocksTunnel.Text

abbrev Bytes := List UInt8

/-- The UTF-8 form of a text. -/
def utf8 (cs : List Char) : Bytes := cs.flatMap String.utf8EncodeChar

/-- The mark for bytes that are no character. -/
def replacement : Char := Char.ofNat 0xFFFD

/-- What a first byte announces: how many bytes follow, the bounds of the next one, and the bits
that the first byte gives. -/
structure Lead where
  following : Nat
  low : UInt8
  high : UInt8
  bits : Nat

/-- What a byte announces as the first of several. The bounds keep out overlong forms, surrogates
and code points that are too large. -/
def lead? (b : UInt8) : Option Lead :=
  let n := b.toNat
  if 0xC2 ≤ n ∧ n ≤ 0xDF then some ⟨1, 0x80, 0xBF, n - 0xC0⟩
  else if n = 0xE0 then some ⟨2, 0xA0, 0xBF, 0⟩
  else if n = 0xED then some ⟨2, 0x80, 0x9F, 0xD⟩
  else if 0xE1 ≤ n ∧ n ≤ 0xEF then some ⟨2, 0x80, 0xBF, n - 0xE0⟩
  else if n = 0xF0 then some ⟨3, 0x90, 0xBF, 0⟩
  else if 0xF1 ≤ n ∧ n ≤ 0xF3 then some ⟨3, 0x80, 0xBF, n - 0xF0⟩
  else if n = 0xF4 then some ⟨3, 0x80, 0x8F, 4⟩
  else none

/-- Read the bytes that follow a first one. The result is the code point, if it is complete, and
the bytes that are left. -/
def following : Nat → UInt8 → UInt8 → Nat → Bytes → Option Nat × Bytes
  | 0, _, _, bits, bytes => (some bits, bytes)
  | _ + 1, _, _, _, [] => (none, [])
  | n + 1, low, high, bits, b :: rest =>
      if low ≤ b ∧ b ≤ high then following n 0x80 0xBF (64 * bits + (b.toNat - 0x80)) rest
      else (none, b :: rest)

theorem following_length_le (n : Nat) (low high : UInt8) (bits : Nat) (bytes : Bytes) :
    (following n low high bits bytes).2.length ≤ bytes.length := by
  induction n generalizing low high bits bytes with
  | zero => simp [following]
  | succ n ih =>
      cases bytes with
      | nil => simp [following]
      | cons b rest =>
          simp only [following]
          split
          · exact Nat.le_succ_of_le (ih ..)
          · simp

/-- The first character of a text of bytes, and the bytes after it. -/
def readChar (b : UInt8) (rest : Bytes) : Char × Bytes :=
  if b < 0x80 then (Char.ofNat b.toNat, rest)
  else match lead? b with
    | none => (replacement, rest)
    | some lead =>
        let (code, left) := following lead.following lead.low lead.high lead.bits rest
        ((code.map Char.ofNat).getD replacement, left)

theorem readChar_length_le (b : UInt8) (rest : Bytes) :
    (readChar b rest).2.length ≤ rest.length := by
  unfold readChar
  split
  · exact Nat.le_refl _
  · split
    · exact Nat.le_refl _
    · exact following_length_le ..

/-- Read bytes as text. -/
def readUtf8 : Bytes → List Char
  | [] => []
  | b :: rest => (readChar b rest).1 :: readUtf8 (readChar b rest).2
termination_by bytes => bytes.length
decreasing_by exact Nat.lt_succ_of_le (readChar_length_le b rest)

end SocksTunnel.Text
