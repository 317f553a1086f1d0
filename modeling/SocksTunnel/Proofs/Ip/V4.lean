import Mathlib.Data.List.Basic
import SocksTunnel.Ip.V4

/-!
IPv4 addresses as the system reads them when it is to put them on the wire: in one pass, character
by character. It reads the same texts as `Ipv4.read?`, which takes them apart at the points first,
and gives the same bytes.

* `pieces_induction` — induction over the pieces of a text between separators.
* `Ipv4.scanByte_eq` — the bound on the number under way keeps out long pieces.
* `Ipv4.scan?_eq` — the two readers agree on every text.
-/

namespace SocksTunnel

open SocksTunnel.Text

/-- Induction over the pieces of a text between separators. -/
theorem pieces_induction (sep : Char) {motive : List Char → Prop}
    (last : ∀ piece, sep ∉ piece → motive piece)
    (next : ∀ piece rest, sep ∉ piece → motive rest → motive (piece ++ sep :: rest))
    (cs : List Char) : motive cs := by
  by_cases found : sep ∈ cs
  · obtain ⟨piece, rest, split, absent⟩ := List.eq_append_cons_of_mem found
    have shorter : rest.length < cs.length := by
      rw [split, List.length_append, List.length_cons]
      omega
    rw [split]
    exact next piece rest absent (pieces_induction sep last next rest)
  · exact last cs found
termination_by cs.length

namespace Ipv4

/-- The number under way with one more digit. A number that is zero so far has no further digit,
and none is above 255. -/
def extend (here : Option Nat) (c : Char) : Option Nat :=
  if isPlainDigit c then
    match here with
    | none => some (c.toNat - 48)
    | some n =>
        if n = 0 ∨ 255 < 10 * n + (c.toNat - 48) then none else some (10 * n + (c.toNat - 48))
  else none

/-- Read on, after the bytes of `done` and in the middle of `here`. -/
def scan : Bytes → Option Nat → List Char → Option Bytes
  | done, here, [] => match here with
    | some n => if done.length = 3 then some (done ++ [UInt8.ofNat n]) else none
    | none => none
  | done, here, c :: cs =>
      if c = '.' then match here with
        | some n => if done.length < 3 then scan (done ++ [UInt8.ofNat n]) none cs else none
        | none => none
      else match extend here c with
        | some n => scan done (some n) cs
        | none => none

/-- Read the four bytes of an address in one pass. -/
def scan? (cs : List Char) : Option Bytes := scan [] none cs

/-! ### One byte -/

/-- Read the digits of one byte. -/
def scanByte : Option Nat → List Char → Option (Option Nat)
  | here, [] => some here
  | here, c :: cs => (extend here c).bind fun n => scanByte (some n) cs

theorem scan_piece (done : Bytes) (here : Option Nat) {piece : List Char} (whole : '.' ∉ piece)
    (rest : List Char) :
    scan done here (piece ++ rest) =
      (scanByte here piece).bind fun here => scan done here rest := by
  induction piece generalizing here with
  | nil => rfl
  | cons c piece ih =>
      obtain ⟨other, whole⟩ := not_or.mp (mt List.mem_cons.mpr whole)
      simp only [List.cons_append, scan, if_neg (Ne.symm other), scanByte]
      cases extend here c with
      | none => rfl
      | some n => exact ih (some n) whole

/-- A number, continued with further digits. -/
def grown (n : Nat) (cs : List Char) : Nat := cs.foldl (fun n c => 10 * n + (c.toNat - 48)) n

theorem le_grown (n : Nat) (cs : List Char) : n ≤ grown n cs := by
  induction cs generalizing n with
  | nil => exact Nat.le_refl n
  | cons c cs ih =>
      have step : n ≤ 10 * n + (c.toNat - 48) := by omega
      exact Nat.le_trans step (ih _)

/-- Four digits, the first of them not zero, write a thousand at least. -/
theorem thousand_le_grown {n : Nat} (pos : 0 < n) {cs : List Char} (long : 3 ≤ cs.length) :
    1000 ≤ grown n cs := by
  rcases cs with _ | ⟨a, _ | ⟨b, _ | ⟨c, rest⟩⟩⟩
  · simp at long
  · simp at long
  · simp at long
  · have more := le_grown (grown n [a, b, c]) rest
    have thousand : 1000 ≤ grown n [a, b, c] := by
      simp only [grown, List.foldl_cons, List.foldl_nil]
      omega
    exact Nat.le_trans thousand more

/-- After a digit other than zero the digits are read as long as the number is below 256. -/
theorem scanByte_of_pos {n : Nat} (pos : 0 < n) (le : n ≤ 255) (cs : List Char) :
    scanByte (some n) cs =
      if cs.all isPlainDigit ∧ grown n cs ≤ 255 then some (some (grown n cs)) else none := by
  induction cs generalizing n with
  | nil => simp [scanByte, grown, le]
  | cons c cs ih =>
      rw [scanByte, extend]
      by_cases digit : isPlainDigit c
      · by_cases large : 255 < 10 * n + (c.toNat - 48)
        · have beyond : ¬ grown n (c :: cs) ≤ 255 :=
            Nat.not_le.mpr (Nat.lt_of_lt_of_le large (le_grown _ cs))
          simp [digit, large, beyond]
        · have nonzero : n ≠ 0 := by omega
          simp only [digit, nonzero, large, or_self, if_true, if_false, Option.bind_some]
          rw [ih (by omega) (by omega)]
          simp [grown, digit]
      · simp [digit]

theorem isPlainDigit_iff (c : Char) : isPlainDigit c = true ↔ 48 ≤ c.toNat ∧ c.toNat ≤ 57 := by
  rw [isPlainDigit, Bool.and_eq_true, decide_eq_true_eq, decide_eq_true_eq]
  rfl

/-- A piece that does not begin with a zero is a byte if its digits, at most three, write one. -/
theorem readByte?_cons {c : Char} (other : c ≠ '0') (cs : List Char) :
    readByte? (c :: cs) =
      if cs.length < 3 ∧ isPlainDigit c ∧ cs.all isPlainDigit ∧ grown (c.toNat - 48) cs ≤ 255 then
        some (UInt8.ofNat (grown (c.toNat - 48) cs))
      else none := by
  have number : plainNumber (c :: cs) = grown (c.toNat - 48) cs := by
    simp [plainNumber, grown]
  have long : 3 < (c :: cs).length ↔ ¬ cs.length < 3 := by
    rw [List.length_cons]
    omega
  simp only [readByte?, number, List.isEmpty_cons, List.head?_cons, Option.some.injEq, other,
    List.all_cons, Bool.or_eq_true, decide_eq_true_eq, long]
  by_cases short : cs.length < 3
  · cases isPlainDigit c with
    | false => simp [short]
    | true =>
        cases cs.all isPlainDigit with
        | false => simp [short]
        | true =>
            by_cases small : grown (c.toNat - 48) cs ≤ 255
            · simp [short, small, Nat.not_lt.mpr small]
            · simp [short, small, Nat.lt_of_not_le small]
  · simp [short]

/-- A byte is read digit by digit as it is as a piece. -/
theorem scanByte_eq (cs : List Char) :
    scanByte none cs =
      if cs = [] then some none else (readByte? cs).map fun b => some b.toNat := by
  rcases cs with _ | ⟨c, cs⟩
  · rfl
  rw [if_neg (List.cons_ne_nil c cs), scanByte, extend]
  by_cases digit : isPlainDigit c
  · obtain ⟨least, most⟩ := (isPlainDigit_iff c).mp digit
    simp only [digit, if_true, Option.bind_some]
    by_cases zero : c.toNat = 48
    · obtain rfl : c = '0' := Char.toNat_inj.mp zero
      rcases cs with _ | ⟨next, cs⟩
      · decide
      · have leading : readByte? ('0' :: next :: cs) = none := by
          simp [readByte?]
        rw [leading, scanByte, extend]
        by_cases digit' : isPlainDigit next
        · simp [digit']
        · simp [digit']
    · have other : c ≠ '0' := fun same => zero (same ▸ rfl)
      rw [scanByte_of_pos (by omega) (by omega)]
      rw [readByte?_cons other]
      by_cases fits : cs.all isPlainDigit ∧ grown (c.toNat - 48) cs ≤ 255
      · have short : cs.length < 3 := by
          by_contra long
          have thousand := thousand_le_grown (by omega : 0 < c.toNat - 48) (Nat.le_of_not_lt long)
          omega
        have byte : (UInt8.ofNat (grown (c.toNat - 48) cs)).toNat = grown (c.toNat - 48) cs :=
          UInt8.toNat_ofNat_of_lt' (Nat.lt_succ_of_le fits.2)
        rw [if_pos fits, if_pos ⟨short, digit, fits⟩, Option.map_some, byte]
      · rw [if_neg fits, if_neg fun h => fits h.2.2, Option.map_none]
  · simp [readByte?, digit]

theorem readByte?_digits {cs : List Char} {b : UInt8} (read : readByte? cs = some b) :
    cs.length ≤ 3 ∧ ∀ c ∈ cs, isPlainDigit c = true := by
  unfold readByte? at read
  split at read
  · cases read
  · rename_i shape
    simp only [Bool.or_eq_true, not_or, decide_eq_true_eq, Bool.not_eq_true', Bool.not_eq_false,
      List.all_eq_true] at shape
    exact ⟨Nat.le_of_not_lt shape.1.2, shape.2⟩

/-! ### Four bytes -/

/-- The bytes of a number of pieces. -/
def readBytes? : Nat → List (List Char) → Option Bytes
  | 0, [] => some []
  | n + 1, piece :: pieces => do return (← readByte? piece) :: (← readBytes? n pieces)
  | _, _ => none

theorem read?_bytes (cs : List Char) : (read? cs).map bytes = readBytes? 4 (cs.splitOn '.') := by
  rcases cut : cs.splitOn '.' with _ | ⟨a, _ | ⟨b, _ | ⟨c, _ | ⟨d, _ | ⟨e, more⟩⟩⟩⟩⟩
  · simp [read?, cut, readBytes?]
  · simp [read?, cut, readBytes?]
  · simp [read?, cut, readBytes?]
  · simp [read?, cut, readBytes?]
  · simp only [read?, cut, readBytes?, bind, Option.bind_assoc, Option.map_bind, pure,
      Option.bind_some, Function.comp_def, Option.map_some, bytes]
  · simp [read?, cut, readBytes?]

/-- From a byte on, the pass reads the pieces that are left. -/
theorem scan_eq {done : Bytes} {left : Nat} (count : done.length + left = 3) (cs : List Char) :
    scan done none cs = (readBytes? (left + 1) (cs.splitOn '.')).map (done ++ ·) := by
  induction cs using pieces_induction '.' generalizing done left with
  | last piece whole =>
      have pass := scan_piece done none whole []
      rw [List.append_nil, scanByte_eq] at pass
      rw [pass, List.splitOn_eq_singleton whole, readBytes?]
      by_cases empty : piece = []
      · subst empty
        rfl
      · rw [if_neg empty]
        cases readByte? piece with
        | none => rfl
        | some b =>
            cases left with
            | zero =>
                have last : done.length = 3 := count
                simp [scan, last, readBytes?]
            | succ left =>
                have full : done.length ≠ 3 := by omega
                simp [scan, full, readBytes?]
  | next piece rest whole ih =>
      have pass := scan_piece done none whole ('.' :: rest)
      rw [scanByte_eq] at pass
      rw [pass, List.splitOn_append_cons_self_of_not_mem whole, readBytes?]
      by_cases empty : piece = []
      · subst empty
        rfl
      · rw [if_neg empty]
        cases readByte? piece with
        | none => rfl
        | some b =>
            cases left with
            | zero =>
                have more : readBytes? 0 (rest.splitOn '.') = none := by
                  cases cut : rest.splitOn '.' with
                  | nil => exact absurd cut (List.splitOn_ne_nil _ _)
                  | cons first others => rfl
                have last : done.length = 3 := count
                simp [scan, last, more]
            | succ left =>
                have room : done.length < 3 := by omega
                have count' : (done ++ [b]).length + left = 3 := by
                  simp
                  omega
                have next := ih count'
                simp only [scan, room, UInt8.ofNat_toNat, next, if_true, Option.map_some,
                  Option.bind_some]
                cases readBytes? (left + 1) (rest.splitOn '.') <;> simp

/-- Both readers give the same bytes for the same texts. -/
theorem scan?_eq (cs : List Char) : scan? cs = (read? cs).map bytes := by
  have begun : ([] : Bytes).length + 3 = 3 := rfl
  rw [scan?, scan_eq begun, read?_bytes]
  simp

/-- A text with a character that is neither a digit nor a point is no address. -/
theorem read?_eq_none_of_mem {cs : List Char} {c : Char} (mem : c ∈ cs)
    (other : isPlainDigit c = false) (point : c ≠ '.') : read? cs = none := by
  have stops (done : Bytes) (here : Option Nat) : scan done here cs = none := by
    induction cs generalizing done here with
    | nil => exact absurd mem List.not_mem_nil
    | cons first cs ih =>
        rcases List.mem_cons.mp mem with rfl | later
        · simp [scan, extend, other, point]
        · simp only [scan, ih later]
          split
          · split <;> simp
          · split <;> rfl
  have pass := scan?_eq cs
  rw [scan?, stops] at pass
  exact Option.map_eq_none_iff.mp pass.symm

/-- The piece before the first point has to be a byte. -/
theorem read?_eq_none_of_first {piece : List Char} (whole : '.' ∉ piece)
    (first : readByte? piece = none) (rest : List Char) : read? (piece ++ '.' :: rest) = none := by
  have pieces := read?_bytes (piece ++ '.' :: rest)
  rw [List.splitOn_append_cons_self_of_not_mem whole, readBytes?, first] at pieces
  exact Option.map_eq_none_iff.mp pieces

end Ipv4

end SocksTunnel
