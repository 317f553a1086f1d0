import SocksTunnel.HostPort

/-!
Ports of plain digits among those of all scripts, and the steps in which an address is parsed.

* `Text.decimalDigit?_of_plain` — a plain digit is worth what it is worth in ASCII.
* `HostPort.readPort_of_plain` — a port of plain digits is the number that they write.
* `HostPort.parse_of_cut` — an address that is cut into a host and a port is parsed if the port is.
-/

namespace SocksTunnel

namespace Text

/-- The row of digits that begins at the zero of ASCII comes first. -/
theorem find?_zeroCodes (n : Fin 10) :
    zeroCodes.find? (fun start => start ≤ 48 + n.val && 48 + n.val < start + 10) = some 48 := by
  revert n
  unfold zeroCodes words
  rw [String.toList_ofList]
  decide +kernel

theorem decimalDigit?_of_plain {c : Char} (plain : isPlainDigit c = true) :
    decimalDigit? c = some (c.toNat - 48) := by
  simp only [isPlainDigit, Bool.and_eq_true, decide_eq_true_eq] at plain
  have least : 48 ≤ c.toNat := plain.1
  have most : c.toNat ≤ 57 := plain.2
  have place : 48 + (c.toNat - 48) = c.toNat := by omega
  have row := find?_zeroCodes ⟨c.toNat - 48, by omega⟩
  dsimp only at row
  rw [place] at row
  rw [decimalDigit?, row]
  rfl

theorem isDigit_of_plain {c : Char} (plain : isPlainDigit c = true) : isDigit c = true := by
  rw [isDigit, decimalDigit?_of_plain plain]
  rfl

/-- Plain digits write the same number in all scripts as in ASCII. -/
theorem decimalValue_of_plain {cs : List Char} (plain : ∀ c ∈ cs, isPlainDigit c = true) :
    decimalValue cs = plainNumber cs := by
  have step (start : Nat) : cs.foldl (fun n c => 10 * n + (decimalDigit? c).getD 0) start =
      cs.foldl (fun n c => 10 * n + (c.toNat - 48)) start := by
    induction cs generalizing start with
    | nil => rw [List.foldl_nil, List.foldl_nil]
    | cons c cs ih =>
        obtain ⟨head, tail⟩ := List.forall_mem_cons.mp plain
        simp only [List.foldl_cons, decimalDigit?_of_plain head, Option.getD_some]
        exact ih tail _
  exact step 0

/-- A run of plain digits that is not too long is read as the number that they write. -/
theorem readDigitRun_of_plain {cs : List Char} (plain : ∀ c ∈ cs, isPlainDigit c = true)
    (short : cs.length ≤ digitLimit) : readDigitRun cs = .ok (plainNumber cs) := by
  have front : cs.takeWhile (fun c => (decimalDigit? c).isSome) = cs := by
    have all : ∀ c ∈ cs, (decimalDigit? c).isSome = true := by
      intro c member
      rw [decimalDigit?_of_plain (plain c member)]
      rfl
    have whole : (cs ++ []).takeWhile (fun c => (decimalDigit? c).isSome) = cs ++ [] :=
      List.takeWhile_append_of_pos all
    rwa [List.append_nil] at whole
  rw [readDigitRun, front, if_neg (Nat.not_lt.mpr short), if_neg (Nat.lt_irrefl _),
    decimalValue_of_plain plain]

end Text

namespace HostPort

open Text

/-- A port of plain digits is the number that they write, if it is not too large. -/
theorem readPort_of_plain {text port : List Char} (nonempty : port ≠ [])
    (plain : ∀ c ∈ port, isPlainDigit c = true) (short : port.length ≤ digitLimit)
    (small : plainNumber port ≤ maxPort) :
    readPort text port = .ok (UInt16.ofNat (plainNumber port)) := by
  have digits : port.all isDigit = true :=
    List.all_eq_true.mpr fun c member => isDigit_of_plain (plain c member)
  have some : port.isEmpty = false := List.isEmpty_eq_false_iff.mpr nonempty
  rw [readPort, digits, some, readDigitRun_of_plain plain short]
  exact if_neg (Nat.not_lt.mpr small)

/-- An address that is cut into a host and a port is parsed if the port is. -/
theorem parse_of_cut {s : String} {text host port : List Char} (trimmed : trim s.toList = text)
    (split : cut text = .ok (host, port)) (named : host ≠ []) :
    parse s = (readPort text port).map fun p => ⟨String.ofList host, p⟩ := by
  have some : host.isEmpty = false := List.isEmpty_eq_false_iff.mpr named
  simp only [parse, parseChars, trimmed, split, bind, Except.bind, some, Bool.false_eq_true,
    if_false]
  cases readPort text port <;> rfl

end HostPort

end SocksTunnel
