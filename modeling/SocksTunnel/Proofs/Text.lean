import Mathlib.Algebra.Ring.Nat
import Mathlib.Data.List.Basic
import Mathlib.Data.List.Induction
import Mathlib.Data.List.TakeWhile
import SocksTunnel.Text.Blank
import SocksTunnel.Text.Digit
import SocksTunnel.Text.Numeral

/-!
Trimmed texts, and the decimal text of numbers.

* `exists_trimOf`, `head?_trimOf` — trimming takes characters of the class off both ends, and what
  is left does not begin with one.
* `trimOf_eq_self` — a text that has none at its ends is left as it is.
* `bne_of_notMem`, `notMem_takeWhile_bne` — the part of a text in front of a separator.
* `plainNumber_decimalDigits` and its neighbours — the decimal text of a number writes that number,
  in plain digits and without leading zeros.
* `decimalDigits_plainNumber` — and it is the only such text that does.
-/

namespace SocksTunnel.Text

/-! ### Trimming -/

section

variable {belongs : Char → Bool} {cs : List Char}

/-- What trimming leaves stands in front of what it takes off the end. -/
theorem trimOf_append_back (belongs : Char → Bool) (cs : List Char) :
    trimOf belongs cs ++ ((cs.dropWhile belongs).reverse.takeWhile belongs).reverse =
      cs.dropWhile belongs := by
  have behind := List.takeWhile_append_dropWhile (p := belongs)
    (l := (cs.dropWhile belongs).reverse)
  rw [trimOf, ← List.reverse_append, behind, List.reverse_reverse]

/-- Trimming takes characters of the class off the front of a text and off its end. -/
theorem exists_trimOf (belongs : Char → Bool) (cs : List Char) :
    ∃ front back, cs = front ++ trimOf belongs cs ++ back ∧
      (∀ c ∈ front, belongs c = true) ∧ ∀ c ∈ back, belongs c = true := by
  have ahead := List.takeWhile_append_dropWhile (p := belongs) (l := cs)
  refine ⟨cs.takeWhile belongs, ((cs.dropWhile belongs).reverse.takeWhile belongs).reverse,
    ?_, ?_, ?_⟩
  · rw [List.append_assoc, trimOf_append_back, ahead]
  · intro c member
    exact List.mem_takeWhile_imp member
  · intro c member
    exact List.mem_takeWhile_imp (List.mem_reverse.mp member)

/-- What trimming leaves does not begin with a character of the class. -/
theorem head?_trimOf {c : Char} (begins : (trimOf belongs cs).head? = some c) :
    belongs c = false := by
  have leads := List.head?_dropWhile_not belongs cs
  rw [← trimOf_append_back, List.head?_append, begins] at leads
  exact leads

theorem dropWhile_eq_self (first : ∀ c, cs.head? = some c → belongs c = false) :
    cs.dropWhile belongs = cs := by
  cases cs with
  | nil => rfl
  | cons c cs => rw [List.dropWhile_cons_of_neg (by simp [first c rfl])]

/-- Nothing is taken off a text that neither begins nor ends with a character of the class. -/
theorem trimOf_eq_self (first : ∀ c, cs.head? = some c → belongs c = false)
    (last : ∀ c, cs.getLast? = some c → belongs c = false) : trimOf belongs cs = cs := by
  have first' : ∀ c, cs.reverse.head? = some c → belongs c = false := by
    intro c same
    exact last c (List.head?_reverse ▸ same)
  rw [trimOf, dropWhile_eq_self first, dropWhile_eq_self first', List.reverse_reverse]

end

/-- No plain digit is blank. -/
theorem isBlank_of_plain {c : Char} (plain : isPlainDigit c = true) : isBlank c = false := by
  have none : ∀ n : Fin 10, (blankRanges.ranges.any fun range =>
      range.1 ≤ 48 + n.val && 48 + n.val ≤ range.2) = false := by
    unfold blankRanges CodeRanges.read words
    rw [String.toList_ofList]
    decide +kernel
  simp only [isPlainDigit, Bool.and_eq_true, decide_eq_true_eq] at plain
  have least : 48 ≤ c.toNat := plain.1
  have most : c.toNat ≤ 57 := plain.2
  have place : 48 + (c.toNat - 48) = c.toNat := by omega
  have row := none ⟨c.toNat - 48, by omega⟩
  dsimp only at row
  rwa [place] at row

/-! ### Separators -/

section

variable {sep : Char} {cs : List Char}

theorem bne_of_notMem (absent : sep ∉ cs) : ∀ c ∈ cs, (c != sep) = true := by
  intro c member
  exact bne_iff_ne.mpr (ne_of_mem_of_not_mem member absent)

/-- What stands in front of a separator does not hold it. -/
theorem notMem_takeWhile_bne : sep ∉ cs.takeWhile (· != sep) := by
  intro member
  have other := List.mem_takeWhile_imp member
  simp at other

end

/-! ### Decimal text -/

theorem toNat_digitChar {d : Nat} (small : d < 10) : (digitChar d).toNat = 48 + d := by
  have all : ∀ d : Fin 10, (digitChar d).toNat = 48 + d := by decide
  exact all ⟨d, small⟩

theorem isPlainDigit_digitChar {d : Nat} (small : d < 10) : isPlainDigit (digitChar d) = true := by
  have all : ∀ d : Fin 10, isPlainDigit (digitChar d) = true := by decide
  exact all ⟨d, small⟩

theorem decimalDigits_ne_nil (n : Nat) : decimalDigits n ≠ [] := by
  rw [decimalDigits]
  split <;> simp

theorem isPlainDigit_decimalDigits (n : Nat) : ∀ c ∈ decimalDigits n, isPlainDigit c = true := by
  induction n using Nat.strongRecOn with
  | ind n ih =>
      rw [decimalDigits]
      split
      · rename_i small
        simpa using isPlainDigit_digitChar small
      · rename_i large
        have last := isPlainDigit_digitChar (Nat.mod_lt n (by decide : 0 < 10))
        rw [List.forall_mem_append, List.forall_mem_singleton]
        exact ⟨ih (n / 10) (by omega), last⟩

theorem notMem_decimalDigits {c : Char} (other : isPlainDigit c = false) (n : Nat) :
    c ∉ decimalDigits n := by
  intro member
  have digit := isPlainDigit_decimalDigits n c member
  rw [other] at digit
  cases digit

/-- The digits of a number write it. -/
theorem plainNumber_decimalDigits (n : Nat) : plainNumber (decimalDigits n) = n := by
  induction n using Nat.strongRecOn with
  | ind n ih =>
      rw [decimalDigits]
      split
      · rename_i small
        simp [plainNumber, toNat_digitChar small]
      · have front := ih (n / 10) (by omega)
        rw [plainNumber] at front
        rw [plainNumber, List.foldl_append, front]
        simp [toNat_digitChar (Nat.mod_lt n (by decide : 0 < 10))]
        omega

theorem length_decimalDigits_le {n k : Nat} (bound : n < 10 ^ (k + 1)) :
    (decimalDigits n).length ≤ k + 1 := by
  induction k generalizing n with
  | zero =>
      rw [decimalDigits, if_pos (by simpa using bound)]
      simp
  | succ k ih =>
      rw [decimalDigits]
      split
      · simp
      · have front := @ih (n / 10) (by rw [Nat.pow_succ] at bound; omega)
        simpa using front

/-- No number but zero begins with a zero. -/
theorem head?_decimalDigits {n : Nat} (pos : 0 < n) : (decimalDigits n).head? ≠ some '0' := by
  induction n using Nat.strongRecOn with
  | ind n ih =>
      rw [decimalDigits]
      split
      · rename_i small
        intro zero
        have value := toNat_digitChar small
        rw [Option.some.inj zero] at value
        have nil : '0'.toNat = 48 := rfl
        omega
      · have front := ih (n / 10) (by omega) (by omega)
        cases digits : decimalDigits (n / 10) with
        | nil => exact absurd digits (decimalDigits_ne_nil _)
        | cons c more =>
            rw [digits] at front
            exact front

theorem digitChar_of_plain {c : Char} (plain : isPlainDigit c = true) :
    c.toNat - 48 < 10 ∧ digitChar (c.toNat - 48) = c := by
  simp only [isPlainDigit, Bool.and_eq_true, decide_eq_true_eq] at plain
  have least : 48 ≤ c.toNat := plain.1
  have most : c.toNat ≤ 57 := plain.2
  have small : c.toNat - 48 < 10 := by omega
  refine ⟨small, ?_⟩
  apply Char.toNat_inj.mp
  rw [toNat_digitChar small]
  omega

/-- Plain digits without leading zeros are the decimal text of the number that they write. -/
theorem decimalDigits_plainNumber {cs : List Char} (nonempty : cs ≠ [])
    (plain : ∀ c ∈ cs, isPlainDigit c = true) (leading : 1 < cs.length → cs.head? ≠ some '0') :
    decimalDigits (plainNumber cs) = cs := by
  induction cs using List.reverseRecOn with
  | nil => exact absurd rfl nonempty
  | append_singleton front c ih =>
      obtain ⟨small, last⟩ := digitChar_of_plain (plain c (List.mem_append_right _ (by simp)))
      have number : plainNumber (front ++ [c]) = 10 * plainNumber front + (c.toNat - 48) := by
        simp [plainNumber]
      by_cases empty : front = []
      · subst empty
        rw [number, decimalDigits, if_pos (by simpa [plainNumber] using small)]
        simp [plainNumber, last]
      · have long : 1 < (front ++ [c]).length := by
          simpa using List.length_pos_iff.mpr empty
        have first : front.head? ≠ some '0' := by
          have first := leading long
          rwa [List.head?_append_of_ne_nil _ empty] at first
        have before := ih empty (fun c member => plain c (List.mem_append_left _ member))
          (fun _ => first)
        -- A zero in front would be all of the digits before the last one.
        have positive : plainNumber front ≠ 0 := by
          intro zero
          rw [zero, decimalDigits, if_pos (by decide)] at before
          exact first (before ▸ rfl)
        have front' : (10 * plainNumber front + (c.toNat - 48)) / 10 = plainNumber front := by omega
        have last' : (10 * plainNumber front + (c.toNat - 48)) % 10 = c.toNat - 48 := by omega
        rw [number, decimalDigits, if_neg (by omega), front', last', before, last]

end SocksTunnel.Text
