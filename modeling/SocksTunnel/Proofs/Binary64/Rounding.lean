import Mathlib.Algebra.Order.Field.Power
import Mathlib.Algebra.Ring.Parity
import Mathlib.Tactic.FieldSimp
import Mathlib.Tactic.Linarith
import Mathlib.Tactic.Positivity
import Mathlib.Tactic.Ring
import SocksTunnel.Binary64.Fixed
import SocksTunnel.Proofs.Binary64

/-!
Rounding to whole numbers, to the format, and to tenths.

* `rounds_roundDiv`, `Rounds.mono` — a quotient is rounded to the nearest natural number, a tie
  going to the even one, and this keeps the order.
* `nearest_cases` — what a quotient is rounded to: a mantissa that is nearest to it at an exponent,
  if that is not too large.
* `nearest_eq_infinite_iff` — how large that is.
* `Rounding.le_of_fits` — rounding never passes a number of the format.
* `Rounding.near`, `Rounding.abs_sub_le_div` — how far a rounding is from the number.
* `ofRat_cases`, `sub_cases` — so neither does the rounding of a rational or of a difference.
* `value?_div` — a quotient that the format has is computed exactly.
* `oneDecimal_of_value?` — a number is written in tenths, to which its value is rounded.
-/

namespace SocksTunnel

namespace Binary64

/-! ### Natural numbers -/

/-- The natural number is nearest to the rational, and even if another one is as near. -/
structure Rounds (q : Rat) (n : Nat) : Prop where
  near : |q - n| ≤ 1 / 2
  even : |q - n| = 1 / 2 → Even n

theorem rounds_natCast (n : Nat) : Rounds n n := by
  constructor
  case near => simp
  case even =>
    intro half
    rw [sub_self, abs_zero] at half
    norm_num at half

theorem rounds_roundDiv {den : Nat} (pos : 0 < den) (num : Nat) :
    Rounds ((num : Rat) / den) (roundDiv num den) := by
  have pos' : (0 : Rat) < den := by exact_mod_cast pos
  have parts : (num : Rat) / den = (num / den : Nat) + ((num % den : Nat) : Rat) / den := by
    have whole : (num : Rat) = den * (num / den : Nat) + (num % den : Nat) := by
      exact_mod_cast (Nat.div_add_mod num den).symm
    rw [div_eq_iff pos'.ne', add_mul, div_mul_cancel₀ _ pos'.ne', mul_comm]
    exact whole
  have low : (0 : Rat) ≤ ((num % den : Nat) : Rat) / den := by positivity
  rcases lt_trichotomy (2 * (num % den)) den with below | tie | above
  · have rest : ((num % den : Nat) : Rat) / den < 1 / 2 := by
      rw [div_lt_div_iff₀ pos' two_pos]
      exact_mod_cast (by omega : num % den * 2 < 1 * den)
    have down : roundDiv num den = num / den := by simp [roundDiv, below]
    rw [down, parts]
    constructor
    · rw [add_sub_cancel_left, abs_of_nonneg low]
      exact rest.le
    · rw [add_sub_cancel_left, abs_of_nonneg low]
      exact fun half => absurd half rest.ne
  · have rest : ((num % den : Nat) : Rat) / den = 1 / 2 := by
      rw [div_eq_div_iff pos'.ne' two_ne_zero]
      exact_mod_cast (by omega : num % den * 2 = 1 * den)
    have choice : roundDiv num den = num / den + num / den % 2 := by simp [roundDiv, tie]
    rw [choice, parts, rest]
    rcases Nat.mod_two_eq_zero_or_one (num / den) with zero | one
    · rw [zero, Nat.add_zero]
      exact ⟨by norm_num, fun _ => Nat.even_iff.mpr zero⟩
    · rw [one]
      refine ⟨by push_cast; norm_num, fun _ => Nat.even_iff.mpr (by omega)⟩
  · have rest : 1 / 2 < ((num % den : Nat) : Rat) / den := by
      rw [div_lt_div_iff₀ two_pos pos']
      exact_mod_cast (by omega : 1 * den < num % den * 2)
    have less : ((num % den : Nat) : Rat) / den < 1 := by
      rw [div_lt_one pos']
      exact_mod_cast Nat.mod_lt num pos
    have up : roundDiv num den = num / den + 1 := by
      simp [roundDiv, above, Nat.not_lt.mpr above.le]
    have size : |((num : Rat) / den) - (num / den + 1 : Nat)| =
        1 - ((num % den : Nat) : Rat) / den := by
      rw [parts, abs_sub_comm, abs_of_nonneg]
      · push_cast
        ring
      · push_cast
        linarith
    rw [up]
    constructor
    · rw [size]
      linarith
    · rw [size]
      intro half
      linarith

/-- Rounding keeps the order. -/
theorem Rounds.mono {p q : Rat} {m n : Nat} (first : Rounds p m) (second : Rounds q n)
    (le : p ≤ q) : m ≤ n := by
  by_contra greater
  have step : (n : Rat) + 1 ≤ m := by exact_mod_cast Nat.not_le.mp greater
  have above := (abs_le.mp first.near).1
  have below := (abs_le.mp second.near).2
  -- There is room for just one tie, between two neighbours of which one is odd.
  have tie : p = q := by linarith
  have next : (m : Rat) = n + 1 := by linarith
  have up : Even m := first.even (by rw [abs_of_nonpos (by linarith)]; linarith)
  have down : Even n := second.even (by rw [abs_of_nonneg (by linarith)]; linarith)
  have same : m = n + 1 := by exact_mod_cast next
  rw [same, Nat.even_add_one] at up
  exact up down

theorem Rounds.le_natCast {q : Rat} {m n : Nat} (rounds : Rounds q m) (le : q ≤ n) : m ≤ n :=
  rounds.mono (rounds_natCast n) le

theorem Rounds.natCast_le {q : Rat} {m n : Nat} (rounds : Rounds q m) (le : (n : Rat) ≤ q) :
    n ≤ m := (rounds_natCast n).mono rounds le

/-- An even number is reached from half a unit below it. -/
theorem Rounds.le_iff_of_even {q : Rat} {m n : Nat} (rounds : Rounds q m) (even : Even n) :
    n ≤ m ↔ (n : Rat) - 1 / 2 ≤ q := by
  have bounds := abs_le.mp rounds.near
  constructor
  · intro le
    have le' : (n : Rat) ≤ m := by exact_mod_cast le
    linarith
  · intro half
    by_contra less
    have step : (m : Rat) + 1 ≤ n := by exact_mod_cast Nat.not_le.mp less
    have next : (n : Rat) = m + 1 := by linarith
    have tie : Even m := rounds.even (by rw [abs_of_nonneg (by linarith)]; linarith)
    have same : n = m + 1 := by exact_mod_cast next
    rw [same, Nat.even_add_one] at even
    exact even tie

/-! ### The format -/

/-- What a rational is rounded to: a mantissa that is nearest to it at an exponent, and not below
`2 ^ 52` unless the exponent is the least one. -/
structure Rounding (q : Rat) (mantissa : Nat) (exponent : Int) : Prop where
  rounds : Rounds (q * 2 ^ (-exponent)) mantissa
  least : leastExponent ≤ exponent
  normal : leastExponent < exponent → leastNormal ≤ mantissa

theorem leastNormal_eq : (leastNormal : Rat) = 2 ^ (52 : Int) := by
  norm_num [leastNormal]

/-- Rounding never passes a number of the format. -/
theorem Rounding.le_of_fits {q r : Rat} {mantissa : Nat} {exponent : Int}
    (rounding : Rounding q mantissa exponent) (fits : Fits r) (le : r ≤ q) :
    r ≤ mantissa * 2 ^ exponent := by
  obtain ⟨small, power, rfl, bound, least, -⟩ := fits
  have two : (2 : Rat) ≠ 0 := two_ne_zero
  rcases le_or_gt exponent power with finer | coarser
  · -- At the exponent of the rounding the number is a natural one, which rounding does not pass.
    obtain ⟨shift, rfl⟩ : ∃ shift : Nat, power = exponent + shift :=
      ⟨(power - exponent).toNat, by omega⟩
    have natural : (small : Rat) * 2 ^ (exponent + (shift : Int)) =
        (small * 2 ^ shift : Nat) * 2 ^ exponent := by
      rw [zpow_add₀ two, zpow_natCast]
      push_cast
      ring
    rw [natural] at le ⊢
    have scaled : ((small * 2 ^ shift : Nat) : Rat) ≤ q * 2 ^ (-exponent) := by
      rw [zpow_neg, ← div_eq_mul_inv, le_div_iff₀ (by positivity)]
      exact le
    have whole : ((small * 2 ^ shift : Nat) : Rat) ≤ mantissa := by
      exact_mod_cast rounding.rounds.natCast_le scaled
    gcongr
  · -- At a finer exponent it is below all the mantissas that are not subnormal.
    have normal : (leastNormal : Rat) ≤ mantissa := by
      exact_mod_cast rounding.normal (by omega)
    have bound' : (small : Rat) ≤ mantissaLimit := by exact_mod_cast bound.le
    rw [leastNormal_eq] at normal
    rw [mantissaLimit_eq] at bound'
    calc (small : Rat) * 2 ^ power ≤ 2 ^ (53 : Int) * 2 ^ power := by gcongr
      _ = 2 ^ (power + 53) := by rw [← zpow_add₀ two, add_comm]
      _ ≤ 2 ^ (exponent + 52) := zpow_le_zpow_right₀ one_le_two (by omega)
      _ = 2 ^ (52 : Int) * 2 ^ exponent := by rw [← zpow_add₀ two, add_comm]
      _ ≤ mantissa * 2 ^ exponent := by gcongr

/-- The exponent is not larger than one at which the number is no larger than a normal mantissa. -/
theorem Rounding.exponent_le {q : Rat} {mantissa : Nat} {exponent : Int}
    (rounding : Rounding q mantissa exponent) {power : Int} (least : leastExponent ≤ power)
    (small : q ≤ leastNormal * 2 ^ power) : exponent ≤ power := by
  by_contra coarser
  have two : (2 : Rat) ≠ 0 := two_ne_zero
  have normal := rounding.normal (least.trans_lt (not_le.mp coarser))
  have half : q * 2 ^ (-exponent) ≤ ((2 ^ 51 : Nat) : Rat) := by
    calc q * 2 ^ (-exponent) ≤ leastNormal * 2 ^ power * 2 ^ (-exponent) := by gcongr
      _ = 2 ^ (52 + power + -exponent) := by
          rw [leastNormal_eq, ← zpow_add₀ two, ← zpow_add₀ two]
      _ ≤ 2 ^ (51 : Int) := zpow_le_zpow_right₀ one_le_two (by omega)
      _ = ((2 ^ 51 : Nat) : Rat) := by norm_num
  have low : mantissa ≤ 2 ^ 51 := rounding.rounds.le_natCast half
  exact absurd (normal.trans low) (by decide)

/-- Rounding never passes a natural number that is not too large. -/
theorem Rounding.le_natCast {q : Rat} {mantissa : Nat} {exponent : Int}
    (rounding : Rounding q mantissa exponent) {n : Nat} (small : n ≤ leastNormal) (le : q ≤ n) :
    (mantissa : Rat) * 2 ^ exponent ≤ n := by
  have bound : q ≤ leastNormal * 2 ^ (0 : Int) := by
    rw [zpow_zero, mul_one]
    exact le.trans (by exact_mod_cast small)
  have finer : exponent ≤ 0 := rounding.exponent_le (by decide) bound
  obtain ⟨k, rfl⟩ : ∃ k : Nat, exponent = -k := ⟨(-exponent).toNat, by omega⟩
  -- The natural number is a natural one at this exponent too, and rounding does not pass it.
  have scaled : q * 2 ^ (- -(k : Int)) ≤ ((n * 2 ^ k : Nat) : Rat) := by
    rw [neg_neg, zpow_natCast]
    push_cast
    gcongr
  have whole : (mantissa : Rat) ≤ ((n * 2 ^ k : Nat) : Rat) := by
    exact_mod_cast rounding.rounds.le_natCast scaled
  rw [zpow_neg, zpow_natCast, ← div_eq_mul_inv, div_le_iff₀ (by positivity)]
  exact_mod_cast whole

/-- Rounding is by half a unit of its exponent at most. -/
theorem Rounding.near {q : Rat} {mantissa : Nat} {exponent : Int}
    (rounding : Rounding q mantissa exponent) :
    |q - mantissa * 2 ^ exponent| ≤ 2 ^ exponent / 2 := by
  have unit : (0 : Rat) < 2 ^ exponent := by positivity
  have scaled : q - mantissa * 2 ^ exponent = (q * 2 ^ (-exponent) - mantissa) * 2 ^ exponent := by
    rw [sub_mul, mul_assoc, ← zpow_add₀ two_ne_zero, neg_add_cancel, zpow_zero, mul_one]
  calc |q - mantissa * 2 ^ exponent| = |q * 2 ^ (-exponent) - mantissa| * 2 ^ exponent := by
        rw [scaled, abs_mul, abs_of_pos unit]
    _ ≤ 1 / 2 * 2 ^ exponent := by
        gcongr
        exact rounding.rounds.near
    _ = 2 ^ exponent / 2 := by ring

/-- So it is by half a unit of any exponent at which the number is no larger than a normal
mantissa. -/
theorem Rounding.abs_sub_le {q : Rat} {mantissa : Nat} {exponent : Int}
    (rounding : Rounding q mantissa exponent) {power : Int} (least : leastExponent ≤ power)
    (small : q ≤ leastNormal * 2 ^ power) : |q - mantissa * 2 ^ exponent| ≤ 2 ^ power / 2 := by
  have finer := rounding.exponent_le least small
  calc |q - mantissa * 2 ^ exponent| ≤ 2 ^ exponent / 2 := rounding.near
    _ ≤ 2 ^ power / 2 := by
        gcongr
        exact one_le_two

/-- A number that is not below one is rounded by a small part of it at most. -/
theorem Rounding.abs_sub_le_div {q : Rat} {mantissa : Nat} {exponent : Int}
    (rounding : Rounding q mantissa exponent) (one : 1 ≤ q) :
    |q - mantissa * 2 ^ exponent| ≤ q / 2 ^ 52 := by
  refine rounding.near.trans ?_
  rcases rounding.least.eq_or_lt with subnormal | above
  · -- At the least exponent half a unit is small besides one.
    calc (2 : Rat) ^ exponent / 2 ≤ 2 ^ (-52 : Int) / 2 := by
          rw [← subnormal]
          gcongr
          · exact one_le_two
          · decide
      _ ≤ 1 / 2 ^ 52 := by norm_num
      _ ≤ q / 2 ^ 52 := by gcongr
  · -- At any other one the mantissa is large, and the number is near to it.
    have normal : (leastNormal : Rat) ≤ mantissa := by exact_mod_cast rounding.normal above
    have near := (abs_le.mp rounding.near).1
    have large : (leastNormal : Rat) * 2 ^ exponent ≤ mantissa * 2 ^ exponent := by gcongr
    have unit : (0 : Rat) < 2 ^ exponent := by positivity
    rw [le_div_iff₀ (by positivity)]
    norm_num [leastNormal] at large ⊢
    linarith

/-- At an exponent that is large enough a mantissa does not pass its limit. -/
theorem Rounds.le_mantissaLimit {q : Rat} {m : Nat} {order e : Int}
    (rounds : Rounds (q * 2 ^ (-e)) m) (upper : q < 2 ^ (order + 1)) (enough : order - 52 ≤ e) :
    m ≤ mantissaLimit := by
  have two : (2 : Rat) ≠ 0 := two_ne_zero
  apply rounds.le_natCast
  rw [mantissaLimit_eq]
  calc q * 2 ^ (-e) ≤ 2 ^ (order + 1) * 2 ^ (-e) := by gcongr
    _ = 2 ^ (order + 1 + -e) := by rw [← zpow_add₀ two]
    _ ≤ 2 ^ (53 : Int) := zpow_le_zpow_right₀ one_le_two (by omega)

/-- At an exponent that is not too large a mantissa is normal. -/
theorem Rounds.leastNormal_le {q : Rat} {m : Nat} {order e : Int}
    (rounds : Rounds (q * 2 ^ (-e)) m) (lower : 2 ^ order ≤ q) (exact : e = order - 52) :
    leastNormal ≤ m := by
  apply rounds.natCast_le
  rw [leastNormal_eq]
  calc (2 : Rat) ^ (52 : Int) = 2 ^ order * 2 ^ (-e) := by
        rw [← zpow_add₀ two_ne_zero]
        congr 1
        omega
    _ ≤ q * 2 ^ (-e) := by gcongr

/-- The nearest number of a positive quotient is that of a rounding whose mantissa does not pass its
limit. At the limit it is half of it at the next exponent, and beyond the greatest exponent the
number is infinite. -/
theorem nearest_eq {num den : Nat} (num_pos : 0 < num) (den_pos : 0 < den) (negative : Bool) :
    ∃ (m : Nat) (e : Int), Rounding ((num : Rat) / den) m e ∧ m ≤ mantissaLimit ∧
      e = max (binaryOrder num den - 52) leastExponent ∧
      nearest negative num den =
        if greatestExponent < (if m = mantissaLimit then e + 1 else e) then .infinite negative
        else .finite negative (if m = mantissaLimit then leastNormal else m)
          (if m = mantissaLimit then e + 1 else e) := by
  obtain ⟨lower, upper⟩ := binaryOrder_spec num_pos den_pos
  set e := max (binaryOrder num den - 52) leastExponent with chosen
  set m := roundDiv (scaled num den (-e)).1 (scaled num den (-e)).2 with rounded
  have rounds : Rounds ((num : Rat) / den * 2 ^ (-e)) m := by
    rw [← scaled_ratio]
    exact rounds_roundDiv (scaled_pos den_pos num (-e)) _
  have normal : leastExponent < e → leastNormal ≤ m := by
    intro above
    exact rounds.leastNormal_le lower (by omega)
  refine ⟨m, e, ⟨rounds, le_max_right _ _, normal⟩, rounds.le_mantissaLimit upper (by omega), rfl,
    ?_⟩
  simp only [nearest, num_pos.ne', if_false, ← chosen, ← rounded]

/-- The nearest number of a positive quotient is infinite, or the mantissa and the exponent of a
rounding, which are numbers of the format. -/
theorem nearest_cases {num den : Nat} (num_pos : 0 < num) (den_pos : 0 < den) (negative : Bool) :
    nearest negative num den = .infinite negative ∨
    ∃ (mantissa : Nat) (exponent : Int), Rounding ((num : Rat) / den) mantissa exponent ∧
      Fits (mantissa * 2 ^ exponent) ∧
      (nearest negative num den).value? = some
        (if negative then -((mantissa : Rat) * 2 ^ exponent) else mantissa * 2 ^ exponent) := by
  obtain ⟨m, e, rounding, bounded, -, shape⟩ := nearest_eq num_pos den_pos negative
  have least := rounding.least
  rw [shape]
  by_cases carried : m = mantissaLimit
  · -- The mantissa of the limit is half of it at the next exponent.
    have half : (m : Rat) * 2 ^ e = leastNormal * 2 ^ (e + 1) := by
      have two : (2 : Rat) ≠ 0 := two_ne_zero
      rw [carried, mantissaLimit_eq, leastNormal_eq, ← zpow_add₀ two, ← zpow_add₀ two]
      congr 1
      omega
    simp only [carried, if_true]
    by_cases large : greatestExponent < e + 1
    · exact .inl (if_pos large)
    · rw [if_neg large]
      refine .inr ⟨m, e, rounding, ⟨leastNormal, e + 1, half, by decide, by omega, by omega⟩, ?_⟩
      simp only [value?, powerOfTwo_eq, half]
  · simp only [carried, if_false]
    by_cases large : greatestExponent < e
    · exact .inl (if_pos large)
    · rw [if_neg large]
      refine .inr ⟨m, e, rounding, ⟨m, e, rfl, lt_of_le_of_ne bounded carried, least, by omega⟩, ?_⟩
      simp only [value?, powerOfTwo_eq]

/-- Half a unit beyond the greatest number of the format. -/
def overflow : Rat := ((mantissaLimit : Rat) - 1 / 2) * 2 ^ greatestExponent

theorem leastNormal_mul_lt_overflow : (leastNormal : Rat) * 2 ^ greatestExponent < overflow := by
  unfold overflow
  gcongr
  norm_num [leastNormal, mantissaLimit]

/-- The nearest number is infinite just from there on. -/
theorem nearest_eq_infinite_iff {num den : Nat} (num_pos : 0 < num) (den_pos : 0 < den)
    (negative : Bool) :
    nearest negative num den = .infinite negative ↔ overflow ≤ (num : Rat) / den := by
  obtain ⟨m, e, rounding, bounded, exponent, shape⟩ := nearest_eq num_pos den_pos negative
  obtain ⟨lower, upper⟩ := binaryOrder_spec num_pos den_pos
  have two : (2 : Rat) ≠ 0 := two_ne_zero
  have shown : nearest negative num den = .infinite negative ↔
      greatestExponent < (if m = mantissaLimit then e + 1 else e) := by
    rw [shape]
    by_cases large : greatestExponent < (if m = mantissaLimit then e + 1 else e)
    · exact iff_of_true (if_pos large) large
    · rw [if_neg large]
      exact iff_of_false (by rintro ⟨⟩) large
  have limits : greatestExponent = 971 ∧ leastExponent = -1074 := ⟨rfl, rfl⟩
  rw [shown]
  rcases lt_trichotomy (binaryOrder num den) (52 + greatestExponent) with below | greatest | above
  · refine iff_of_false (by split <;> omega) (not_le.mpr ?_)
    calc (num : Rat) / den < 2 ^ (binaryOrder num den + 1) := upper
      _ ≤ 2 ^ (52 + greatestExponent) := zpow_le_zpow_right₀ one_le_two (by omega)
      _ = leastNormal * 2 ^ greatestExponent := by rw [zpow_add₀ two, leastNormal_eq]
      _ < overflow := leastNormal_mul_lt_overflow
  · -- At the greatest exponent the mantissa decides, and its limit is even.
    obtain rfl : e = greatestExponent := by omega
    have reached := rounding.rounds.le_iff_of_even (by decide : Even mantissaLimit)
    rw [zpow_neg, ← div_eq_mul_inv, le_div_iff₀ (by positivity)] at reached
    rw [overflow, ← reached]
    split <;> omega
  · refine iff_of_true (by split <;> omega) ?_
    calc overflow ≤ mantissaLimit * 2 ^ greatestExponent := by
          unfold overflow
          gcongr
          linarith
      _ = 2 ^ (53 + greatestExponent) := by rw [zpow_add₀ two, mantissaLimit_eq]
      _ ≤ 2 ^ binaryOrder num den := zpow_le_zpow_right₀ one_le_two (by omega)
      _ ≤ num / den := lower

/-- A quotient that is not larger than a normal mantissa has a finite rounding. -/
theorem nearest_ne_infinite {num den : Nat} (num_pos : 0 < num) (den_pos : 0 < den)
    (small : (num : Rat) / den ≤ leastNormal) (negative : Bool) :
    nearest negative num den ≠ .infinite negative := by
  intro infinite
  have large := (nearest_eq_infinite_iff num_pos den_pos negative).mp infinite
  have grows : (leastNormal : Rat) ≤ leastNormal * 2 ^ greatestExponent :=
    le_mul_of_one_le_right (Nat.cast_nonneg _) (one_le_zpow₀ one_le_two (by decide))
  exact absurd (large.trans (small.trans grows)) (not_le.mpr leastNormal_mul_lt_overflow)

theorem fits_natCast {n : Nat} (small : n < 2 ^ 53) : Fits n :=
  ⟨n, 0, by simp, small, by decide, by decide⟩

theorem fits_zero : Fits 0 := by simpa using fits_natCast (n := 0) (by decide)

theorem value?_zero (negative : Bool) : (zero negative).value? = some 0 := by
  simp [zero, value?]

/-- A rational that is not negative is rounded to infinity, but only if it is large, or to a number
past none of the format that is below it, and past no natural one above it that is not too
large. -/
theorem ofRat_cases {q : Rat} (nonneg : 0 ≤ q) :
    (leastNormal < q ∧ ofRat q = .infinite false) ∨
    ∃ v, (ofRat q).value? = some v ∧ (∀ r, Fits r → r ≤ q → r ≤ v) ∧
      ∀ n : Nat, n ≤ leastNormal → q ≤ n → v ≤ n := by
  have unsigned : ¬ q.num < 0 := not_lt.mpr (Rat.num_nonneg.mpr nonneg)
  have size : ((q.num.natAbs : Nat) : Rat) / q.den = q := by
    rw [Nat.cast_natAbs, abs_of_nonneg (not_lt.mp unsigned), Rat.num_div_den]
  rw [ofRat, decide_eq_false unsigned]
  rcases Nat.eq_zero_or_pos q.num.natAbs with none | pos
  · rw [none, Nat.cast_zero, zero_div] at size
    subst size
    exact .inr ⟨0, value?_zero false, fun r fits le => le, fun n small le => le⟩
  · rcases nearest_cases pos q.den_pos false with infinite | ⟨m, e, rounding, -, value⟩
    · refine .inl ⟨?_, infinite⟩
      by_contra small
      exact nearest_ne_infinite pos q.den_pos (size.le.trans (not_lt.mp small)) false infinite
    · rw [size] at rounding
      exact .inr ⟨_, value, fun r fits le => rounding.le_of_fits fits le,
        fun n small le => rounding.le_natCast small le⟩

/-! ### Operations -/

theorem lt_of_value? {x y : Binary64} {p q : Rat} (left : x.value? = some p)
    (right : y.value? = some q) : lt x y = decide (p < q) := by
  cases x with
  | infinite negative => cases left
  | nan => cases left
  | finite negative mantissa exponent =>
    cases y with
    | infinite negative => cases right
    | nan => cases right
    | finite negative' mantissa' exponent' => simp only [lt, left, right]

/-- A positive value has no sign. -/
theorem isNegative_of_pos {x : Binary64} {q : Rat} (value : x.value? = some q) (pos : 0 < q) :
    x.isNegative = false := by
  cases x with
  | infinite negative => cases value
  | nan => rfl
  | finite negative mantissa exponent =>
    cases negative with
    | false => rfl
    | true =>
      simp only [value?, powerOfTwo_eq, Option.some.injEq, if_true] at value
      have magnitude : (0 : Rat) ≤ mantissa * 2 ^ exponent := by positivity
      linarith

/-- A quotient that the format has is computed exactly. -/
theorem value?_div {x y : Binary64} {p q : Rat} (left : x.value? = some p)
    (right : y.value? = some q) (nonzero : q ≠ 0) (fits : Fits |p / q|) :
    (x.div y).value? = some (p / q) := by
  cases x with
  | infinite negative => cases left
  | nan => cases left
  | finite negative m e =>
    cases y with
    | infinite negative => cases right
    | nan => cases right
    | finite negative' n f =>
      simp only [value?, powerOfTwo_eq, Option.some.injEq] at left right
      have divisor : n ≠ 0 := by
        rintro rfl
        apply nonzero
        rw [← right]
        simp
      have size : |p / q| = (m : Rat) / n * 2 ^ (e - f) := by
        have numerator : |p| = (m : Rat) * 2 ^ e := by
          rw [← left]
          cases negative <;> simp
        have denominator : |q| = (n : Rat) * 2 ^ f := by
          rw [← right]
          cases negative' <;> simp
        rw [abs_div, numerator, denominator, zpow_sub₀ two_ne_zero]
        field_simp
      rw [size, ← scaled_ratio] at fits
      have pos := scaled_pos (Nat.pos_of_ne_zero divisor) m (e - f)
      simp only [div, divisor, if_false]
      rw [value?_nearest pos fits, scaled_ratio, ← left, ← right, zpow_sub₀ two_ne_zero]
      congr 1
      cases negative <;> cases negative' <;> simp <;> field_simp

theorem abs_nearest (negative : Bool) (num den : Nat) :
    (nearest negative num den).abs = nearest false num den := by
  simp only [nearest]
  split
  · rfl
  · split <;> split <;> rfl

/-- The size of a rounding is the rounding of the size. -/
theorem abs_ofRat (q : Rat) : (ofRat q).abs = ofRat |q| := by
  have unsigned : ¬ |q|.num < 0 := not_lt.mpr (Rat.num_nonneg.mpr (abs_nonneg q))
  have size : |q|.num.natAbs = q.num.natAbs := by rw [Rat.num_abs_eq_abs_num, Int.natAbs_abs]
  rw [ofRat, ofRat, abs_nearest, decide_eq_false unsigned, size, Rat.den_abs_eq_den]

/-- A difference is the rounding of the exact one, if that is not zero. -/
theorem sub_of_value? {x y : Binary64} {p q : Rat} (left : x.value? = some p)
    (right : y.value? = some q) :
    x.sub y = if p - q = 0 then zero (x.isNegative && y.neg.isNegative) else ofRat (p - q) := by
  have right' : y.neg.value? = some (-q) := value?_neg right
  cases x with
  | infinite negative => cases left
  | nan => cases left
  | finite negative mantissa exponent =>
    cases y with
    | infinite negative => cases right
    | nan => cases right
    | finite negative' mantissa' exponent' =>
      rw [neg] at right'
      simp only [sub, neg, add, left, right', sub_eq_add_neg]

/-- The size of a difference is the rounding of the exact one. -/
theorem abs_sub_of_value? {x y : Binary64} {p q : Rat} (left : x.value? = some p)
    (right : y.value? = some q) : (x.sub y).abs = ofRat |p - q| := by
  rw [sub_of_value? left right]
  split
  · rename_i same
    rw [same]
    rfl
  · exact abs_ofRat _

/-- A difference is not rounded past a number of the format that is below it. -/
theorem sub_cases {x y : Binary64} {p q : Rat} (left : x.value? = some p)
    (right : y.value? = some q) (le : q ≤ p) :
    x.sub y = .infinite false ∨
    ∃ v, (x.sub y).value? = some v ∧ ∀ r, Fits r → r ≤ p - q → r ≤ v := by
  rw [sub_of_value? left right]
  split
  · rename_i same
    exact .inr ⟨0, value?_zero _, fun r fits le => same ▸ le⟩
  · rcases ofRat_cases (sub_nonneg.mpr le) with ⟨-, infinite⟩ | ⟨v, value, below, -⟩
    · exact .inl infinite
    · exact .inr ⟨v, value, below⟩

/-! ### Tenths -/

/-- A number is written in tenths, to which the size of its value is rounded, with its sign in
front. -/
theorem oneDecimal_of_value? {x : Binary64} {q : Rat} (value : x.value? = some q) :
    ∃ t, Rounds (10 * |q|) t ∧
      x.oneDecimal = (if x.isNegative then "-" else "") ++ writeTenths t := by
  cases x with
  | infinite negative => cases value
  | nan => cases value
  | finite negative mantissa exponent =>
    have pos := scaled_pos Nat.one_pos mantissa exponent
    have ratio := scaled_ratio mantissa 1 exponent
    refine ⟨tenths (magnitude mantissa exponent).1 (magnitude mantissa exponent).2, ?_, ?_⟩
    · have size : |q| = (mantissa : Rat) * 2 ^ exponent := by
        simp only [value?, powerOfTwo_eq, Option.some.injEq] at value
        rw [← value]
        cases negative <;> simp
      rw [Nat.cast_one, div_one, ← size] at ratio
      have tenfold : 10 * |q| = ((magnitude mantissa exponent).1 * 10 : Nat) /
          ((magnitude mantissa exponent).2 : Rat) := by
        rw [← ratio, magnitude]
        push_cast
        ring
      rw [tenfold]
      exact rounds_roundDiv pos _
    · cases negative
      · exact (String.empty_append).symm
      · rfl

end Binary64

end SocksTunnel
