import Mathlib.Algebra.Order.Field.Power
import Mathlib.Data.Rat.Floor
import Mathlib.Tactic.Linarith
import Mathlib.Tactic.Positivity
import Mathlib.Tactic.Ring
import Mathlib.Tactic.FieldSimp
import SocksTunnel.Binary64.Basic

/-!
Rounding leaves the numbers of the format alone.

* `binaryOrder_spec` — the order of a quotient is the power of two below it.
* `value?_nearest` — a quotient that the format has is its own rounding.
* `value?_sub` — so a difference that the format has is computed exactly.
* `truncate?_of_value?` — the integer part is the one of the value, toward zero.
-/

namespace SocksTunnel

namespace Binary64

/-! ### Powers of two -/

theorem powerOfTwo_eq (e : Int) : powerOfTwo e = (2 : Rat) ^ e := by
  unfold powerOfTwo
  split
  · rename_i nonneg
    obtain ⟨n, rfl⟩ := Int.eq_ofNat_of_zero_le nonneg
    simp
  · rename_i below
    obtain ⟨n, rfl⟩ : ∃ n : Nat, e = -n := ⟨(-e).toNat, by omega⟩
    simp

theorem scaled_pos {den : Nat} (pos : 0 < den) (num : Nat) (power : Int) :
    0 < (scaled num den power).2 := by
  unfold scaled
  split
  · exact pos
  · exact Nat.mul_pos pos (Nat.pow_pos (by decide))

/-- A quotient that is scaled is multiplied by the power. -/
theorem scaled_ratio (num den : Nat) (power : Int) :
    ((scaled num den power).1 : Rat) / (scaled num den power).2 = num / den * 2 ^ power := by
  unfold scaled
  split
  · rename_i nonneg
    obtain ⟨n, rfl⟩ := Int.eq_ofNat_of_zero_le nonneg
    simp only [Int.toNat_natCast, Nat.pow_eq, Nat.cast_mul, Nat.cast_pow, Nat.cast_ofNat,
      zpow_natCast]
    ring
  · rename_i below
    obtain ⟨n, rfl⟩ : ∃ n : Nat, power = -n := ⟨(-power).toNat, by omega⟩
    simp only [neg_neg, Int.toNat_natCast, Nat.pow_eq, Nat.cast_mul, Nat.cast_pow, Nat.cast_ofNat,
      zpow_neg, zpow_natCast]
    field_simp

/-! ### Rounding -/

theorem log2_bounds {n : Nat} (pos : 0 < n) :
    (2 : Rat) ^ (n.log2 : Int) ≤ n ∧ (n : Rat) < 2 ^ ((n.log2 : Int) + 1) := by
  have lower := Nat.log2_self_le (Nat.pos_iff_ne_zero.mp pos)
  have upper := Nat.lt_log2_self (n := n)
  constructor
  · rw [zpow_natCast]
    exact_mod_cast lower
  · have cast : ((n.log2 : Int) + 1) = ((n.log2 + 1 : Nat) : Int) := by push_cast; rfl
    rw [cast, zpow_natCast]
    exact_mod_cast upper

/-- A positive quotient lies between the power of two of its order and the next one. -/
theorem binaryOrder_spec {num den : Nat} (num_pos : 0 < num) (den_pos : 0 < den) :
    (2 : Rat) ^ binaryOrder num den ≤ num / den ∧
      (num : Rat) / den < 2 ^ (binaryOrder num den + 1) := by
  obtain ⟨num_lower, num_upper⟩ := log2_bounds num_pos
  obtain ⟨den_lower, den_upper⟩ := log2_bounds den_pos
  have den_pos' : (0 : Rat) < den := by exact_mod_cast den_pos
  have two : (2 : Rat) ≠ 0 := by decide
  set k : Int := (num.log2 : Int) - den.log2 with order
  have ratio := scaled_ratio num den (-k)
  have scale_pos : (0 : Rat) < (scaled num den (-k)).2 := by
    exact_mod_cast scaled_pos den_pos num (-k)
  have power_pos : (0 : Rat) < 2 ^ k := by positivity
  have unscaled : (num : Rat) / den * 2 ^ (-k) = num / den / 2 ^ k := by
    rw [zpow_neg]
    rfl
  have above : (num : Rat) / den < 2 ^ (k + 1) := by
    rw [div_lt_iff₀ den_pos']
    calc (num : Rat) < 2 ^ ((num.log2 : Int) + 1) := num_upper
      _ = 2 ^ (k + 1) * 2 ^ (den.log2 : Int) := by rw [← zpow_add₀ two]; congr 1; omega
      _ ≤ 2 ^ (k + 1) * den := by gcongr
  have below : (2 : Rat) ^ (k - 1) ≤ num / den := by
    rw [le_div_iff₀ den_pos']
    calc (2 : Rat) ^ (k - 1) * den ≤ 2 ^ (k - 1) * 2 ^ ((den.log2 : Int) + 1) := by gcongr
      _ = 2 ^ (num.log2 : Int) := by rw [← zpow_add₀ two]; congr 1; omega
      _ ≤ num := num_lower
  have reaches : (scaled num den (-k)).2 ≤ (scaled num den (-k)).1 ↔ (2 : Rat) ^ k ≤ num / den := by
    rw [← Nat.cast_le (α := Rat), ← one_le_div scale_pos, ratio, unscaled, one_le_div power_pos]
  unfold binaryOrder
  by_cases full : (2 : Rat) ^ k ≤ num / den
  · simp only [← order, if_pos (reaches.mpr full)]
    exact ⟨full, above⟩
  · simp only [← order, if_neg (mt reaches.mp full)]
    refine ⟨below, ?_⟩
    rw [sub_add_cancel]
    exact not_le.mp full

/-- A multiple is divided exactly. -/
theorem roundDiv_mul (q : Nat) {den : Nat} (pos : 0 < den) : roundDiv (q * den) den = q := by
  simp [roundDiv, Nat.mul_div_cancel q pos, Nat.mul_mod_left, pos]

/-- The magnitude is one of the format. -/
def Fits (q : Rat) : Prop :=
  ∃ (mantissa : Nat) (exponent : Int), q = mantissa * 2 ^ exponent ∧ mantissa < mantissaLimit ∧
    leastExponent ≤ exponent ∧ exponent ≤ greatestExponent

theorem mantissaLimit_eq : (mantissaLimit : Rat) = 2 ^ (53 : Int) := by
  norm_num [mantissaLimit]

/-- A quotient that the format has is its own rounding. -/
theorem value?_nearest {negative : Bool} {num den : Nat} (den_pos : 0 < den)
    (fits : Fits ((num : Rat) / den)) :
    (nearest negative num den).value? =
      some (if negative then -((num : Rat) / den) else num / den) := by
  obtain ⟨mantissa, exponent, value, small, least, greatest⟩ := fits
  by_cases none : num = 0
  · simp [none, nearest, zero, value?]
  have num_pos := Nat.pos_of_ne_zero none
  obtain ⟨lower, upper⟩ := binaryOrder_spec num_pos den_pos
  have two : (2 : Rat) ≠ 0 := by decide
  set e := max (binaryOrder num den - 52) leastExponent with chosen
  -- the exponent that is chosen is not above the one given: the mantissa is below the limit
  have order : binaryOrder num den ≤ exponent + 52 := by
    have bound : (2 : Rat) ^ binaryOrder num den < 2 ^ (exponent + 53) := by
      calc (2 : Rat) ^ binaryOrder num den ≤ mantissa * 2 ^ exponent := value ▸ lower
        _ < 2 ^ (53 : Int) * 2 ^ exponent := by
          have : (mantissa : Rat) < mantissaLimit := by exact_mod_cast small
          rw [mantissaLimit_eq] at this
          gcongr
        _ = 2 ^ (exponent + 53) := by rw [← zpow_add₀ two, add_comm]
    have := (zpow_lt_zpow_iff_right₀ (by decide : (1 : Rat) < 2)).mp bound
    omega
  have e_le : e ≤ exponent := max_le (by omega) least
  -- so the scaled quotient is a natural number below the limit
  obtain ⟨shift, rfl⟩ : ∃ shift : Nat, exponent = e + shift := ⟨(exponent - e).toNat, by omega⟩
  have whole : (num : Rat) / den * 2 ^ (-e) = (mantissa * 2 ^ shift : Nat) := by
    rw [value, mul_assoc, ← zpow_add₀ two]
    have : e + (shift : Int) + -e = shift := by omega
    rw [this, zpow_natCast]
    push_cast
    rfl
  have scale_pos := scaled_pos den_pos num (-e)
  have multiple : (scaled num den (-e)).1 = mantissa * 2 ^ shift * (scaled num den (-e)).2 := by
    have ratio := scaled_ratio num den (-e)
    rw [whole, div_eq_iff (by exact_mod_cast scale_pos.ne')] at ratio
    exact_mod_cast ratio
  have rounded : roundDiv (scaled num den (-e)).1 (scaled num den (-e)).2 =
      mantissa * 2 ^ shift := by
    rw [multiple, roundDiv_mul _ scale_pos]
  have below : mantissa * 2 ^ shift < mantissaLimit := by
    have bound : ((mantissa * 2 ^ shift : Nat) : Rat) < mantissaLimit := by
      rw [← whole, mantissaLimit_eq]
      calc (num : Rat) / den * 2 ^ (-e) < 2 ^ (binaryOrder num den + 1) * 2 ^ (-e) := by gcongr
        _ = 2 ^ (binaryOrder num den + 1 + -e) := by rw [← zpow_add₀ two]
        _ ≤ 2 ^ (53 : Int) := by
          apply zpow_le_zpow_right₀ (by decide)
          omega
    exact_mod_cast bound
  have restored : ((mantissa * 2 ^ shift : Nat) : Rat) * 2 ^ e = num / den := by
    rw [← whole, mul_assoc, ← zpow_add₀ two, neg_add_cancel, zpow_zero, mul_one]
  have kept : ¬ greatestExponent < e := by omega
  simp only [nearest, none, if_false, ← chosen, rounded, below.ne, kept, value?, powerOfTwo_eq,
    restored]

/-- A rational that the format has, up to the sign, is its own rounding. -/
theorem value?_ofRat {q : Rat} (fits : Fits |q|) : (ofRat q).value? = some q := by
  have size : ((q.num.natAbs : Nat) : Rat) / q.den = |q| := by
    rw [Nat.cast_natAbs, Int.cast_abs]
    conv_rhs => rw [← Rat.num_div_den q, abs_div, Nat.abs_cast]
  rw [ofRat, value?_nearest q.den_pos (size ▸ fits), size]
  congr 1
  by_cases negative : q.num < 0
  · rw [if_pos (by simpa using negative), abs_of_neg (Rat.num_neg.mp negative), neg_neg]
  · rw [if_neg (by simpa using negative), abs_of_nonneg (Rat.num_nonneg.mp (not_lt.mp negative))]

/-- Integers below `2 ^ 53` are numbers of the format. -/
theorem value?_ofInt {i : Int} (small : i.natAbs < mantissaLimit) :
    (ofInt i).value? = some (i : Rat) := by
  have fits : Fits ((i.natAbs : Rat) / (1 : Nat)) :=
    ⟨i.natAbs, 0, by simp, small, by decide, by decide⟩
  rw [ofInt, value?_nearest Nat.one_pos fits, Nat.cast_one, div_one, Nat.cast_natAbs, Int.cast_abs]
  congr 1
  by_cases negative : i < 0
  · rw [if_pos (by simpa using negative), abs_of_neg (by exact_mod_cast negative), neg_neg]
  · rw [if_neg (by simpa using negative), abs_of_nonneg (by exact_mod_cast not_lt.mp negative)]

/-- Below `2 ^ 53` a number of the format stays one when a natural number is taken from it. -/
theorem Fits.sub_nat {q : Rat} {n : Nat} (fits : Fits q) (above : n ≤ q)
    (below : q < mantissaLimit) : Fits (q - n) := by
  obtain ⟨mantissa, exponent, rfl, small, least, greatest⟩ := fits
  rcases le_total exponent 0 with fraction | whole
  · obtain ⟨k, rfl⟩ : ∃ k : Nat, exponent = -k := ⟨(-exponent).toNat, by omega⟩
    rw [zpow_neg, zpow_natCast, ← div_eq_mul_inv] at above ⊢
    have enough : n * 2 ^ k ≤ mantissa := by
      rw [le_div_iff₀ (by positivity)] at above
      exact_mod_cast above
    refine ⟨mantissa - n * 2 ^ k, -k, ?_, by omega, least, greatest⟩
    rw [zpow_neg, zpow_natCast]
    push_cast [enough]
    field_simp
  · obtain ⟨k, rfl⟩ := Int.eq_ofNat_of_zero_le whole
    rw [zpow_natCast] at above below ⊢
    have enough : n ≤ mantissa * 2 ^ k := by exact_mod_cast above
    have limited : mantissa * 2 ^ k < mantissaLimit := by exact_mod_cast below
    refine ⟨mantissa * 2 ^ k - n, 0, ?_, by omega, by decide, by decide⟩
    push_cast [enough]
    ring

/-! ### Operations -/

theorem value?_neg {x : Binary64} {p : Rat} (value : x.value? = some p) :
    x.neg.value? = some (-p) := by
  cases x with
  | finite negative mantissa exponent =>
      simp only [value?, Option.some.injEq] at value
      subst value
      cases negative <;> simp [neg, value?]
  | infinite negative => cases value
  | nan => cases value

/-- A sum that the format has is computed exactly. -/
theorem value?_add {x y : Binary64} {p q : Rat} (left : x.value? = some p)
    (right : y.value? = some q) (fits : Fits |p + q|) : (x.add y).value? = some (p + q) := by
  cases x with
  | infinite negative => cases left
  | nan => cases left
  | finite negative mantissa exponent =>
    cases y with
    | infinite negative => cases right
    | nan => cases right
    | finite negative' mantissa' exponent' =>
      simp only [add, left, right]
      by_cases cancel : p + q = 0
      · simp [cancel, zero, value?]
      · rw [if_neg cancel]
        exact value?_ofRat fits

/-- A difference that the format has is computed exactly. -/
theorem value?_sub {x y : Binary64} {p q : Rat} (left : x.value? = some p)
    (right : y.value? = some q) (fits : Fits |p - q|) : (x.sub y).value? = some (p - q) := by
  rw [sub_eq_add_neg] at fits ⊢
  exact value?_add left (value?_neg right) fits

/-! ### Integer parts -/

/-- The integer part of a rational, toward zero. -/
def truncation (q : Rat) : Int := if q < 0 then ⌈q⌉ else ⌊q⌋

theorem truncation_neg (q : Rat) : truncation (-q) = -truncation q := by
  unfold truncation
  rcases lt_trichotomy q 0 with below | rfl | above
  · rw [if_neg (by linarith : ¬ -q < 0), if_pos below, Int.floor_neg]
  · simp
  · rw [if_pos (by linarith : -q < 0), if_neg above.not_gt, Int.ceil_neg]

theorem truncation_div (num den : Nat) :
    truncation ((num : Rat) / den) = ((num / den : Nat) : Int) := by
  have nonneg : ¬ (num : Rat) / den < 0 := not_lt.mpr (by positivity)
  rw [truncation, if_neg nonneg]
  exact_mod_cast Rat.floor_natCast_div_natCast num den

theorem truncation_mono {p q : Rat} (le : p ≤ q) : truncation p ≤ truncation q := by
  unfold truncation
  by_cases left : p < 0
  · by_cases right : q < 0
    · rw [if_pos left, if_pos right]
      exact Int.ceil_le_ceil le
    · rw [if_pos left, if_neg right]
      have ceil_nonpos : ⌈p⌉ ≤ 0 := Int.ceil_le.mpr (by simpa using left.le)
      exact ceil_nonpos.trans (Int.floor_nonneg.mpr (not_lt.mp right))
  · have right : ¬ q < 0 := fun below => left (le.trans_lt below)
    rw [if_neg left, if_neg right]
    exact Int.floor_le_floor le

theorem truncation_lt (q : Rat) : (truncation q : Rat) < q + 1 := by
  unfold truncation
  split
  · exact Int.ceil_lt_add_one q
  · linarith [Int.floor_le q]

/-- The integer part of a number is the one of its value. -/
theorem truncate?_of_value? {x : Binary64} {q : Rat} (value : x.value? = some q) :
    x.truncate? = some (truncation q) := by
  cases x with
  | infinite negative => cases value
  | nan => cases value
  | finite negative mantissa exponent =>
      have ratio := scaled_ratio mantissa 1 exponent
      rw [Nat.cast_one, div_one, ← powerOfTwo_eq] at ratio
      simp only [value?, ← ratio, Option.some.injEq] at value
      subst value
      cases negative <;> simp [truncate?, magnitude, truncation_neg, truncation_div]

end Binary64

end SocksTunnel
