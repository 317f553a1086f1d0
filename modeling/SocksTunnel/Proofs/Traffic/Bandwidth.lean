import SocksTunnel.Proofs.Binary64.Rounding
import SocksTunnel.Proofs.Traffic.Window

/-!
Bandwidth as a number.

* `value?_of_quotient`, `quotient_of_fits` — a quotient that is computed is a number of the format,
  and the exact one if the format has it.
* `quotient_near` — a quotient that is not too large is computed, with a small error.
* `History.UpTo.totalInWindow` — nothing is counted in a window that begins when all buckets are
  over, and rounding its beginning does not change that.
-/

namespace SocksTunnel.Traffic

open SocksTunnel.Binary64

/-! ### Quotients -/

/-- A quotient is computed unless its rounding is infinite. -/
theorem quotient_of_nearest {n : Int} {d : Nat} {v : Rat}
    (value : (nearest (n < 0) n.natAbs d).value? = some v) :
    quotient n d = .ok (nearest (n < 0) n.natAbs d) := by
  unfold quotient
  split
  · rename_i infinite
    rw [infinite] at value
    cases value
  · rfl

/-- A quotient that is computed is a number of the format. -/
theorem value?_of_quotient {n : Int} {d : Nat} (pos : 0 < d) {x : Binary64}
    (computed : quotient n d = .ok x) : ∃ v, x.value? = some v ∧ Fits |v| := by
  unfold quotient at computed
  split at computed
  · cases computed
  · rename_i finite
    obtain rfl := Except.ok.inj computed
    rcases Nat.eq_zero_or_pos n.natAbs with none | some
    · rw [none]
      exact ⟨0, value?_zero _, by simpa using fits_zero⟩
    · rcases nearest_cases some pos (decide (n < 0)) with infinite | ⟨m, e, -, fits, value⟩
      · exact absurd infinite (finite _)
      · have size : |(m : Rat) * 2 ^ e| = m * 2 ^ e := abs_of_nonneg (by positivity)
        refine ⟨_, value, ?_⟩
        split
        · rwa [abs_neg, size]
        · rwa [size]

/-- The quotient of an integer has its sign, and the size of the quotient of its size. -/
theorem div_eq_ite (n : Int) (d : Nat) : (n : Rat) / d =
    if (decide (n < 0)) then -((n.natAbs : Rat) / d) else (n.natAbs : Rat) / d := by
  have size : (n.natAbs : Rat) = |(n : Rat)| := by rw [Nat.cast_natAbs, Int.cast_abs]
  by_cases negative : n < 0
  · have below : (n : Rat) ≤ 0 := by exact_mod_cast negative.le
    rw [if_pos (decide_eq_true negative), size, abs_of_nonpos below, neg_div, neg_neg]
  · have above : (0 : Rat) ≤ n := by exact_mod_cast not_lt.mp negative
    rw [if_neg (by simpa using negative), size, abs_of_nonneg above]

theorem abs_div_eq (n : Int) (d : Nat) : |(n : Rat) / d| = (n.natAbs : Rat) / d := by
  rw [abs_div, Nat.abs_cast, Nat.cast_natAbs, Int.cast_abs]

/-- A quotient that the format has is computed exactly. -/
theorem quotient_of_fits {n : Int} {d : Nat} (pos : 0 < d) (fits : Fits |(n : Rat) / d|) :
    ∃ x, quotient n d = .ok x ∧ x.value? = some ((n : Rat) / d) := by
  rw [abs_div_eq] at fits
  have value : (nearest (n < 0) n.natAbs d).value? = _ := value?_nearest pos fits
  rw [← div_eq_ite] at value
  exact ⟨_, quotient_of_nearest value, value⟩

/-- A quotient that is not too large is computed with an error of a sixteenth at most. -/
theorem quotient_near {n : Int} {d : Nat} (pos : 0 < d) (small : |(n : Rat) / d| ≤ 2 ^ 49) :
    ∃ x v, quotient n d = .ok x ∧ x.value? = some v ∧ |(n : Rat) / d - v| ≤ 1 / 16 := by
  rw [abs_div_eq] at small
  rcases Nat.eq_zero_or_pos n.natAbs with none | some
  · obtain rfl : n = 0 := Int.natAbs_eq_zero.mp none
    have fits : Fits |((0 : Int) : Rat) / d| := by simpa using fits_zero
    obtain ⟨x, computed, value⟩ := quotient_of_fits pos fits
    exact ⟨x, _, computed, value, by simp⟩
  · have bound : (n.natAbs : Rat) / d ≤ leastNormal * 2 ^ (-3 : Int) := by
      refine small.trans (le_of_eq ?_)
      norm_num [leastNormal]
    rcases nearest_cases some pos (decide (n < 0)) with infinite | ⟨m, e, rounding, -, value⟩
    · have large : leastNormal * 2 ^ (-3 : Int) ≤ (leastNormal : Rat) := by norm_num [leastNormal]
      exact absurd infinite (nearest_ne_infinite some pos (bound.trans large) _)
    · have near := rounding.abs_sub_le (by decide) bound
      refine ⟨_, _, quotient_of_nearest value, value, ?_⟩
      rw [div_eq_ite]
      split
      · rw [neg_sub_neg, abs_sub_comm]
        exact near.trans (by norm_num)
      · exact near.trans (by norm_num)

/-! ### Windows that begin late -/

namespace History

/-- No bucket is later than a point in time. -/
def UpTo (t : Rat) (h : History) : Prop := ∀ b ∈ h, (b.second : Rat) ≤ t

theorem UpTo.add {t : Rat} {h : History} (upTo : h.UpTo t) {second : Int} (le : (second : Rat) ≤ t)
    (bytes : Int) : (h.add bytes second).UpTo t := by
  intro b listed
  cases h with
  | nil =>
      obtain rfl := List.mem_singleton.mp listed
      exact le
  | cons newest older =>
      rw [History.add] at listed
      split at listed
      · rcases List.mem_cons.mp listed with rfl | old
        · exact le
        · exact upTo b (List.mem_cons_of_mem _ old)
      · rcases List.mem_cons.mp (List.mem_of_mem_take listed) with rfl | old
        · exact le
        · exact upTo b old

/-- A window that begins when all buckets are over has none of their bytes, also if its beginning is
rounded. -/
theorem UpTo.totalInWindow {t now : Rat} {h : History} (upTo : h.UpTo t) (fits : Fits t)
    {reading : Reading} (reads : reading.value? = some now) (late : t + window ≤ now) :
    h.totalInWindow reading = 0 := by
  have nonneg : 0 ≤ t := by
    obtain ⟨mantissa, exponent, rfl, -⟩ := fits
    positivity
  have five : (Binary64.ofInt window).value? = some (window : Rat) := by
    simpa using value?_ofInt (i := window) (by decide)
  rcases sub_cases reads five (by linarith) with infinite | ⟨start, begins, below⟩
  · rw [History.totalInWindow, infinite]
  · rw [History.totalInWindow_of_value? h begins]
    have reached : t ≤ start := below t fits (by linarith)
    exact totalAfter_of_le fun b listed => (upTo b listed).trans reached

end History

end SocksTunnel.Traffic
