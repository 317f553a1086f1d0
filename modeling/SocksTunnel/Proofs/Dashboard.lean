import Mathlib.Tactic.NormNum
import SocksTunnel.Dashboard
import SocksTunnel.Proofs.Traffic.Bandwidth

/-!
What a dashboard shows of a bandwidth that it looks at again and again.

* `shownAfter` — what is shown after looks at a value; it was seen (`shownAfter_mem`), it is near
  the value at the last look (`not_far_steady`), and it moves only away from what was far
  (`far_of_steady_ne`).
* `lt_of_farApart`, `abs_sub_lt_of_not_farApart` — bandwidths that are found to be far apart are
  more than the threshold apart, and the others no more than it but for the rounding of a distance.
* `farApart_eq_beyond`, `farApart_of_clear` — rounding does not matter to distances that the format
  has, nor to bandwidths for totals that are not too large, unless the threshold is met exactly.
-/

namespace SocksTunnel

open SocksTunnel.Binary64 SocksTunnel.Traffic

/-! ### Looking again and again -/

/-- What is shown of a value after looks at it. -/
def shownAfter {α : Type} (far : α → α → Bool) (start : α) (looks : List α) : α :=
  looks.foldl (steady far) start

section Looks

variable {α : Type} {far : α → α → Bool}

theorem shownAfter_append_singleton (start : α) (looks : List α) (current : α) :
    shownAfter far start (looks ++ [current]) =
      steady far (shownAfter far start looks) current := by
  simp [shownAfter]

/-- What is shown is not far from the current value. -/
theorem not_far_steady (irreflexive : ∀ x, far x x = false) (shown current : α) :
    far current (steady far shown current) = false := by
  unfold steady
  split
  · exact irreflexive current
  · rename_i near
    exact Bool.eq_false_iff.mpr near

/-- What is shown changes only if it is far from the current value. -/
theorem far_of_steady_ne {shown current : α} (changed : steady far shown current ≠ shown) :
    far current shown = true := by
  by_contra near
  exact changed (if_neg near)

/-- What is shown was shown at the start or seen in a look. -/
theorem shownAfter_mem (start : α) (looks : List α) :
    shownAfter far start looks ∈ start :: looks := by
  induction looks using List.reverseRecOn with
  | nil => exact List.mem_cons_self
  | append_singleton looks current ih =>
      rw [shownAfter_append_singleton, steady]
      split
      · simp
      · exact List.mem_append_left [current] ih

/-- Looks at images show the image of what is shown, if they are found to be as far apart. -/
theorem shownAfter_map {β : Type} {far' : β → β → Bool} (f : α → β) {start : α} {looks : List α}
    (same : ∀ x ∈ looks, ∀ y ∈ start :: looks, far' (f x) (f y) = far x y) :
    shownAfter far' (f start) (looks.map f) = f (shownAfter far start looks) := by
  induction looks using List.reverseRecOn with
  | nil => rfl
  | append_singleton looks current ih =>
      have before : shownAfter far' (f start) (looks.map f) = f (shownAfter far start looks) :=
        ih fun x listed y listed' =>
          same x (List.mem_append_left _ listed) y (List.mem_append_left [current] listed')
      have measured : far' (f current) (f (shownAfter far start looks)) =
          far current (shownAfter far start looks) :=
        same current (by simp) _ (List.mem_append_left [current] (shownAfter_mem start looks))
      rw [List.map_append, List.map_singleton, shownAfter_append_singleton,
        shownAfter_append_singleton, before, steady, steady, measured, apply_ite f]

end Looks

namespace Dashboard

/-! ### Distances -/

/-- Whether two exact bandwidths differ by more than the threshold. -/
def beyond (p q : Rat) : Bool := 100 < |p - q|

theorem beyond_self (p : Rat) : beyond p p = false := by
  simp [beyond]

theorem value?_threshold : threshold.value? = some 100 := by
  have value := value?_ofInt (i := 100) (by decide)
  exact_mod_cast value

section Distances

variable {x y : Binary64} {p q : Rat} (left : x.value? = some p) (right : y.value? = some q)
include left right

/-- Bandwidths that are found to be far apart are more than the threshold apart. -/
theorem lt_of_farApart (far : farApart x y = true) : 100 < |p - q| := by
  rw [farApart, abs_sub_of_value? left right] at far
  rcases ofRat_cases (abs_nonneg (p - q)) with ⟨large, -⟩ | ⟨v, value, -, above⟩
  · exact lt_trans (by norm_num [leastNormal]) large
  · rw [lt_of_value? value?_threshold value, decide_eq_true_eq] at far
    by_contra near
    exact (above 100 (by decide) (by exact_mod_cast not_lt.mp near)).not_gt (by exact_mod_cast far)

/-- Bandwidths that are not found to be far apart differ by less than the number of the format that
is next to the threshold. -/
theorem abs_sub_lt_of_not_farApart (near : farApart x y = false) : |p - q| < 100 + 1 / 2 ^ 46 := by
  have next : Fits (100 + 1 / 2 ^ 46) :=
    ⟨100 * 2 ^ 46 + 1, -46, by norm_num, by decide, by decide, by decide⟩
  rw [farApart, abs_sub_of_value? left right] at near
  rcases ofRat_cases (abs_nonneg (p - q)) with ⟨-, infinite⟩ | ⟨v, value, below, -⟩
  · rw [infinite] at near
    cases near
  · rw [lt_of_value? value?_threshold value, decide_eq_false_iff_not] at near
    by_contra far
    have reached := below _ next (not_lt.mp far)
    exact near (lt_of_lt_of_le (by norm_num) reached)

/-- A distance is measured exactly if it is a number of the format. -/
theorem farApart_eq_beyond (fits : Fits |p - q|) : farApart x y = beyond p q := by
  have value : (ofRat |p - q|).value? = some |p - q| := value?_ofRat (by rwa [abs_abs])
  rw [farApart, abs_sub_of_value? left right, lt_of_value? value?_threshold value, beyond]

/-- Numbers that are near others are found to be far apart just if those are, unless those are about
the threshold apart. -/
theorem farApart_of_near {a b : Rat} (near : |a - p| ≤ 1 / 16) (near' : |b - q| ≤ 1 / 16)
    (decided : |a - b| ≤ 100 - 1 / 8 ∨ 100 + 3 / 16 ≤ |a - b|) : farApart x y = beyond a b := by
  have close : |p - q - (a - b)| ≤ 1 / 8 := by
    rw [abs_le] at near near' ⊢
    constructor <;> linarith
  rcases decided with less | more
  · have exactly : beyond a b = false := by
      rw [beyond, decide_eq_false_iff_not]
      linarith
    rw [exactly]
    by_contra far
    have found := lt_of_farApart left right (Bool.eq_true_of_not_eq_false far)
    have rounded := abs_sub_abs_le_abs_sub (p - q) (a - b)
    linarith
  · have exactly : beyond a b = true := by
      rw [beyond, decide_eq_true_eq]
      linarith
    rw [exactly]
    by_contra near
    have found := abs_sub_lt_of_not_farApart left right (Bool.eq_false_of_not_eq_true near)
    have rounded := abs_sub_abs_le_abs_sub (a - b) (p - q)
    rw [abs_sub_comm] at close
    linarith

end Distances

/-- Nothing is far from itself, also what is no number. -/
theorem farApart_self (x : Binary64) : farApart x x = false := by
  cases x with
  | finite negative mantissa exponent =>
      obtain ⟨p, value⟩ : ∃ p, (finite negative mantissa exponent).value? = some p := ⟨_, rfl⟩
      have same : |p - p| = 0 := by rw [sub_self, abs_zero]
      rw [farApart_eq_beyond value value (same ▸ fits_zero), beyond_self]
  | infinite negative => cases negative <;> rfl
  | nan => rfl

/-! ### Bandwidths of totals -/

/-- The exact bandwidth for the total of a window. -/
def rateOf (total : Int) : Rat := total / History.window

theorem abs_rateOf_sub (n k : Int) : |rateOf n - rateOf k| = (|n - k| : Int) / 5 := by
  have five : |((History.window : Nat) : Rat)| = 5 := by norm_num [History.window]
  rw [rateOf, rateOf, ← sub_div, abs_div, five]
  norm_cast

/-- Totals that are not too large, and whose bandwidths are whole if they are the threshold apart,
where the rounding of a bandwidth would decide. -/
structure Clear (n k : Int) : Prop where
  small : |n| ≤ 2 ^ 50
  small' : |k| ≤ 2 ^ 50
  whole : |n - k| = 100 * History.window → (History.window : Int) ∣ n

theorem bandwidth_near {n : Int} (small : |n| ≤ 2 ^ 50) :
    ∃ x p, quotient n History.window = .ok x ∧ x.value? = some p ∧ |rateOf n - p| ≤ 1 / 16 := by
  apply quotient_near (by decide)
  have size := abs_rateOf_sub n 0
  have small' : ((|n| : Int) : Rat) ≤ 2 ^ 50 := by exact_mod_cast small
  simp only [rateOf, Int.cast_zero, zero_div, sub_zero] at size
  rw [size]
  linarith

theorem bandwidth_of_whole {n : Int} (small : |n| ≤ 2 ^ 50) (whole : (History.window : Int) ∣ n) :
    ∃ x, quotient n History.window = .ok x ∧ x.value? = some (rateOf n) := by
  apply quotient_of_fits (by decide)
  obtain ⟨k, rfl⟩ := whole
  have is : |((History.window * k : Int) : Rat) / History.window| = (k.natAbs : Nat) := by
    rw [Int.cast_mul, Int.cast_natCast, mul_div_cancel_left₀ _ (by norm_num [History.window]),
      Nat.cast_natAbs, Int.cast_abs]
  rw [is]
  have bounds := abs_le.mp small
  simp only [History.window] at bounds
  exact fits_natCast (by omega)

section Totals

variable {n k : Int} {x y : Binary64} (small : |n| ≤ 2 ^ 50) (small' : |k| ≤ 2 ^ 50)
  (left : quotient n History.window = .ok x) (right : quotient k History.window = .ok y)
include small small' left right

theorem farApart_of_whole (whole : (History.window : Int) ∣ n)
    (tie : |n - k| = 100 * History.window) : farApart x y = beyond (rateOf n) (rateOf k) := by
  have whole' : (History.window : Int) ∣ k := by
    simp only [History.window] at whole tie ⊢
    rcases (abs_eq (by decide)).mp tie with above | below <;> omega
  obtain ⟨x', computed, value⟩ := bandwidth_of_whole small whole
  obtain ⟨y', computed', value'⟩ := bandwidth_of_whole small' whole'
  obtain rfl : x' = x := Except.ok.inj (computed.symm.trans left)
  obtain rfl : y' = y := Except.ok.inj (computed'.symm.trans right)
  apply farApart_eq_beyond value value'
  have hundred : |rateOf n - rateOf k| = (100 : Nat) := by
    rw [abs_rateOf_sub, tie]
    norm_num [History.window]
  rw [hundred]
  exact fits_natCast (by decide)

/-- Exact bandwidths that are not the threshold apart miss it by a fifth, and rounding does not
matter. -/
theorem farApart_of_ne (apart : |n - k| ≠ 100 * History.window) :
    farApart x y = beyond (rateOf n) (rateOf k) := by
  obtain ⟨x', p, computed, value, near⟩ := bandwidth_near small
  obtain ⟨y', q, computed', value', near'⟩ := bandwidth_near small'
  obtain rfl : x' = x := Except.ok.inj (computed.symm.trans left)
  obtain rfl : y' = y := Except.ok.inj (computed'.symm.trans right)
  apply farApart_of_near value value' near near'
  rw [abs_rateOf_sub]
  simp only [History.window] at apart
  rcases lt_or_gt_of_ne apart with less | more
  · left
    have few : ((|n - k| : Int) : Rat) ≤ 499 := by exact_mod_cast Int.le_sub_one_of_lt less
    linarith
  · right
    have many : 501 ≤ ((|n - k| : Int) : Rat) := by exact_mod_cast Int.add_one_le_of_lt more
    linarith

end Totals

/-- Bandwidths of clear totals are found to be far apart just if the exact ones are. -/
theorem farApart_of_clear {n k : Int} (clear : Clear n k) {x y : Binary64}
    (left : quotient n History.window = .ok x) (right : quotient k History.window = .ok y) :
    farApart x y = beyond (rateOf n) (rateOf k) := by
  by_cases tie : |n - k| = 100 * History.window
  · exact farApart_of_whole clear.small clear.small' left right (clear.whole tie) tie
  · exact farApart_of_ne clear.small clear.small' left right tie

/-! ### Rows -/

/-- The bandwidth that is shown is the one that is drawn. -/
theorem bandwidth_mem_rows {d : Dashboard} {stats : Stats} {now : Reading} {elapsed : Binary64}
    {drawn : List (String × String)} (rows : d.rows stats now elapsed = .ok drawn) :
    ∃ frame : Char, ("Bandwidth", frame.toString ++ " " ++ Size.text d.shown ++ "/s") ∈ drawn := by
  simp only [Dashboard.rows, bind, Except.bind] at rows
  split at rows
  · cases rows
  · rename_i frame _
    split at rows
    · cases rows
    · split at rows
      · cases rows
      · split at rows
        · cases rows
        · obtain rfl := Except.ok.inj rows
          exact ⟨frame, by simp⟩

end Dashboard

end SocksTunnel
