import Mathlib.Order.Bounds.Basic
import Mathlib.Tactic.IntervalCases
import Mathlib.Tactic.NormNum
import SocksTunnel.Proofs.Text
import SocksTunnel.Proofs.Traffic.Bandwidth
import SocksTunnel.Size

/-!
What the text of a size shows.

A text is read back as a number and the place of its unit, and the size that it denotes is compared
with the one that it was written for.

* `read?_written` — the written form is read back.
* `shows_text`, `shows_ofInt` — a size is shown in the largest of the units that it reaches, as its
  quotient by that unit, rounded to a tenth.
* `Shows.mono` — larger sizes are not shown as smaller ones, also in another unit.
* `ofInt_cases` — below a limit a number of bytes has a text.
* `tells_ofInt` — the text of a number of bytes tells it.
* `ofInt_exact_monotone` — below `2 ^ 53` all this holds of whole numbers of bytes.
* `unit_reached_before_rounding` — the unit is chosen before the number is rounded, so 1024 of a
  unit is shown for the sizes right below the next one, and for no others.
-/

namespace SocksTunnel.Size

open SocksTunnel.Binary64 SocksTunnel.Text SocksTunnel.Traffic

/-! ### Reading -/

/-- The number that digits, a point and one more digit write. -/
def magnitude? (cs : List Char) : Option Rat :=
  let whole := cs.takeWhile (· != '.')
  match cs.dropWhile (· != '.') with
  | ['.', tenth] =>
      let digits := whole ++ [tenth]
      if !whole.isEmpty && digits.all isPlainDigit then some (plainNumber digits / 10) else none
  | _ => none

/-- The number that a text writes, perhaps with a hyphen in front. -/
def number? : List Char → Option Rat
  | '-' :: rest => (magnitude? rest).map (- ·)
  | cs => magnitude? cs

/-- A size as it is shown: a number, and the place of its unit among the units. -/
structure Shown where
  number : Rat
  place : Nat
  deriving DecidableEq

/-- The bytes that a shown size denotes. -/
def Shown.bytes (s : Shown) : Rat := s.number * 1024 ^ s.place

/-- The size that a text shows: a number, a blank and a unit. -/
def read? (s : String) : Option Shown := do
  let number ← number? (s.toList.takeWhile (· != ' '))
  let place ← units.idxOf? (String.ofList ((s.toList.dropWhile (· != ' ')).drop 1))
  return ⟨number, place⟩

theorem toList_writeTenths (t : Nat) :
    (writeTenths t).toList = decimalDigits (t / 10) ++ ['.', digitChar (t % 10)] := by
  have last : decimalDigits (t % 10) = [digitChar (t % 10)] := by
    rw [decimalDigits, if_pos (Nat.mod_lt t (by decide))]
  simp [writeTenths, decimal, last]

theorem magnitude?_writeTenths (t : Nat) :
    magnitude? (writeTenths t).toList = some ((t : Rat) / 10) := by
  have point : '.' ∉ decimalDigits (t / 10) := notMem_decimalDigits (by decide) _
  have small : t % 10 < 10 := Nat.mod_lt t (by decide)
  have front : (decimalDigits (t / 10) ++ ['.', digitChar (t % 10)]).takeWhile (· != '.') =
      decimalDigits (t / 10) := by
    rw [List.takeWhile_append_of_pos (bne_of_notMem point)]
    simp
  have back : (decimalDigits (t / 10) ++ ['.', digitChar (t % 10)]).dropWhile (· != '.') =
      ['.', digitChar (t % 10)] := by
    rw [List.dropWhile_append_of_pos (bne_of_notMem point)]
    simp
  have number : plainNumber (decimalDigits (t / 10) ++ [digitChar (t % 10)]) = t := by
    have whole := plainNumber_decimalDigits (t / 10)
    rw [plainNumber] at whole ⊢
    rw [List.foldl_append, whole, List.foldl_cons, List.foldl_nil, toNat_digitChar small]
    omega
  have digits : (decimalDigits (t / 10) ++ [digitChar (t % 10)]).all isPlainDigit = true := by
    rw [List.all_append, Bool.and_eq_true, List.all_eq_true, List.all_cons, List.all_nil,
      Bool.and_true]
    exact ⟨isPlainDigit_decimalDigits _, isPlainDigit_digitChar small⟩
  have some : (decimalDigits (t / 10)).isEmpty = false :=
    List.isEmpty_eq_false_iff.mpr (decimalDigits_ne_nil _)
  simp only [toList_writeTenths, magnitude?, front, back, digits, some, number]
  rfl

/-- The sign of a number in front of its digits. -/
def sign (negative : Bool) : String := if negative then "-" else ""

theorem number?_written (negative : Bool) (t : Nat) :
    number? ((sign negative).toList ++ (writeTenths t).toList) =
      some (if negative then -((t : Rat) / 10) else t / 10) := by
  cases negative with
  | true =>
      show (magnitude? (writeTenths t).toList).map (- ·) = _
      rw [magnitude?_writeTenths]
      rfl
  | false =>
      show number? (writeTenths t).toList = _
      have plain : number? (writeTenths t).toList = magnitude? (writeTenths t).toList := by
        rw [number?.eq_def]
        split
        · rename_i rest begins
          have first : (writeTenths t).toList.head? = some '-' := by rw [begins]; rfl
          rw [toList_writeTenths, List.head?_append_of_ne_nil _ (decimalDigits_ne_nil _)] at first
          exact absurd (List.mem_of_mem_head? first) (notMem_decimalDigits (by decide) _)
        · rfl
      rw [plain, magnitude?_writeTenths]
      rfl

/-- The place of a unit is the one at which it stands. -/
theorem idxOf?_units {unit : String} {place : Nat} (listed : units[place]? = some unit) :
    units.idxOf? unit = some place := by
  obtain ⟨bound, rfl⟩ := List.getElem?_eq_some_iff.mp listed
  have small : place < 5 := bound
  interval_cases place <;> rfl

/-- The written form of a size is read back. -/
theorem read?_written (negative : Bool) (t : Nat) {unit : String} {place : Nat}
    (listed : units[place]? = some unit) :
    read? (sign negative ++ writeTenths t ++ " " ++ unit) =
      some ⟨if negative then -((t : Rat) / 10) else t / 10, place⟩ := by
  have blank : ' ' ∉ (sign negative).toList ++ (writeTenths t).toList := by
    rw [toList_writeTenths]
    have whole : ' ' ∉ decimalDigits (t / 10) := notMem_decimalDigits (by decide) _
    have tenth : ' ' ∉ [digitChar (t % 10)] := by
      have digits := notMem_decimalDigits (c := ' ') (by decide) (t % 10)
      rwa [decimalDigits, if_pos (Nat.mod_lt t (by decide))] at digits
    cases negative <;> simp_all [sign]
  have chars : (sign negative ++ writeTenths t ++ " " ++ unit).toList =
      ((sign negative).toList ++ (writeTenths t).toList) ++ ' ' :: unit.toList := by
    simp
  have front : (sign negative ++ writeTenths t ++ " " ++ unit).toList.takeWhile (· != ' ') =
      (sign negative).toList ++ (writeTenths t).toList := by
    rw [chars, List.takeWhile_append_of_pos (bne_of_notMem blank)]
    simp
  have back : ((sign negative ++ writeTenths t ++ " " ++ unit).toList.dropWhile (· != ' ')).drop 1 =
      unit.toList := by
    rw [chars, List.dropWhile_append_of_pos (bne_of_notMem blank)]
    simp
  rw [read?, front, back, number?_written, String.ofList_toList, idxOf?_units listed]
  rfl

/-! ### The unit of a size -/

/-- The places of the units that a size reaches; any size reaches the first one. -/
def reached (q : Rat) : Set Nat := {k | k ≤ 4 ∧ (k = 0 ∨ (1024 : Rat) ^ k ≤ q)}

theorem reached_natCast (n : Nat) : reached n = {k | k ≤ 4 ∧ (k = 0 ∨ 1024 ^ k ≤ n)} := by
  have power (k : Nat) : (1024 : Rat) ^ k = (1024 ^ k : Nat) := by rw [Nat.cast_pow, Nat.cast_ofNat]
  ext k
  rw [reached, Set.mem_ofPred_eq, power, Nat.cast_le, Set.mem_ofPred_eq]

/-- A text shows a size in the unit of a place, in tenths of it. -/
structure Shows (q : Rat) (negative : Bool) (place t : Nat) (s : String) : Prop where
  unit : IsGreatest (reached q) place
  number : Rounds (10 * (q / 1024 ^ place)) t
  text : ∃ unit, units[place]? = some unit ∧ s = sign negative ++ writeTenths t ++ " " ++ unit

theorem isGreatest_reached {q : Rat} {place : Nat} (listed : place ≤ 4)
    (reaches : place = 0 ∨ (1024 : Rat) ^ place ≤ q)
    (below : place ≠ 4 → q < 1024 ^ (place + 1)) : IsGreatest (reached q) place := by
  refine ⟨⟨listed, reaches⟩, ?_⟩
  rintro k ⟨bound, first | higher⟩
  · omega
  · by_contra above
    have between : (1024 : Rat) ^ k < 1024 ^ (place + 1) := higher.trans_lt (below (by omega))
    have le := (pow_lt_pow_iff_right₀ (by norm_num : (1 : Rat) < 1024)).mp between
    omega

/-- A size below the next unit has the unit that it reaches. -/
theorem lt_of_isGreatest {q : Rat} {place : Nat} (unit : IsGreatest (reached q) place)
    (last : place ≠ 4) : q < 1024 ^ (place + 1) := by
  by_contra reaches
  have next : place + 1 ≤ place :=
    unit.2 ⟨by have := unit.1.1; omega, .inr (not_lt.mp reaches)⟩
  omega

theorem value?_step : (Binary64.ofInt step).value? = some 1024 := by
  have value := value?_ofInt (i := 1024) (by decide)
  exact_mod_cast value

/-- A size of at least one step is still a number of the format after it. -/
theorem fits_div_step {q : Rat} (fits : Fits q) (large : 1024 ≤ q) : Fits (q / 1024) := by
  obtain ⟨mantissa, exponent, rfl, small, least, greatest⟩ := fits
  have two : (2 : Rat) ≠ 0 := two_ne_zero
  have step : (1024 : Rat) = 2 ^ (10 : Int) := by norm_num
  have bound : (mantissa : Rat) < mantissaLimit := by exact_mod_cast small
  have order : (2 : Rat) ^ (10 : Int) < 2 ^ (53 + exponent) := by
    calc (2 : Rat) ^ (10 : Int) ≤ mantissa * 2 ^ exponent := step ▸ large
      _ < 2 ^ (53 : Int) * 2 ^ exponent := by
        rw [mantissaLimit_eq] at bound
        gcongr
      _ = 2 ^ (53 + exponent) := by rw [← zpow_add₀ two]
  have above := (zpow_lt_zpow_iff_right₀ (one_lt_two : (1 : Rat) < 2)).mp order
  refine ⟨mantissa, exponent - 10, ?_, small, ?_, by omega⟩
  · rw [step, mul_div_assoc, ← zpow_sub₀ two]
  · unfold leastExponent
    omega

theorem value?_div_step {x : Binary64} {q : Rat} (value : x.value? = some q) (fits : Fits q)
    (large : 1024 ≤ q) : (x.div (.ofInt step)).value? = some (q / 1024) := by
  have pos : 0 < q / 1024 := div_pos (by linarith) (by norm_num)
  apply value?_div value value?_step (by norm_num)
  rw [abs_of_pos pos]
  exact fits_div_step fits large

theorem labelled_of_value? {x : Binary64} {q : Rat} (value : x.value? = some q) (nonneg : 0 ≤ q)
    (unit : String) : ∃ t, Rounds (10 * q) t ∧
      labelled x unit = sign x.isNegative ++ writeTenths t ++ " " ++ unit := by
  obtain ⟨t, rounds, text⟩ := oneDecimal_of_value? value
  rw [abs_of_nonneg nonneg] at rounds
  refine ⟨t, rounds, ?_⟩
  rw [labelled, text]
  rfl

/-- A number is shown in the first of the units below whose next one it stays, or in the last one,
divided by as many steps as there are units in front. -/
theorem inUnits_of_value? {us : List String} (listed : us ≠ []) {x : Binary64} {q : Rat}
    (value : x.value? = some q) (nonneg : 0 ≤ q) (fits : Fits q) :
    ∃ k unit t, us[k]? = some unit ∧ (k = 0 ∨ (1024 : Rat) ^ k ≤ q) ∧
      (k + 1 < us.length → q < 1024 ^ (k + 1)) ∧ Rounds (10 * (q / 1024 ^ k)) t ∧
      inUnits x us = sign x.isNegative ++ writeTenths t ++ " " ++ unit := by
  induction us generalizing x q with
  | nil => exact absurd rfl listed
  | cons unit larger ih =>
    obtain ⟨t, rounds, text⟩ := labelled_of_value? value nonneg unit
    have rounds' : Rounds (10 * (q / 1024 ^ 0)) t := by simpa using rounds
    cases larger with
    | nil => exact ⟨0, unit, t, rfl, .inl rfl, by simp, rounds', text⟩
    | cons next others =>
      have first : inUnits x (unit :: next :: others) =
          if q < 1024 then labelled x unit
          else inUnits (x.div (.ofInt step)) (next :: others) := by
        rw [inUnits.eq_def, lt_of_value? value value?_step]
        simp
      by_cases below : q < 1024
      · rw [first, if_pos below]
        exact ⟨0, unit, t, rfl, .inl rfl, fun _ => by simpa using below, rounds', text⟩
      · have large := not_lt.mp below
        have value' := value?_div_step value fits large
        have pos : 0 < q / 1024 := div_pos (by linarith) (by norm_num)
        obtain ⟨k, unit', t', listed', reaches, limit, rounded, shown⟩ :=
          ih (List.cons_ne_nil _ _) value' pos.le (fits_div_step fits large)
        rw [first, if_neg below]
        refine ⟨k + 1, unit', t', listed', .inr ?_, ?_, ?_, ?_⟩
        · rcases reaches with rfl | reaches
          · simpa using large
          · rw [le_div_iff₀ (by norm_num)] at reaches
            rwa [pow_succ]
        · intro within
          have short := limit (by simpa using within)
          rw [div_lt_iff₀ (by norm_num)] at short
          rwa [pow_succ]
        · rwa [pow_succ', ← div_div]
        · rw [shown, isNegative_of_pos value' pos, isNegative_of_pos value (by linarith)]

/-- A number of the format is shown as a size. -/
theorem shows_text {x : Binary64} {q : Rat} (value : x.value? = some q) (nonneg : 0 ≤ q)
    (fits : Fits q) : ∃ place t, Shows q x.isNegative place t (text x) := by
  have some' : units ≠ [] := List.cons_ne_nil _ _
  obtain ⟨place, unit, t, listed, reaches, limit, rounds, shown⟩ :=
    inUnits_of_value? some' value nonneg fits
  obtain ⟨bound, -⟩ := List.getElem?_eq_some_iff.mp listed
  have places : place < 5 := bound
  refine ⟨place, t, isGreatest_reached (by omega) reaches ?_, rounds, unit, listed, shown⟩
  exact fun last => limit (by show place + 1 < 5; omega)

/-! ### Whole numbers of bytes -/

/-- A number of bytes has no sign. -/
theorem nearest_natCast (num den : Nat) :
    nearest (decide ((num : Int) < 0)) (num : Int).natAbs den = nearest false num den := by
  have unsigned : ¬(num : Int) < 0 := by omega
  rw [decide_eq_false unsigned, Int.natAbs_natCast]

theorem quotient_of_infinite {num den : Nat} {negative : Bool}
    (infinite : nearest false num den = .infinite negative) :
    quotient num den = .error .quotient := by
  rw [quotient, nearest_natCast, infinite]

/-- A quotient is computed unless its rounding is infinite. -/
theorem quotient_of_value? {num den : Nat} {v : Rat}
    (value : (nearest false num den).value? = some v) :
    quotient num den = .ok (nearest false num den) := by
  rw [← nearest_natCast] at value ⊢
  exact quotient_of_nearest value

theorem fits_quotient {n : Nat} (small : n < 2 ^ 53) : Fits ((n : Rat) / step) := by
  refine ⟨n, -10, ?_, small, by decide, by decide⟩
  norm_num [step, div_eq_mul_inv, zpow_neg]

/-- A number of bytes below `2 ^ 53` is divided by a step exactly. -/
theorem value?_step_quotient {n : Nat} (small : n < 2 ^ 53) :
    (nearest false n step).value? = some ((n : Rat) / step) := by
  have positive : 0 < step := by decide
  exact value?_nearest positive (fits_quotient small)

theorem ofInt_of_lt {n : Nat} (below : n < step) :
    ofInt n = .ok (text (Binary64.ofInt n)) ∧ (Binary64.ofInt n).value? = some (n : Rat) ∧
      (Binary64.ofInt n).isNegative = false := by
  have small : n < 2 ^ 53 := lt_trans below (by decide)
  have value : (Binary64.ofInt n).value? = some (n : Rat) := value?_ofInt (i := n) small
  refine ⟨?_, value, ?_⟩
  · rw [ofInt, if_pos (by exact_mod_cast below)]
    split
    · rename_i infinite
      rw [infinite] at value
      cases value
    · rfl
  · rcases Nat.eq_zero_or_pos n with rfl | pos
    · rfl
    · exact isNegative_of_pos value (by exact_mod_cast pos)

theorem ofInt_of_le {n : Nat} (large : step ≤ n) :
    ofInt n = (quotient n step).map fun x => inUnits x units.tail := by
  rw [ofInt, if_neg (by exact_mod_cast Nat.not_lt.mpr large)]

/-- Numbers of bytes have a text below this limit. It is `(2 ^ 54 - 1) * 2 ^ 980`, in exponents that
are evaluated. -/
def limit : Nat := (2 ^ 54 - 1) * (2 ^ 245) ^ 4

theorem lt_limit {n : Nat} (small : n < 2 ^ 53) : n < limit := by
  calc n < 2 ^ 53 := small
    _ ≤ 2 ^ 54 - 1 := by decide
    _ ≤ limit := Nat.le_mul_of_pos_right _ (pow_pos (pow_pos two_pos 245) 4)

/-- The limit is the step of the least quotient that is rounded to infinity. -/
theorem cast_limit : (limit : Rat) = overflow * step := by
  have factor : ((2 ^ 54 - 1 : Nat) : Rat) = 2 * (mantissaLimit - 1 / 2) := by
    norm_num [mantissaLimit]
  have power : (((2 ^ 245) ^ 4 : Nat) : Rat) = 2 ^ greatestExponent * 2 ^ (9 : Int) := by
    rw [← pow_mul, Nat.cast_pow, Nat.cast_ofNat, ← zpow_add₀ two_ne_zero]
    exact (zpow_natCast 2 980).symm
  rw [limit, Nat.cast_mul, factor, power, overflow]
  norm_num [step]
  ring

/-- A number of bytes has a text, unless it is too large. -/
theorem ofInt_cases (n : Nat) :
    (n < limit ∧ ∃ s, ofInt n = .ok s) ∨ (limit ≤ n ∧ ofInt n = .error .quotient) := by
  rcases Nat.lt_or_ge n step with below | large
  · exact .inl ⟨lt_limit (lt_trans below (by decide)), _, (ofInt_of_lt below).1⟩
  · have pos : 0 < n := lt_of_lt_of_le (by decide) large
    have infinite_iff : nearest false n step = .infinite false ↔ limit ≤ n := by
      rw [nearest_eq_infinite_iff pos (by decide), le_div_iff₀ (by norm_num [step]), ← cast_limit,
        Nat.cast_le]
    rw [ofInt_of_le large]
    rcases nearest_cases pos (by decide : 0 < step) false with infinite | ⟨m, e, -, -, value⟩
    · rw [quotient_of_infinite infinite]
      exact .inr ⟨infinite_iff.mp infinite, rfl⟩
    · rw [quotient_of_value? value]
      refine .inl ⟨?_, _, rfl⟩
      by_contra beyond
      rw [infinite_iff.mpr (not_lt.mp beyond)] at value
      cases value

theorem exists_ofInt {n : Nat} (small : n < limit) : ∃ s, ofInt n = .ok s := by
  rcases ofInt_cases n with ⟨-, written⟩ | ⟨large, -⟩
  · exact written
  · exact absurd small (not_lt.mpr large)

/-- A quotient of at least one step is shown in the unit behind the one of the number. -/
theorem shows_inUnits_tail {x : Binary64} {v : Rat} (value : x.value? = some v) (one : 1 ≤ v)
    (fits : Fits v) :
    ∃ place t, Shows (v * 1024) false place t (inUnits x units.tail) := by
  have some' : units.tail ≠ [] := List.cons_ne_nil _ _
  obtain ⟨k, unit, t, listed, reaches, limit, rounds, shown⟩ :=
    inUnits_of_value? some' value (by linarith) fits
  obtain ⟨bound, -⟩ := List.getElem?_eq_some_iff.mp listed
  have places : k < 4 := bound
  refine ⟨k + 1, t, ?_, ?_, unit, listed, ?_⟩
  · apply isGreatest_reached (by omega)
    · right
      rw [pow_succ]
      rcases reaches with rfl | reaches
      · gcongr
        simpa using one
      · gcongr
    · intro last
      rw [pow_succ]
      gcongr
      exact limit (by show k + 1 < 4; omega)
  · rwa [pow_succ, mul_div_mul_right _ _ (by norm_num)]
  · rw [shown, isNegative_of_pos value (by linarith)]

/-- A number of bytes is shown as a size that is not below any number of steps of the format that
the number is not below, and is near to the number. Below `2 ^ 53` it is the number itself. -/
theorem shows_ofInt {n : Nat} {s : String} (written : ofInt n = .ok s) :
    ∃ q place t, Shows q false place t s ∧ (n < 2 ^ 53 → q = n) ∧
      (∀ r, Fits r → r * 1024 ≤ n → r * 1024 ≤ q) ∧ |q - n| ≤ n / 2 ^ 52 := by
  rcases Nat.lt_or_ge n step with below | large
  · obtain ⟨text, value, unsigned⟩ := ofInt_of_lt below
    have small : n < 2 ^ 53 := lt_trans below (by decide)
    obtain ⟨place, t, shows⟩ := shows_text value (Nat.cast_nonneg n) (fits_natCast small)
    rw [text] at written
    rw [Except.ok.inj written, unsigned] at shows
    refine ⟨n, place, t, shows, fun _ => rfl, fun _ _ le => le, ?_⟩
    rw [sub_self, abs_zero]
    positivity
  · have one : (1 : Rat) * 1024 ≤ n := by
      rw [one_mul]
      exact_mod_cast large
    have steps {r : Rat} (le : r * 1024 ≤ n) : r ≤ (n : Rat) / step :=
      (le_div_iff₀ (by norm_num [step])).mpr (by exact_mod_cast le)
    have pos : 0 < n := lt_of_lt_of_le (by decide) large
    rw [ofInt_of_le large] at written
    rcases nearest_cases pos (by decide : 0 < step) false with
      infinite | ⟨m, e, rounding, fits, value⟩
    · rw [quotient_of_infinite infinite] at written
      cases written
    · rw [quotient_of_value? value] at written
      have keeps {r : Rat} (fits' : Fits r) (le : r * 1024 ≤ n) : r ≤ m * 2 ^ e :=
        rounding.le_of_fits fits' (steps le)
      have one' : 1 ≤ (m : Rat) * 2 ^ e :=
        keeps ⟨1, 0, by simp, by decide, by decide, by decide⟩ one
      obtain ⟨place, t, shows⟩ := shows_inUnits_tail value one' fits
      obtain rfl : inUnits (nearest false n step) units.tail = s := Except.ok.inj written
      refine ⟨_, place, t, shows, ?_, ?_, ?_⟩
      · intro small
        rw [Option.some.inj (value.symm.trans (value?_step_quotient small))]
        exact div_mul_cancel₀ _ (by norm_num [step])
      · intro r fits' le
        gcongr
        exact keeps fits' le
      · have near := rounding.abs_sub_le_div (steps one)
        have whole : (n : Rat) = n / step * 1024 := (div_mul_cancel₀ _ (by norm_num [step])).symm
        calc |(m : Rat) * 2 ^ e * 1024 - n| = |(n : Rat) / step - m * 2 ^ e| * 1024 := by
              rw [abs_sub_comm, whole, ← sub_mul, abs_mul, ← whole]
              norm_num
          _ ≤ n / step / 2 ^ 52 * 1024 := by gcongr
          _ = n / step * 1024 / 2 ^ 52 := by ring
          _ = n / 2 ^ 52 := congrArg (· / 2 ^ 52) whole.symm

/-! ### What is shown -/

namespace Shows

variable {p q : Rat} {negative : Bool} {place t : Nat} {s : String}

/-- The text of a size is read back as the number that it was rounded to. -/
theorem read?_eq (shows : Shows q negative place t s) (sign : negative = true → q = 0) :
    read? s = some ⟨t / 10, place⟩ := by
  obtain ⟨unit, listed, rfl⟩ := shows.text
  rw [read?_written negative t listed]
  cases negative with
  | false => rfl
  | true =>
      have zero : t = 0 := by
        have none : t ≤ 0 := shows.number.le_natCast (by simp [sign rfl])
        omega
      simp [zero]

/-- What is shown differs from the size by at most the twentieth part of the unit. -/
theorem near (shows : Shows q negative place t s) :
    |(t : Rat) / 10 * 1024 ^ place - q| ≤ 1024 ^ place / 20 := by
  have unit : (0 : Rat) < 1024 ^ place := by positivity
  obtain ⟨low, high⟩ := abs_le.mp shows.number.near
  have scaled : q = 10 * (q / 1024 ^ place) * (1024 ^ place / 10) := by
    field_simp
  rw [abs_le]
  constructor <;> nlinarith [mul_le_mul_of_nonneg_right low unit.le,
    mul_le_mul_of_nonneg_right high unit.le]

/-- At least one of a unit is shown, unless it is the first. -/
theorem one_le (shows : Shows q negative place t s) (first : place ≠ 0) : 10 ≤ t := by
  have reaches : (1024 : Rat) ^ place ≤ q := shows.unit.1.2.resolve_left first
  apply shows.number.natCast_le
  have one : 1 ≤ q / 1024 ^ place := (one_le_div (by positivity)).mpr reaches
  push_cast
  linarith

/-- No more than 1024 of a unit is shown, unless it is the last. -/
theorem le_step (shows : Shows q negative place t s) (last : place ≠ 4) : t ≤ 10240 := by
  have below := lt_of_isGreatest shows.unit last
  apply shows.number.le_natCast
  have less : q / 1024 ^ place < 1024 := by
    rw [div_lt_iff₀ (by positivity)]
    rwa [pow_succ'] at below
  push_cast
  linarith

/-- 1024 of a unit that is not the last is shown from 1023.95 of it on. -/
theorem eq_step_iff (shows : Shows q negative place t s) (last : place ≠ 4) :
    t = 10240 ↔ 1023.95 * 1024 ^ place ≤ q := by
  have most := shows.le_step last
  have reached := shows.number.le_iff_of_even (by decide : Even 10240)
  have half : ((10240 : Nat) : Rat) - 1 / 2 ≤ 10 * (q / 1024 ^ place) ↔
      1023.95 * 1024 ^ place ≤ q := by
    rw [← le_div_iff₀ (by positivity)]
    constructor <;> intro le <;> norm_num at le ⊢ <;> linarith
  rw [← half, ← reached]
  omega

/-- Larger sizes are not shown as smaller ones. -/
theorem mono {negative' : Bool} {place' t' : Nat} {s' : String}
    (shows : Shows p negative place t s) (shows' : Shows q negative' place' t' s') (le : p ≤ q) :
    (t : Rat) / 10 * 1024 ^ place ≤ t' / 10 * 1024 ^ place' := by
  have places : place ≤ place' := by
    apply shows'.unit.2
    obtain ⟨bound, reaches⟩ := shows.unit.1
    exact ⟨bound, reaches.imp_right fun reaches => reaches.trans le⟩
  rcases places.eq_or_lt with rfl | before
  · have tenths : t ≤ t' := shows.number.mono shows'.number (by gcongr)
    gcongr
  · -- The one size is shown as at most the next unit, the other one as at least its own.
    have bound : place' ≤ 4 := shows'.unit.1.1
    have most : (t : Rat) ≤ 10240 := by exact_mod_cast shows.le_step (by omega)
    have least : (10 : Rat) ≤ t' := by exact_mod_cast shows'.one_le (by omega)
    calc (t : Rat) / 10 * 1024 ^ place ≤ 1024 * 1024 ^ place := by
          gcongr
          linarith
      _ = 1024 ^ (place + 1) := (pow_succ' ..).symm
      _ ≤ 1024 ^ place' := pow_le_pow_right₀ (by norm_num) before
      _ = 1 * 1024 ^ place' := (one_mul _).symm
      _ ≤ t' / 10 * 1024 ^ place' := by
          gcongr
          linarith

end Shows

/-- Below `2 ^ 53` the text of a whole number of bytes is exact: it has the largest unit that the
number reaches, and the quotient rounded to a tenth, so that at most the twentieth part of the unit
is lost; and no smaller number has a text that denotes more. -/
theorem ofInt_exact_monotone (n : Nat) (small : n < 2 ^ 53) :
    (∃ place tenths unit, IsGreatest {k | k ≤ 4 ∧ (k = 0 ∨ 1024 ^ k ≤ n)} place ∧
      units[place]? = some unit ∧ Rounds (10 * ((n : Rat) / 1024 ^ place)) tenths ∧
      ofInt n = .ok (writeTenths tenths ++ " " ++ unit) ∧
      read? (writeTenths tenths ++ " " ++ unit) = some ⟨tenths / 10, place⟩ ∧
      |(tenths : Rat) / 10 * 1024 ^ place - n| ≤ 1024 ^ place / 20) ∧
    ∀ m ≤ n, ∃ lesser greater, ofInt m = .ok lesser ∧ ofInt n = .ok greater ∧
      ∃ shown shown', read? lesser = some shown ∧ read? greater = some shown' ∧
        shown.bytes ≤ shown'.bytes := by
  obtain ⟨s, written⟩ := exists_ofInt (lt_limit small)
  obtain ⟨q, place, tenths, shows, exact, -⟩ := shows_ofInt written
  obtain rfl := exact small
  have reads : read? s = some ⟨tenths / 10, place⟩ := shows.read?_eq (by simp)
  constructor
  · obtain ⟨unit, listed, rfl⟩ := shows.text
    rw [show sign false = "" from rfl, String.empty_append] at written reads
    exact ⟨place, tenths, unit, reached_natCast n ▸ shows.unit, listed, shows.number, written,
      reads, shows.near⟩
  · intro m le
    obtain ⟨s', written'⟩ := exists_ofInt (lt_limit (lt_of_le_of_lt le small))
    obtain ⟨q', place', tenths', shows', exact', -⟩ := shows_ofInt written'
    obtain rfl := exact' (lt_of_le_of_lt le small)
    have reads' : read? s' = some ⟨tenths' / 10, place'⟩ := shows'.read?_eq (by simp)
    exact ⟨s', s, written', written, _, _, reads', reads, shows'.mono shows (by exact_mod_cast le)⟩

/-- One byte less than a megabyte is not shown as more than a megabyte. -/
theorem ofInt_monotone_at_megabyte : 1048576 < 2 ^ 53 ∧
    ∃ lesser greater, ofInt (1048575 : Nat) = .ok lesser ∧ ofInt (1048576 : Nat) = .ok greater ∧
      ∃ shown shown', read? lesser = some shown ∧ read? greater = some shown' ∧
        shown.bytes ≤ shown'.bytes :=
  ⟨by decide, (ofInt_exact_monotone 1048576 (by decide)).2 1048575 (by omega)⟩

/-- A text tells a number of bytes: it shows a size, and is read back as what it shows. The size is
the number itself below `2 ^ 53`, and beyond that differs from it by a small part of it at most. -/
def Tells (n : Nat) (s : String) : Prop :=
  ∃ (q : Rat) (place tenths : Nat), Shows q false place tenths s ∧
    read? s = some ⟨tenths / 10, place⟩ ∧ |q - n| ≤ n / 2 ^ 52 ∧ (n < 2 ^ 53 → q = n)

/-- The text of a number of bytes tells it. -/
theorem tells_ofInt {n : Nat} {s : String} (written : ofInt n = .ok s) : Tells n s := by
  obtain ⟨q, place, tenths, shows, exact, -, near⟩ := shows_ofInt written
  exact ⟨q, place, tenths, shows, shows.read?_eq (by simp), near, exact⟩

/-- What is shown of a size in the largest unit that it reaches before its number is rounded. -/
structure InUnit (q : Rat) (shown : Shown) : Prop where
  unit : IsGreatest (reached q) shown.place
  one_le : shown.place ≠ 0 → 1 ≤ shown.number
  le_step : shown.place ≠ 4 → shown.number ≤ 1024
  eq_step_iff : shown.place ≠ 4 → (shown.number = 1024 ↔ 1023.95 * 1024 ^ shown.place ≤ q)

theorem Shows.inUnit {q : Rat} {negative : Bool} {place t : Nat} {s : String}
    (shows : Shows q negative place t s) : InUnit q ⟨t / 10, place⟩ where
  unit := shows.unit
  one_le := by
    intro first
    have least : (10 : Rat) ≤ t := by exact_mod_cast shows.one_le first
    show 1 ≤ (t : Rat) / 10
    linarith
  le_step := by
    intro last
    have most : (t : Rat) ≤ 10240 := by exact_mod_cast shows.le_step last
    show (t : Rat) / 10 ≤ 1024
    linarith
  eq_step_iff := by
    intro last
    have whole : (t : Rat) / 10 = 1024 ↔ t = 10240 := by
      rw [div_eq_iff (by norm_num)]
      norm_num
      norm_cast
    exact whole.trans (shows.eq_step_iff last)

/-- From the last unit on only the place of what is shown is fixed. -/
theorem InUnit.of_last {q r : Rat} {shown : Shown} (fine : InUnit q shown)
    (large : 1024 ^ 4 ≤ q) (large' : 1024 ^ 4 ≤ r) : InUnit r shown := by
  have last : shown.place = 4 :=
    le_antisymm fine.unit.1.1 (fine.unit.2 ⟨le_rfl, .inr large⟩)
  constructor
  case unit =>
    rw [last]
    exact ⟨⟨le_rfl, .inr large'⟩, fun _ bound => bound.1⟩
  case one_le => exact fine.one_le
  case le_step => exact fine.le_step
  case eq_step_iff => exact fun other => absurd last other

/-- A number in front of a unit that suits it: below the step unless the unit is the last one, and
at least 1 unless it is the first one. -/
def Shown.Proper (shown : Shown) : Prop :=
  (shown.place ≠ 4 → shown.number < 1024) ∧ (shown.place ≠ 0 → 1 ≤ shown.number)

/-- A size that is so close below a unit that its number is rounded up to the step. -/
def NearUnit (q : Rat) : Prop := ∃ k < 4, 1023.95 * 1024 ^ k ≤ q ∧ q < 1024 ^ (k + 1)

theorem InUnit.nearUnit_iff {q : Rat} {shown : Shown} (fine : InUnit q shown) :
    NearUnit q ↔ shown.place ≠ 4 ∧ 1023.95 * 1024 ^ shown.place ≤ q := by
  obtain ⟨⟨bound, -⟩, greatest⟩ := fine.unit
  constructor
  · rintro ⟨k, small, above, below⟩
    have least : (1024 : Rat) ^ k ≤ 1023.95 * 1024 ^ k :=
      le_mul_of_one_le_left (by positivity) (by norm_num)
    have reaches : k ∈ reached q := ⟨small.le, .inr (least.trans above)⟩
    obtain rfl : k = shown.place := by
      refine le_antisymm (greatest reaches) ?_
      by_contra beyond
      rcases fine.unit.1.2 with first | large
      · omega
      · have grows : (1024 : Rat) ^ (k + 1) ≤ 1024 ^ shown.place :=
          pow_le_pow_right₀ (by norm_num) (by omega)
        linarith
    exact ⟨small.ne, above⟩
  · rintro ⟨last, above⟩
    refine ⟨shown.place, by omega, above, ?_⟩
    by_contra large
    have further : shown.place + 1 ∈ reached q := ⟨by omega, .inr (not_lt.mp large)⟩
    have impossible := greatest further
    omega

theorem InUnit.proper_iff {q : Rat} {shown : Shown} (fine : InUnit q shown) :
    shown.Proper ↔ ¬ NearUnit q := by
  rw [fine.nearUnit_iff]
  constructor
  · rintro ⟨below, -⟩ ⟨last, above⟩
    exact absurd ((fine.eq_step_iff last).mpr above) (below last).ne
  · intro far
    refine ⟨?_, fine.one_le⟩
    intro last
    refine lt_of_le_of_ne (fine.le_step last) ?_
    intro same
    exact far ⟨last, (fine.eq_step_iff last).mp same⟩

/-- A number of bytes and its text: a whole number that is not too large, or a number of the format
that is not negative. -/
inductive Sized : Rat → String → Prop where
  | whole (n : Nat) (s : String) (written : ofInt n = .ok s) : Sized n s
  | number (x : Binary64) (q : Rat) (value : x.value? = some q) (nonneg : 0 ≤ q) (fits : Fits q) :
      Sized q (text x)

/-- The unit of a size is the largest that it reaches before its number is rounded. So the number
suits the unit just if the size is not so close below a unit that it is rounded up to it: 1024 of a
unit but the last one is shown then. -/
theorem unit_reached_before_rounding {q : Rat} {s : String} (sized : Sized q s) :
    ∃ shown, read? s = some shown ∧ InUnit q shown ∧ (shown.Proper ↔ ¬ NearUnit q) := by
  suffices read : ∃ shown, read? s = some shown ∧ InUnit q shown by
    obtain ⟨shown, reads, fine⟩ := read
    exact ⟨shown, reads, fine, fine.proper_iff⟩
  cases sized with
  | whole n s written =>
    obtain ⟨q, place, t, shows, exact, keeps, -⟩ := shows_ofInt written
    refine ⟨_, shows.read?_eq (by simp), ?_⟩
    rcases Nat.lt_or_ge n (2 ^ 53) with small | large
    · rw [← exact small]
      exact shows.inUnit
    · -- The quotient may be rounded here, but not below the last unit.
      have last : (1024 : Rat) ^ 4 ≤ n := by
        have large' : ((2 ^ 53 : Nat) : Rat) ≤ n := by exact_mod_cast large
        norm_num at large' ⊢
        linarith
      have third : Fits (1024 ^ 3) := ⟨1, 30, by norm_num, by decide, by decide, by decide⟩
      have kept := keeps (1024 ^ 3) third (by rwa [← pow_succ])
      rw [← pow_succ] at kept
      exact shows.inUnit.of_last kept last
  | number x q value nonneg fits =>
    obtain ⟨place, t, shows⟩ := shows_text value nonneg fits
    refine ⟨_, shows.read?_eq ?_, shows.inUnit⟩
    intro signed
    by_contra nonzero
    have unsigned := isNegative_of_pos value (lt_of_le_of_ne nonneg (Ne.symm nonzero))
    rw [unsigned] at signed
    cases signed

/-- A byte less than a megabyte, and half a byte. -/
theorem unit_reached_of_megabyte_and_half :
    (∃ shown, read? "1024.0 KB" = some shown ∧ (shown.Proper ↔ ¬ NearUnit (1048575 : Nat))) ∧
    ∃ shown, read? (text (.finite false 1 (-1))) = some shown ∧ InUnit (1 / 2) shown := by
  have megabyte : Sized (1048575 : Nat) "1024.0 KB" :=
    .whole 1048575 "1024.0 KB" (by decide +kernel)
  have half : Sized (1 / 2) (text (.finite false 1 (-1))) :=
    .number (.finite false 1 (-1)) (1 / 2) (by norm_num [value?, powerOfTwo_eq]) (by norm_num)
      ⟨1, -1, by norm_num, by decide, by decide, by decide⟩
  obtain ⟨shown, reads, -, proper⟩ := unit_reached_before_rounding megabyte
  obtain ⟨shown', reads', fine, -⟩ := unit_reached_before_rounding half
  exact ⟨⟨shown, reads, proper⟩, shown', reads', fine⟩

/-- The number in front of a unit does not always suit it: a byte less than a megabyte is shown as
1024 kilobytes. -/
theorem not_below_step :
    ofInt 1048575 = .ok "1024.0 KB" ∧
    ¬ ∀ (n : Nat) (s : String) (shown : Shown), ofInt n = .ok s → read? s = some shown →
      shown.Proper := by
  have written : ofInt 1048575 = .ok "1024.0 KB" := by decide +kernel
  have reads : read? "1024.0 KB" = some ⟨1024, 1⟩ := by decide +kernel
  refine ⟨written, ?_⟩
  intro proper
  have less : (1024 : Rat) < 1024 := (proper 1048575 "1024.0 KB" _ written reads).1 (by decide)
  exact lt_irrefl _ less

end SocksTunnel.Size
