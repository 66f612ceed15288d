import Mathlib.Algebra.Order.Field.Power
import Mathlib.Data.Rat.Cast.Order
import Mathlib.Tactic.Linarith
import Mathlib.Tactic.Positivity
import Mathlib.Tactic.Ring
import SchemaDelta.Number.Shortest

/-!
# Rounding intervals

The numbers that round to a double form an interval. Intervals of different doubles lie in the order
of their codes, and where two meet only one of them has the common end, since the significands of
neighbours differ in parity. The shortest decimal is looked for until one is found, and lies in the
interval, so it tells which magnitude it stands for.
-/

namespace SchemaDelta

theorem pow_toNat_eq {base : ℚ} (nonzero : base ≠ 0) (n : Int) :
    base ^ n.toNat = base ^ (-n).toNat * base ^ n := by
  rw [← zpow_natCast, ← zpow_natCast, ← zpow_add₀ nonzero]
  congr 1
  omega

theorem cast_powerOfTwo (n : Nat) : (powerOfTwo n : ℚ) = 2 ^ n := by simp [powerOfTwo]

theorem cast_powerOfTen (n : Nat) : (powerOfTen n : ℚ) = 10 ^ n := by simp [powerOfTen]

theorem powerOfTwo_pos (n : Nat) : 0 < powerOfTwo n := Nat.pow_pos (by decide)

theorem powerOfTen_pos (n : Nat) : 0 < powerOfTen n := Nat.pow_pos (by decide)

namespace Binary64

/-! ## Codes -/

section Codes

variable (x : Binary64)

/-- The number of the block of codes with one exponent. The smallest one has two runs of
fractions. -/
def block : Nat := max 1 (x.code / hiddenBit)

theorem code_eq : x.code = x.significand + (x.block - 1) * hiddenBit := by
  have positive : 0 < hiddenBit := by decide
  unfold significand block
  split
  · next small => rw [Nat.div_eq_of_lt small]; simp
  · next large =>
    have whole : 1 ≤ x.code / hiddenBit := (Nat.one_le_div_iff positive).mpr (not_lt.mp large)
    have parts := Nat.div_add_mod x.code hiddenBit
    obtain ⟨n, blocks⟩ := Nat.exists_eq_add_of_le whole
    rw [Nat.max_eq_right whole]
    rw [blocks] at parts ⊢
    rw [Nat.add_sub_cancel_left]
    linarith

theorem exponent_eq : x.exponent = (x.block : Int) - 1075 := by
  unfold exponent block
  split
  · next small => rw [Nat.div_eq_of_lt small]; rfl
  · next large =>
    have whole : 1 ≤ x.code / hiddenBit :=
      (Nat.one_le_div_iff (by decide)).mpr (not_lt.mp large)
    rw [Nat.max_eq_right whole]

theorem significand_lt : x.significand < 2 * hiddenBit := by
  have positive : 0 < hiddenBit := by decide
  have remainder := Nat.mod_lt x.code positive
  unfold significand
  split <;> omega

theorem hiddenBit_le_significand (normal : 1 < x.block) : hiddenBit ≤ x.significand := by
  unfold significand
  split
  · next small =>
    rw [block, Nat.div_eq_of_lt small] at normal
    exact absurd normal (by decide)
  · exact Nat.le_add_right _ _

theorem quartersBelow_eq :
    x.quartersBelow = if 1 < x.block ∧ x.significand = hiddenBit then 1 else 2 := by
  have powers : x.atPowerOfTwo = true ↔ 1 < x.block ∧ x.significand = hiddenBit := by
    unfold atPowerOfTwo block significand
    by_cases small : x.code < hiddenBit
    · simp [Nat.div_eq_of_lt small]
    · simp [small, and_comm]
  simp only [quartersBelow, powers]

end Codes

/-! ## Intervals -/

section Intervals

variable (x : Binary64)

/-- A quarter of the last place. -/
def quarter : ℚ := 2 ^ (x.exponent - 2)

/-- The lower end of the rounding interval. -/
def low : ℚ := (4 * x.significand - x.quartersBelow : Nat) * x.quarter

/-- The upper end of the rounding interval. -/
def high : ℚ := (4 * x.significand + 2 : Nat) * x.quarter

/-- A number rounds to a magnitude. The ends of the interval do if the significand is even. -/
def Rounds (value : ℚ) : Prop :=
  if x.significand % 2 = 0 then x.low ≤ value ∧ value ≤ x.high
  else x.low < value ∧ value < x.high

theorem quarter_pos : 0 < x.quarter := by
  unfold quarter
  positivity

variable {x} {y : Binary64} {value : ℚ}

theorem Rounds.bounds (rounds : x.Rounds value) : x.low ≤ value ∧ value ≤ x.high := by
  unfold Rounds at rounds
  split at rounds
  · exact rounds
  · exact ⟨rounds.1.le, rounds.2.le⟩

theorem Rounds.strict (rounds : x.Rounds value) (odd : x.significand % 2 ≠ 0) :
    x.low < value ∧ value < x.high := by
  rwa [Rounds, if_neg odd] at rounds

/-- Each block has quarters at least twice as long as an earlier one. -/
theorem two_mul_quarter_le (earlier : x.block < y.block) : 2 * x.quarter ≤ y.quarter := by
  have exponents : x.exponent - 2 + 1 ≤ y.exponent - 2 := by
    rw [exponent_eq, exponent_eq]
    omega
  calc
    2 * x.quarter = 2 ^ (x.exponent - 2 + 1) := by rw [zpow_add_one₀ two_ne_zero, mul_comm, quarter]
    _ ≤ y.quarter := zpow_le_zpow_right₀ one_le_two exponents

theorem block_le_of_code_lt (less : x.code < y.code) : x.block ≤ y.block :=
  max_le_max_left 1 (Nat.div_le_div_right less.le)

/-- In one block, the upper end is at most the lower end of a later code. -/
theorem quarters_of_block_eq (less : x.code < y.code) (same : x.block = y.block) :
    4 * x.significand + 2 < 4 * y.significand - y.quartersBelow ∨
      4 * x.significand + 2 = 4 * y.significand - y.quartersBelow ∧
        x.significand % 2 ≠ y.significand % 2 := by
  have codeX := x.code_eq
  have codeY := y.code_eq
  rw [← same] at codeY
  have below := y.quartersBelow_eq
  split at below <;> omega

/-- In a later block the quarters are twice as long, and so many fewer suffice. -/
theorem quarters_of_block_lt (earlier : x.block < y.block) :
    4 * x.significand + 2 < 2 * (4 * y.significand - y.quartersBelow) ∨
      4 * x.significand + 2 = 2 * (4 * y.significand - y.quartersBelow) ∧
        x.significand % 2 ≠ y.significand % 2 := by
  have even : hiddenBit = 2 * powerOfTwo 51 := by decide
  have normal : 1 < y.block := lt_of_le_of_lt (le_max_left 1 _) earlier
  have upper := x.significand_lt
  have lower := y.hiddenBit_le_significand normal
  have below := y.quartersBelow_eq
  split at below <;> omega

theorem high_lt_low_or_meet (less : x.code < y.code) :
    x.high < y.low ∨ x.high = y.low ∧ x.significand % 2 ≠ y.significand % 2 := by
  obtain ⟨times, longer, fewer⟩ : ∃ times : Nat, times * x.quarter ≤ y.quarter ∧
      (4 * x.significand + 2 < times * (4 * y.significand - y.quartersBelow) ∨
        4 * x.significand + 2 = times * (4 * y.significand - y.quartersBelow) ∧
          x.significand % 2 ≠ y.significand % 2) := by
    rcases (block_le_of_code_lt less).eq_or_lt with same | earlier
    · have equal : x.quarter = y.quarter := by rw [quarter, quarter, exponent_eq, exponent_eq, same]
      exact ⟨1, by rw [equal, Nat.cast_one, one_mul],
        by simpa using quarters_of_block_eq less same⟩
    · exact ⟨2, two_mul_quarter_le earlier, quarters_of_block_lt earlier⟩
  have scaled : ((times * (4 * y.significand - y.quartersBelow) : Nat) : ℚ) * x.quarter ≤ y.low := by
    calc
      _ = (4 * y.significand - y.quartersBelow : Nat) * (times * x.quarter) := by
        rw [Nat.cast_mul]
        ring
      _ ≤ y.low := mul_le_mul_of_nonneg_left longer (Nat.cast_nonneg _)
  rcases fewer with fewer | ⟨equal, parity⟩
  · left
    calc
      x.high < (times * (4 * y.significand - y.quartersBelow) : Nat) * x.quarter :=
        mul_lt_mul_of_pos_right (Nat.cast_lt.mpr fewer) x.quarter_pos
      _ ≤ y.low := scaled
  · rw [← equal] at scaled
    exact scaled.lt_or_eq.imp_right fun meet => ⟨meet, parity⟩

/-- A number rounds to one magnitude only. -/
theorem Rounds.code_eq (roundsX : x.Rounds value) (roundsY : y.Rounds value) :
    x.code = y.code := by
  have apart {x y : Binary64} (roundsX : x.Rounds value) (roundsY : y.Rounds value) :
      ¬ x.code < y.code := by
    intro less
    have upper := roundsX.bounds.2
    have lower := roundsY.bounds.1
    rcases high_lt_low_or_meet less with beyond | ⟨meet, parity⟩
    · exact absurd (upper.trans_lt (beyond.trans_le lower)) (lt_irrefl _)
    · -- only the one with the even significand has the common end
      by_cases odd : x.significand % 2 = 0
      · have strict := (roundsY.strict (by omega)).1
        linarith
      · have strict := (roundsX.strict odd).2
        linarith
  exact le_antisymm (not_lt.mp (apart roundsY roundsX)) (not_lt.mp (apart roundsX roundsY))

end Intervals

/-! ## Decimals -/

/-- The number that a decimal stands for. -/
def Decimal.value (d : Decimal) : ℚ := d.digits * 10 ^ d.exponent

section Grids

variable {x : Binary64}

/-- A grid of powers of ten and the quarters of the last place have a common measure. -/
theorem step_mul_quarter (x : Binary64) (k : Int) :
    ((powerOfTwo (-(x.exponent - 2)).toNat * powerOfTen k.toNat : Nat) : ℚ) * x.quarter =
      (powerOfTwo (x.exponent - 2).toNat * powerOfTen (-k).toNat : Nat) * 10 ^ k := by
  have twos := pow_toNat_eq (two_ne_zero (α := ℚ)) (x.exponent - 2)
  have tens := pow_toNat_eq (show (10 : ℚ) ≠ 0 by norm_num) k
  rw [Nat.cast_mul, Nat.cast_mul, cast_powerOfTwo, cast_powerOfTwo, cast_powerOfTen,
    cast_powerOfTen, quarter, twos, tens]
  ring

theorem roundsHere_iff {u step c : Nat} {k : Int} (positive : 0 < u)
    (measure : (step : ℚ) * x.quarter = u * 10 ^ k) :
    x.roundsHere (c * step) u = true ↔ x.Rounds (c * 10 ^ k) := by
  have scale (n : Nat) : (n : ℚ) * x.quarter * u = (n * u : Nat) * x.quarter := by
    rw [Nat.cast_mul]
    ring
  have point : (c * 10 ^ k : ℚ) * u = (c * step : Nat) * x.quarter := by
    rw [Nat.cast_mul, mul_assoc, mul_assoc, measure]
    ring
  have positiveU : (0 : ℚ) < u := Nat.cast_pos.mpr positive
  have below (n : Nat) : (n : ℚ) * x.quarter ≤ c * 10 ^ k ↔ n * u ≤ c * step := by
    rw [← mul_le_mul_iff_left₀ positiveU, scale, point, mul_le_mul_iff_left₀ x.quarter_pos,
      Nat.cast_le]
  have above (n : Nat) : (c * 10 ^ k : ℚ) ≤ n * x.quarter ↔ c * step ≤ n * u := by
    rw [← mul_le_mul_iff_left₀ positiveU, scale, point, mul_le_mul_iff_left₀ x.quarter_pos,
      Nat.cast_le]
  have strictlyBelow (n : Nat) := lt_iff_lt_of_le_iff_le (above n)
  have strictlyAbove (n : Nat) := lt_iff_lt_of_le_iff_le (below n)
  simp only [roundsHere, Rounds, low, high, beq_iff_eq]
  split
  · rw [below, above, Bool.and_eq_true, decide_eq_true_eq, decide_eq_true_eq]
  · rw [strictlyBelow, strictlyAbove, Bool.and_eq_true, decide_eq_true_eq, decide_eq_true_eq]

theorem divNearest_eq (n d : Nat) : divNearest n d = n / d ∨ divNearest n d = n / d + 1 := by
  simp only [divNearest]
  split
  · exact .inl rfl
  · split
    · exact .inr rfl
    · omega

/-- The point of a grid that is found rounds to the magnitude. -/
theorem rounds_of_gridPoint? {k : Int} {c : Nat} (found : x.gridPoint? k = some c) :
    x.Rounds (c * 10 ^ k) := by
  have measure := x.step_mul_quarter k
  have positive : 0 < powerOfTwo (x.exponent - 2).toNat * powerOfTen (-k).toNat :=
    Nat.mul_pos (powerOfTwo_pos _) (powerOfTen_pos _)
  unfold gridPoint? at found
  simp only at found
  split at found
  case h_1 below above =>
    obtain rfl := Option.some.inj found
    rcases divNearest_eq _ _ with point | point
    · rw [point]
      exact (roundsHere_iff positive measure).mp below
    · rw [point]
      exact (roundsHere_iff positive measure).mp above
  case h_2 below above =>
    obtain rfl := Option.some.inj found
    exact (roundsHere_iff positive measure).mp below
  case h_3 below above =>
    obtain rfl := Option.some.inj found
    exact (roundsHere_iff positive measure).mp above
  case h_4 => cases found

/-- The magnitude itself, in so many parts of a quarter, is in the interval. -/
theorem roundsHere_self {u : Nat} (nonzero : 0 < x.significand) (positive : 0 < u) :
    x.roundsHere (4 * x.significand * u) u = true := by
  have some_below : 0 < x.quartersBelow := by
    unfold quartersBelow
    split <;> decide
  have lower : (4 * x.significand - x.quartersBelow) * u < 4 * x.significand * u :=
    Nat.mul_lt_mul_of_pos_right (by omega) positive
  have upper : 4 * x.significand * u < (4 * x.significand + 2) * u :=
    Nat.mul_lt_mul_of_pos_right (by omega) positive
  simp only [roundsHere]
  split
  · simp [lower.le, upper.le]
  · simp [lower, upper]

theorem dvd_four_mul_powerOfTen {m n : Nat} (small : m ≤ n + 2) :
    powerOfTwo m ∣ 4 * powerOfTen n := by
  have split : 4 * powerOfTen n = 2 ^ (n + 2) * 5 ^ n := by
    change 4 * (2 * 5) ^ n = 2 ^ (n + 2) * 5 ^ n
    rw [Nat.mul_pow, Nat.pow_add]
    ring
  rw [split]
  exact dvd_mul_of_dvd_left (Nat.pow_dvd_pow 2 small) _

/-- Every magnitude is on the grid of the finest step. -/
theorem gridPoint?_finest (nonzero : 0 < x.significand) :
    (x.gridPoint? (-1074)).isSome = true := by
  have exponent := x.exponent_eq
  have first : 1 ≤ x.block := le_max_left _ _
  have small : (-(x.exponent - 2)).toNat ≤ (- -1074 : Int).toNat + 2 := by omega
  have onGrid : powerOfTwo (-(x.exponent - 2)).toNat * powerOfTen (-1074 : Int).toNat ∣
      4 * x.significand *
        (powerOfTwo (x.exponent - 2).toNat * powerOfTen (- -1074 : Int).toNat) := by
    have arranged : 4 * x.significand *
        (powerOfTwo (x.exponent - 2).toNat * powerOfTen (- -1074 : Int).toNat) =
          4 * powerOfTen (- -1074 : Int).toNat *
            (x.significand * powerOfTwo (x.exponent - 2).toNat) := by ring
    have one : powerOfTen (-1074 : Int).toNat = 1 := rfl
    rw [one, Nat.mul_one, arranged]
    exact Nat.dvd_mul_right_of_dvd (dvd_four_mul_powerOfTen small) _
  have positive : 0 < powerOfTwo (x.exponent - 2).toNat * powerOfTen (- -1074 : Int).toNat :=
    Nat.mul_pos (powerOfTwo_pos _) (powerOfTen_pos _)
  have rounds := roundsHere_self nonzero positive
  unfold gridPoint?
  simp only
  rw [Nat.div_mul_cancel onGrid, rounds]
  split <;> simp_all

theorem rounds_searchGrids {tries : Nat} {k : Int}
    (there : ∃ j < tries, (x.gridPoint? (k - j)).isSome = true) :
    x.Rounds (x.searchGrids tries k).value := by
  induction tries generalizing k with
  | zero =>
    obtain ⟨j, before, -⟩ := there
    exact absurd before (Nat.not_lt_zero j)
  | succ tries ih =>
    rw [searchGrids]
    cases found : x.gridPoint? k with
    | some c => exact rounds_of_gridPoint? found
    | none =>
      refine ih ?_
      obtain ⟨j, before, present⟩ := there
      cases j with
      | zero => simp [found] at present
      | succ j =>
        refine ⟨j, by omega, ?_⟩
        have same : k - 1 - (j : Int) = k - ((j + 1 : Nat) : Int) := by omega
        rwa [same]

/-- The shortest decimal rounds to the magnitude that it is made for. -/
theorem rounds_shortest (nonzero : 0 < x.significand) : x.Rounds x.shortest.value :=
  rounds_searchGrids ⟨1383, by decide, gridPoint?_finest nonzero⟩

end Grids

theorem significand_pos {x : Binary64} (nonzero : x.isZero = false) : 0 < x.significand := by
  have code : x.code ≠ 0 := by simpa [isZero] using nonzero
  unfold significand
  split
  · omega
  · exact Nat.add_pos_left (by decide) _

theorem shortest_digits_pos {x : Binary64} (nonzero : x.isZero = false) :
    0 < x.shortest.digits := by
  have significand := significand_pos nonzero
  have lower := (rounds_shortest significand).bounds.1
  have positive : 0 < x.low := by
    have few : x.quartersBelow ≤ 2 := by
      unfold quartersBelow
      split <;> decide
    exact mul_pos (Nat.cast_pos.mpr (by omega)) x.quarter_pos
  by_contra none
  have value : x.shortest.value = 0 := by
    rw [Decimal.value, Nat.eq_zero_of_not_pos none, Nat.cast_zero, zero_mul]
  rw [value] at lower
  exact absurd (positive.trans_le lower) (lt_irrefl _)

/-- Magnitudes with the same shortest decimal are the same. -/
theorem code_eq_of_value_eq {x y : Binary64} (nonzeroX : x.isZero = false)
    (nonzeroY : y.isZero = false) (same : x.shortest.value = y.shortest.value) :
    x.code = y.code :=
  (rounds_shortest (significand_pos nonzeroX)).code_eq
    (same ▸ rounds_shortest (significand_pos nonzeroY))

end Binary64

end SchemaDelta
