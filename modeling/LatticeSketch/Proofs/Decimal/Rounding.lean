/-
# LatticeSketch.Proofs.Decimal.Rounding -- which double a decimal rounds to

`Binary.contains` compares a decimal with the two midpoints around a double in whole numbers.
Read over the rationals it is membership in the interval between these midpoints
(`contains_iff`).  The intervals of two doubles have at most an end in common, and then one of
the mantissas is odd, so no decimal rounds to both (`eq_of_contains`).

The shortest decimal of a double rounds to it (`contains_shortest`): the search ends on a grid
that holds the value itself.  A double is therefore known from its shortest decimal
(`shortest_injective`).
-/
import LatticeSketch.Decimal.Shortest
import Mathlib.Algebra.Order.Field.Power
import Mathlib.Data.Rat.Cast.Order
import Mathlib.Tactic.FieldSimp
import Mathlib.Tactic.Linarith
import Mathlib.Tactic.NormNum
import Mathlib.Tactic.Positivity
import Mathlib.Tactic.Ring

namespace LatticeSketch.Decimal

set_option autoImplicit false

/-! ## Exact comparison -/

/-- Shifting a power out of the denominator. -/
theorem zpow_mul_pow_toNat {base : ℚ} (nonzero : base ≠ 0) (power : Int) :
    base ^ power * base ^ (-power).toNat = base ^ power.toNat := by
  rw [← zpow_natCast base (-power).toNat, ← zpow_add₀ nonzero, ← zpow_natCast base power.toNat]
  congr 1
  omega

/-- The comparison in whole numbers is the one of the rationals. -/
theorem compareScaled_eq (a : Nat) (p : Int) (b : Nat) (q : Int) :
    compareScaled a p b q = cmp ((a : ℚ) * 10 ^ p) (b * 2 ^ q) := by
  have positive : (0 : ℚ) < 10 ^ (-p).toNat * 2 ^ (-q).toNat := by positivity
  have ten := zpow_mul_pow_toNat (show (10 : ℚ) ≠ 0 by norm_num) p
  have two := zpow_mul_pow_toNat (show (2 : ℚ) ≠ 0 by norm_num) q
  have left : ((a * Nat.pow 10 p.toNat * Nat.pow 2 (-q).toNat : Nat) : ℚ) =
      a * 10 ^ p * (10 ^ (-p).toNat * 2 ^ (-q).toNat) := by
    simp only [Nat.pow_eq]
    push_cast
    rw [← ten]
    ring
  have right : ((b * Nat.pow 2 q.toNat * Nat.pow 10 (-p).toNat : Nat) : ℚ) =
      b * 2 ^ q * (10 ^ (-p).toNat * 2 ^ (-q).toNat) := by
    simp only [Nat.pow_eq]
    push_cast
    rw [← two]
    ring
  have cast : StrictMono (Nat.cast : Nat → ℚ) := Nat.strictMono_cast
  rw [compareScaled, ← cmp_eq_compare, ← cast.cmp_map_eq, left, right, cmp_mul_pos_right positive]

section Compare

variable {a b : Nat} {p q : Int}

theorem compareScaled_lt_iff : compareScaled a p b q = .lt ↔ (a : ℚ) * 10 ^ p < b * 2 ^ q := by
  rw [compareScaled_eq, cmp_eq_lt_iff]

theorem compareScaled_eq_iff : compareScaled a p b q = .eq ↔ (a : ℚ) * 10 ^ p = b * 2 ^ q := by
  rw [compareScaled_eq, cmp_eq_eq_iff]

theorem compareScaled_gt_iff : compareScaled a p b q = .gt ↔ (b : ℚ) * 2 ^ q < a * 10 ^ p := by
  rw [compareScaled_eq, cmp_eq_gt_iff]

end Compare

/-! ## Rounding intervals -/

/-- The number that a decimal stands for. -/
def Scaled.value (s : Scaled) : ℚ :=
  s.digits * 10 ^ s.power

namespace Binary

/-- The positive number that a double stands for. -/
def value (b : Binary) : ℚ :=
  b.mantissa * 2 ^ b.exponent

/-- The midpoint to the double below. -/
def low (b : Binary) : ℚ :=
  b.lowQuarters * 2 ^ (b.exponent - 2)

/-- The midpoint to the double above. -/
def high (b : Binary) : ℚ :=
  b.highQuarters * 2 ^ (b.exponent - 2)

/-- A decimal rounds to a double if it is between the midpoints, or one of them for an even
mantissa. -/
theorem contains_iff (b : Binary) (digits : Nat) (power : Int) :
    b.contains digits power = true ↔
      (b.low < (Scaled.mk digits power).value ∨
        b.low = (Scaled.mk digits power).value ∧ b.mantissa % 2 = 0) ∧
      ((Scaled.mk digits power).value < b.high ∨
        (Scaled.mk digits power).value = b.high ∧ b.mantissa % 2 = 0) := by
  simp only [contains, low, high, Scaled.value, Bool.and_eq_true, Bool.or_eq_true, beq_iff_eq,
    compareScaled_lt_iff, compareScaled_eq_iff, compareScaled_gt_iff]
  rw [eq_comm (a := (digits : ℚ) * 10 ^ power) (b := _ * 2 ^ (b.exponent - 2))]

/-! ## Doubles of one decimal -/

/-- The pairs that the bits of a double stand for: all mantissas of 53 bits, shorter ones at the
least exponent only. -/
structure Canonical (b : Binary) : Prop where
  positive : 0 < b.mantissa
  mantissa_lt : b.mantissa < 2 * Magnitude.leastMantissa
  least_le : -1074 ≤ b.exponent
  full : b.exponent = -1074 ∨ Magnitude.leastMantissa ≤ b.mantissa

/-- The order of doubles by exponent and mantissa. -/
def Before (b c : Binary) : Prop :=
  b.exponent < c.exponent ∨ (b.exponent = c.exponent ∧ b.mantissa < c.mantissa)

section Order

variable {b c : Binary} (canonical : b.Canonical) (canonical' : c.Canonical)

include canonical canonical'

/-- The upper midpoint of a double is at most the lower one of a double behind it, and if they
are the same, one of the two has an odd mantissa. -/
theorem highQuarters_le {shift : Nat} (apart : c.exponent = b.exponent + shift)
    (before : b.Before c) :
    b.highQuarters ≤ c.lowQuarters * 2 ^ shift ∧
      (b.highQuarters = c.lowQuarters * 2 ^ shift → b.mantissa % 2 = 1 ∨ c.mantissa % 2 = 1) := by
  have small := canonical.mantissa_lt
  have least := canonical.least_le
  have full := canonical'.full
  have positive := canonical'.positive
  simp only [Magnitude.leastMantissa] at small full
  unfold highQuarters lowQuarters
  cases shift with
  | zero =>
      have mantissas : b.mantissa < c.mantissa := by
        rcases before with less | ⟨-, less⟩
        · omega
        · exact less
      rw [Nat.pow_zero, Nat.mul_one]
      split <;> omega
  | succ more =>
      -- behind a lower binade the mantissa is at least the least one
      have least' : 0x10000000000000 ≤ c.mantissa := by omega
      have one : 1 ≤ 2 ^ more := Nat.one_le_two_pow
      rw [Nat.pow_succ, Nat.mul_comm (2 ^ more), ← Nat.mul_assoc]
      have step : (4 * c.mantissa - if c.startsBinade = true then 1 else 2) * 2 ≤
          (4 * c.mantissa - if c.startsBinade = true then 1 else 2) * 2 * 2 ^ more :=
        Nat.le_mul_of_pos_right _ one
      have bound : 0x7ffffffffffffe ≤
          (4 * c.mantissa - if c.startsBinade = true then 1 else 2) * 2 := by
        split <;> rename_i first
        · omega
        · have other : c.mantissa ≠ 0x10000000000000 := by
            intro same
            have lowest : c.exponent ≠ -1074 := by omega
            simp [startsBinade, Magnitude.leastMantissa, same, lowest] at first
          omega
      omega

theorem high_le_low (before : b.Before c) :
    b.high ≤ c.low ∧ (b.high = c.low → b.mantissa % 2 = 1 ∨ c.mantissa % 2 = 1) := by
  obtain ⟨shift, apart⟩ : ∃ shift : Nat, c.exponent = b.exponent + shift := by
    refine ⟨(c.exponent - b.exponent).toNat, ?_⟩
    rcases before with less | ⟨same, -⟩ <;> omega
  obtain ⟨le, odd⟩ := highQuarters_le canonical canonical' apart before
  have unit : (0 : ℚ) < 2 ^ (b.exponent - 2) := by positivity
  have low : c.low = (c.lowQuarters * 2 ^ shift : Nat) * 2 ^ (b.exponent - 2) := by
    have split : c.exponent - 2 = shift + (b.exponent - 2) := by omega
    rw [Binary.low, split, zpow_add₀ (by norm_num), zpow_natCast]
    push_cast
    ring
  rw [high, low]
  constructor
  · exact mul_le_mul_of_nonneg_right (by exact_mod_cast le) unit.le
  · intro same
    refine odd ?_
    exact_mod_cast mul_right_cancel₀ unit.ne' same

/-- No decimal rounds to two doubles. -/
theorem not_contains_of_before (before : b.Before c) {digits : Nat} {power : Int}
    (first : b.contains digits power = true) (second : c.contains digits power = true) : False := by
  obtain ⟨-, above⟩ := (contains_iff b digits power).1 first
  obtain ⟨below, -⟩ := (contains_iff c digits power).1 second
  obtain ⟨le, odd⟩ := high_le_low canonical canonical' before
  rcases above with less | ⟨same, even⟩
  · rcases below with less' | ⟨same', -⟩ <;> linarith
  · rcases below with less' | ⟨same', even'⟩
    · linarith
    · rcases odd (same.symm.trans same'.symm) with odd | odd <;> omega

theorem eq_of_contains {digits : Nat} {power : Int} (first : b.contains digits power = true)
    (second : c.contains digits power = true) : b = c := by
  by_contra different
  have apart : b.Before c ∨ c.Before b := by
    unfold Before
    by_cases exponents : b.exponent = c.exponent
    · have mantissas : b.mantissa ≠ c.mantissa := fun same =>
        different (by cases b; cases c; simp_all)
      omega
    · omega
  rcases apart with before | before
  · exact not_contains_of_before canonical canonical' before first second
  · exact not_contains_of_before canonical' canonical before second first

end Order

/-! ## The shortest decimal -/

/-- On the grid of its own exponent, or of whole numbers, a double is a decimal. -/
theorem value_floorAt (b : Binary) :
    (Scaled.mk (b.floorAt (min b.exponent 0)) (min b.exponent 0)).value = b.value := by
  obtain ⟨mantissa, exponent⟩ := b
  unfold Scaled.value value floorAt
  rcases Int.le_total 0 exponent with whole | fraction
  · obtain ⟨n, rfl⟩ := Int.eq_ofNat_of_zero_le whole
    rw [Int.min_eq_right whole]
    simp [Nat.pow_eq]
  · obtain ⟨n, rfl⟩ : ∃ n : Nat, exponent = -(n : Int) := ⟨(-exponent).toNat, by omega⟩
    have ten : (10 : Nat) ^ n = 5 ^ n * 2 ^ n := by rw [← Nat.mul_pow]
    have exact : mantissa * 10 ^ n / 2 ^ n = mantissa * 5 ^ n := by
      rw [ten, ← Nat.mul_assoc, Nat.mul_div_cancel _ (by positivity)]
    rw [Int.min_eq_left fraction]
    simp only [Nat.pow_eq, Int.neg_neg, Int.toNat_natCast, Int.toNat_neg_natCast, Nat.pow_zero,
      Nat.mul_one, Nat.one_mul, exact]
    have ten' : (10 : ℚ) ^ n = 5 ^ n * 2 ^ n := by exact_mod_cast ten
    rw [zpow_neg, zpow_neg, zpow_natCast, zpow_natCast, ten']
    push_cast
    field_simp

/-- A double is strictly between its midpoints. -/
theorem contains_of_value {b : Binary} (positive : 0 < b.mantissa) {s : Scaled}
    (same : s.value = b.value) : b.contains s.digits s.power = true := by
  have unit : (0 : ℚ) < 2 ^ (b.exponent - 2) := by positivity
  have quarters : b.value = (4 * b.mantissa : Nat) * 2 ^ (b.exponent - 2) := by
    have split : b.exponent = (2 : Nat) + (b.exponent - 2) := by omega
    rw [value, split, zpow_add₀ (by norm_num), zpow_natCast]
    push_cast
    ring_nf
  have below : b.lowQuarters < 4 * b.mantissa := by
    unfold lowQuarters
    split <;> omega
  have above : 4 * b.mantissa < b.highQuarters := Nat.lt_add_of_pos_right (by decide)
  refine (contains_iff b s.digits s.power).2 ⟨.inl ?_, .inl ?_⟩
  · rw [same, quarters]
    exact mul_lt_mul_of_pos_right (by exact_mod_cast below) unit
  · rw [same, quarters]
    exact mul_lt_mul_of_pos_right (by exact_mod_cast above) unit

/-- A hit on a grid rounds to the double. -/
theorem contains_of_onGrid? {b : Binary} {power : Int} {s : Scaled}
    (hit : b.onGrid? power = some s) : b.contains s.digits s.power = true := by
  unfold onGrid? at hit
  simp only at hit
  split at hit
  · cases hit
  · rename_i below _
    cases hit
    exact below
  · rename_i _ above
    cases hit
    exact above
  · rename_i below above
    split at hit
    · cases hit
      exact below
    · cases hit
      exact above

theorem onGrid?_ne_none {b : Binary} {power : Int}
    (below : b.contains (b.floorAt power) power = true) : b.onGrid? power ≠ none := by
  unfold onGrid?
  simp only [below]
  split
  · contradiction
  · simp
  · contradiction
  · split <;> simp

/-- A search that ends on the grid of the value finds a decimal that rounds to the double. -/
theorem contains_firstHit {b : Binary} (positive : 0 < b.mantissa) (count : Nat) (power : Int)
    (last : power - count = min b.exponent 0) :
    b.contains (b.firstHit power count).digits (b.firstHit power count).power = true := by
  induction count generalizing power with
  | zero =>
      have grid : power = min b.exponent 0 := by simpa using last
      have exact := contains_of_value positive (value_floorAt b)
      rw [← grid] at exact
      obtain ⟨s, hit⟩ := Option.ne_none_iff_exists'.1 (onGrid?_ne_none exact)
      rw [firstHit, hit, Option.getD_some]
      exact contains_of_onGrid? hit
  | succ count ih =>
      rw [firstHit]
      cases hit : b.onGrid? power with
      | none => exact ih (power - 1) (by push_cast at last; omega)
      | some s => exact contains_of_onGrid? hit

/-- The search starts above the grid of the value. -/
theorem min_le_coarsePower (b : Binary) : min b.exponent 0 ≤ b.coarsePower := by
  unfold coarsePower
  simp only
  split <;> omega

/-- The shortest decimal of a double rounds to it. -/
theorem contains_shortest {b : Binary} (positive : 0 < b.mantissa) :
    b.contains b.shortest.digits b.shortest.power = true := by
  have le := min_le_coarsePower b
  exact contains_firstHit positive _ _ (by omega)

/-- Doubles with one shortest decimal are the same. -/
theorem shortest_injective {b c : Binary} (canonical : b.Canonical) (canonical' : c.Canonical)
    (same : b.shortest = c.shortest) : b = c := by
  refine eq_of_contains canonical canonical' (contains_shortest canonical.positive) ?_
  rw [same]
  exact contains_shortest canonical'.positive

/-- The shortest decimal of a double is not zero. -/
theorem digits_shortest_pos {b : Binary} (canonical : b.Canonical) : 0 < b.shortest.digits := by
  obtain ⟨below, -⟩ := (contains_iff b _ _).1 (contains_shortest canonical.positive)
  have unit : (0 : ℚ) < 2 ^ (b.exponent - 2) := by positivity
  have low : 0 < b.low := by
    have quarters : 0 < b.lowQuarters := by
      have positive := canonical.positive
      unfold lowQuarters
      split <;> omega
    exact mul_pos (by exact_mod_cast quarters) unit
  refine Nat.pos_of_ne_zero fun zero => ?_
  have value : (Scaled.mk b.shortest.digits b.shortest.power).value = 0 := by
    simp [Scaled.value, zero]
  rw [value] at below
  rcases below with less | ⟨same, -⟩ <;> linarith

end Binary

end LatticeSketch.Decimal
