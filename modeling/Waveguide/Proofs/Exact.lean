import Mathlib
import Waveguide.Numeral

/-!
The rational numbers as the exact numbers of a layout, and what the derived operations are there.
-/

namespace Waveguide

namespace Exact

def truncate (x : ℚ) : ℤ := if x < 0 then ⌈x⌉ else ⌊x⌋

/-- The square root where it is rational, else rounded down to twenty decimals. -/
def root (x : ℚ) : ℚ :=
  if IsSquare x then Rat.sqrt x else (Nat.sqrt ⌊x * 10 ^ 40⌋₊ : ℚ) / 10 ^ 20

theorem root_mul_self (x : ℚ) : root (x * x) = |x| := by
  rw [root, if_pos ⟨x, rfl⟩, Rat.sqrt_eq]

theorem root_nonneg (x : ℚ) : 0 ≤ root x := by
  unfold root
  split
  · exact Rat.sqrt_nonneg x
  · positivity

theorem root_mul_root_le {x : ℚ} (nonneg : 0 ≤ x) : root x * root x ≤ x := by
  unfold root
  split
  · rename_i square
    obtain ⟨side, rfl⟩ := square
    rw [Rat.sqrt_eq, abs_mul_abs_self]
  · have floor : ((Nat.sqrt ⌊x * 10 ^ 40⌋₊ : ℚ)) * Nat.sqrt ⌊x * 10 ^ 40⌋₊ ≤ x * 10 ^ 40 := by
      have whole : ((Nat.sqrt ⌊x * 10 ^ 40⌋₊ * Nat.sqrt ⌊x * 10 ^ 40⌋₊ : ℕ) : ℚ) ≤
          (⌊x * 10 ^ 40⌋₊ : ℕ) := Nat.cast_le.mpr (Nat.sqrt_le _)
      rw [Nat.cast_mul] at whole
      exact whole.trans (Nat.floor_le (by positivity))
    rw [div_mul_div_comm, div_le_iff₀ (by positivity)]
    calc _ ≤ x * 10 ^ 40 := floor
      _ = x * (10 ^ 20 * 10 ^ 20) := by ring

theorem root_le_legs (a b : ℚ) : root (a * a + b * b) ≤ |a| + |b| := by
  have square := root_mul_root_le (add_nonneg (mul_self_nonneg a) (mul_self_nonneg b))
  have legs : a * a + b * b ≤ (|a| + |b|) * (|a| + |b|) := by
    have cross := mul_nonneg (abs_nonneg a) (abs_nonneg b)
    rw [← abs_mul_abs_self a, ← abs_mul_abs_self b]
    linarith
  exact (mul_self_le_mul_self_iff (root_nonneg _) (by positivity)).mpr (square.trans legs)

end Exact

instance : Scalar ℚ where
  decideLt _ _ := inferInstance
  decideLe _ _ := inferInstance
  remainder x y := x - y * Exact.truncate (x / y)
  sqrt := Exact.root
  wholeUnits x := ⌊x⌋₊

namespace Exact

def ofFigure? : Figure → Option ℚ
  | .finite value =>
      let size : ℚ := value.digits * 10 ^ value.exponent
      some (if value.negative then -size else size)
  | .infinite _ => none
  | .undefined => none

def toDecimal (x : ℚ) : Decimal :=
  let (digits, exponent) := Decimal.dropZeros 20 ⌊|x| * 10 ^ 20⌋₊ (-20)
  ⟨x < 0, digits, exponent⟩

end Exact

instance : Numeral ℚ where
  ofFigure? := Exact.ofFigure?
  toDecimal := Exact.toDecimal
  text x := (Exact.toDecimal x).positional

namespace Scalar

theorem tolerance_eq : (tolerance : ℚ) = 1 / 1000000 := by
  norm_num [tolerance]

theorem tolerance_pos : 0 < (tolerance : ℚ) := by
  norm_num [tolerance_eq]

theorem abs_eq (x : ℚ) : abs x = |x| := by
  rw [abs]
  split
  · rename_i negative
    exact (abs_of_neg negative).symm
  · rename_i nonnegative
    exact (abs_of_nonneg (not_lt.mp nonnegative)).symm

theorem minimum_eq (a b : ℚ) : minimum a b = min a b := by
  rw [minimum, if_pos (le_refl a)]
  split
  · rename_i below
    exact (min_eq_right below.le).symm
  · rename_i above
    exact (min_eq_left (not_lt.mp above)).symm

theorem maximum_eq (a b : ℚ) : maximum a b = max a b := by
  rw [maximum, if_pos (le_refl a)]
  split
  · rename_i below
    exact (max_eq_right below.le).symm
  · rename_i above
    exact (max_eq_left (not_lt.mp above)).symm

theorem ofCount_eq (count : Nat) : (ofCount count : ℚ) = count := by
  change Rat.ofScientific count false 0 = count
  simp [Rat.ofScientific_false_def]

theorem cyclicRemainder_eq (x : ℚ) {modulus : ℚ} (positive : 0 < modulus) :
    cyclicRemainder x modulus = modulus * Int.fract (x / modulus) := by
  obtain ⟨quotient, rfl⟩ : ∃ quotient, x = modulus * quotient := ⟨x / modulus, by field_simp⟩
  have cancelled : modulus * quotient / modulus = quotient := by field_simp
  change (if modulus * quotient - modulus * Exact.truncate (modulus * quotient / modulus) < 0 then
      modulus * quotient - modulus * Exact.truncate (modulus * quotient / modulus) + abs modulus
    else modulus * quotient - modulus * Exact.truncate (modulus * quotient / modulus)) = _
  rw [abs_eq, abs_of_pos positive, cancelled, ← mul_sub, Exact.truncate, ← Int.self_sub_floor]
  have below := Int.floor_le quotient
  have above := Int.lt_floor_add_one quotient
  by_cases negative : quotient < 0
  · rw [if_pos negative]
    by_cases whole : quotient = ⌊quotient⌋
    · have ceiling : (⌈quotient⌉ : ℚ) = quotient := by rw [whole]; simp
      rw [ceiling, if_neg (by simp)]
      linear_combination (-modulus) * whole
    · have ceiling : ⌈quotient⌉ = ⌊quotient⌋ + 1 := by
        rw [Int.ceil_eq_iff]
        push_cast
        exact ⟨by linarith [lt_of_le_of_ne below (Ne.symm whole)], above.le⟩
      rw [ceiling, if_pos (mul_neg_of_pos_of_neg positive (by push_cast; linarith))]
      push_cast
      ring
  · rw [if_neg negative, if_neg (not_lt.mpr (mul_nonneg positive.le (by linarith)))]

end Scalar

end Waveguide
