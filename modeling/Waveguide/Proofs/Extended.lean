import Mathlib
import Waveguide.Proofs.Exact

/-!
Exact numbers with two infinities and a value that is not a number. They follow the rules of binary
floating point where these do not round: an operation without a result gives the value that is not
a number, every operation hands it on, and no comparison with it holds. There is one zero.
-/

namespace Waveguide

inductive Extended where
  | finite (value : ℚ)
  | infinite (negative : Bool)
  | undefined
  deriving DecidableEq

namespace Extended

def neg : Extended → Extended
  | finite a => finite (-a)
  | infinite negative => infinite !negative
  | undefined => undefined

def add : Extended → Extended → Extended
  | finite a, finite b => finite (a + b)
  | finite _, infinite negative => infinite negative
  | infinite negative, finite _ => infinite negative
  | infinite a, infinite b => if a = b then infinite a else undefined
  | undefined, _ => undefined
  | _, undefined => undefined

def mul : Extended → Extended → Extended
  | finite a, finite b => finite (a * b)
  | finite a, infinite negative => if a = 0 then undefined else infinite (negative ^^ decide (a < 0))
  | infinite negative, finite a => if a = 0 then undefined else infinite (negative ^^ decide (a < 0))
  | infinite a, infinite b => infinite (a ^^ b)
  | undefined, _ => undefined
  | _, undefined => undefined

def div : Extended → Extended → Extended
  | finite a, finite b =>
      if b ≠ 0 then finite (a / b) else if a = 0 then undefined else infinite (decide (a < 0))
  | finite _, infinite _ => finite 0
  | infinite negative, finite b => infinite (negative ^^ decide (b < 0))
  | infinite _, infinite _ => undefined
  | undefined, _ => undefined
  | _, undefined => undefined

def lt : Extended → Extended → Bool
  | finite a, finite b => decide (a < b)
  | finite _, infinite negative => !negative
  | infinite negative, finite _ => negative
  | infinite a, infinite b => a && !b
  | undefined, _ => false
  | _, undefined => false

def le : Extended → Extended → Bool
  | finite a, finite b => decide (a ≤ b)
  | finite _, infinite negative => !negative
  | infinite negative, finite _ => negative
  | infinite a, infinite b => a || !b
  | undefined, _ => false
  | _, undefined => false

def remainder : Extended → Extended → Extended
  | finite a, finite b => if b = 0 then undefined else finite (Scalar.remainder a b)
  | finite a, infinite _ => finite a
  | infinite _, _ => undefined
  | undefined, _ => undefined
  | _, undefined => undefined

def sqrt : Extended → Extended
  | finite a => if a < 0 then undefined else finite (Scalar.sqrt a)
  | infinite false => infinite false
  | infinite true => undefined
  | undefined => undefined

/-- Saturates like a conversion to 64 bits, which takes a value that is not a number to zero. -/
def wholeUnits : Extended → Nat
  | finite a => min (Scalar.wholeUnits a) (2 ^ 64 - 1)
  | infinite false => 2 ^ 64 - 1
  | infinite true => 0
  | undefined => 0

instance : Scalar Extended where
  add := add
  sub a b := add a (neg b)
  mul := mul
  div := div
  neg := neg
  zero := finite 0
  one := finite 1
  lt a b := lt a b
  le a b := le a b
  ofScientific digits negative exponent := finite (OfScientific.ofScientific digits negative exponent)
  decideLt a b := inferInstanceAs (Decidable (lt a b = true))
  decideLe a b := inferInstanceAs (Decidable (le a b = true))
  remainder := remainder
  sqrt := sqrt
  wholeUnits := wholeUnits

def IsNumber (x : Extended) : Prop := x ≠ undefined

def IsFinite (x : Extended) : Prop := ∃ value, x = finite value

instance (x : Extended) : Decidable x.IsNumber := inferInstanceAs (Decidable (x ≠ undefined))

section Rules

@[simp] theorem zero_eq : (0 : Extended) = finite 0 := rfl

@[simp] theorem one_eq : (1 : Extended) = finite 1 := rfl

@[simp] theorem tolerance_eq : (Scalar.tolerance : Extended) = finite Scalar.tolerance := rfl

@[simp] theorem two_eq : (2.0 : Extended) = finite 2 := by
  change finite (2.0 : ℚ) = finite 2
  norm_num

@[simp] theorem isNumber_finite (a : ℚ) : (finite a).IsNumber := Extended.noConfusion

@[simp] theorem isNumber_infinite (negative : Bool) : (infinite negative).IsNumber :=
  Extended.noConfusion

@[simp] theorem isNumber_undefined : ¬ undefined.IsNumber := fun number => number rfl

@[simp] theorem isFinite_finite (a : ℚ) : (finite a).IsFinite := ⟨a, rfl⟩

@[simp] theorem isFinite_infinite (negative : Bool) : ¬ (infinite negative).IsFinite := by
  rintro ⟨a, impossible⟩
  contradiction

@[simp] theorem isFinite_undefined : ¬ undefined.IsFinite := by
  rintro ⟨a, impossible⟩
  contradiction

@[simp] theorem neg_finite (a : ℚ) : -finite a = finite (-a) := rfl

@[simp] theorem neg_infinite (negative : Bool) : -infinite negative = infinite !negative := rfl

@[simp] theorem neg_undefined : -undefined = undefined := rfl

theorem sub_eq (x y : Extended) : x - y = x + -y := rfl

@[simp] theorem add_finite (a b : ℚ) : finite a + finite b = finite (a + b) := rfl

@[simp] theorem sub_finite (a b : ℚ) : finite a - finite b = finite (a - b) :=
  congrArg finite (sub_eq_add_neg a b).symm

@[simp] theorem add_infinite (a b : Bool) :
    infinite a + infinite b = if a = b then infinite a else undefined := rfl

@[simp] theorem finite_add_infinite (a : ℚ) (negative : Bool) :
    finite a + infinite negative = infinite negative := rfl

@[simp] theorem infinite_add_finite (negative : Bool) (a : ℚ) :
    infinite negative + finite a = infinite negative := rfl

@[simp] theorem undefined_add (x : Extended) : undefined + x = undefined := rfl

@[simp] theorem add_undefined (x : Extended) : x + undefined = undefined := by cases x <;> rfl

@[simp] theorem half_finite (a : ℚ) : finite a / finite 2 = finite (a / 2) := rfl

@[simp] theorem half_infinite (negative : Bool) :
    infinite negative / finite 2 = infinite negative :=
  congrArg infinite (Bool.xor_false negative)

@[simp] theorem half_undefined : undefined / finite 2 = undefined := rfl

@[simp] theorem lt_finite (a b : ℚ) : finite a < finite b ↔ a < b := decide_eq_true_iff

@[simp] theorem le_finite (a b : ℚ) : finite a ≤ finite b ↔ a ≤ b := decide_eq_true_iff

@[simp] theorem finite_lt_infinite (a : ℚ) (negative : Bool) :
    finite a < infinite negative ↔ negative = false := by
  change (!negative) = true ↔ _
  simp

@[simp] theorem infinite_lt_finite (negative : Bool) (a : ℚ) :
    infinite negative < finite a ↔ negative = true := Iff.rfl

@[simp] theorem infinite_lt_infinite (a b : Bool) :
    infinite a < infinite b ↔ a = true ∧ b = false := by
  change (a && !b) = true ↔ _
  simp

@[simp] theorem undefined_lt (x : Extended) : ¬ undefined < x := Bool.false_ne_true

@[simp] theorem lt_undefined (x : Extended) : ¬ x < undefined := by
  cases x <;> exact Bool.false_ne_true

@[simp] theorem abs_finite (a : ℚ) : Scalar.abs (finite a) = finite (Scalar.abs a) := by
  simp only [Scalar.abs, zero_eq, lt_finite, neg_finite, apply_ite finite]

@[simp] theorem abs_infinite (negative : Bool) :
    Scalar.abs (infinite negative) = infinite false := by
  cases negative <;> rfl

@[simp] theorem abs_undefined : Scalar.abs undefined = undefined := rfl

theorem cyclicRemainder_finite (a : ℚ) {b : ℚ} (divisor : b ≠ 0) :
    Scalar.cyclicRemainder (finite a) (finite b) = finite (Scalar.cyclicRemainder a b) := by
  have rest : Scalar.remainder (finite a) (finite b) = finite (Scalar.remainder a b) :=
    if_neg divisor
  simp only [Scalar.cyclicRemainder, rest, zero_eq, lt_finite, abs_finite, add_finite,
    apply_ite finite]

end Rules

section Order

variable {x y : Extended}

theorem le_iff : x ≤ y ↔ x.IsNumber ∧ y.IsNumber ∧ ¬ y < x := by
  cases x with
  | finite a =>
      cases y with
      | finite b => simp
      | infinite negative => cases negative <;> simp [LE.le, le]
      | undefined => simp [LE.le, le]
  | infinite negative =>
      cases y with
      | finite b => cases negative <;> simp [LE.le, le]
      | infinite other => cases negative <;> cases other <;> simp [LE.le, le]
      | undefined => simp [LE.le, le]
  | undefined => simp [LE.le, le]

theorem le_iff_of_not_lt (admitted : ¬ y < x) : x ≤ y ↔ x.IsNumber ∧ y.IsNumber := by
  rw [le_iff, and_iff_left admitted]

theorem nonneg_iff (admitted : ¬ x < 0) : 0 ≤ x ↔ x.IsNumber :=
  (le_iff_of_not_lt admitted).trans (and_iff_right (isNumber_finite 0))

theorem isNumber_of_lt (less : x < y) : x.IsNumber ∧ y.IsNumber := by
  constructor
  · rintro rfl
    exact undefined_lt y less
  · rintro rfl
    exact lt_undefined x less

theorem cases_of_not_neg (admitted : ¬ x < 0) :
    (∃ a, 0 ≤ a ∧ x = finite a) ∨ x = infinite false ∨ x = undefined := by
  cases x with
  | finite a => exact Or.inl ⟨a, not_lt.mp fun negative => admitted ((lt_finite a 0).mpr negative), rfl⟩
  | infinite negative =>
      cases negative with
      | false => exact Or.inr (Or.inl rfl)
      | true => exact absurd rfl admitted
  | undefined => exact Or.inr (Or.inr rfl)

theorem half_not_neg (admitted : ¬ x < 0) : ¬ x / 2.0 < 0 := by
  obtain ⟨a, nonneg, rfl⟩ | rfl | rfl := cases_of_not_neg admitted
  · simpa using div_nonneg nonneg zero_le_two
  · simp
  · simp

theorem add_not_neg (first : ¬ x < 0) (second : ¬ y < 0) :
    ¬ x + y < 0 ∧ ¬ x + y < x ∧ ((x + y).IsNumber ↔ x.IsNumber ∧ y.IsNumber) := by
  obtain ⟨a, nonneg, rfl⟩ | rfl | rfl := cases_of_not_neg first
  · obtain ⟨b, more, rfl⟩ | rfl | rfl := cases_of_not_neg second
    · simpa using ⟨add_nonneg nonneg more, more⟩
    · simp
    · simp
  · obtain ⟨b, more, rfl⟩ | rfl | rfl := cases_of_not_neg second
    · simp
    · simp
    · simp
  · simp

theorem half_isNumber (x : Extended) : (x / 2.0).IsNumber ↔ x.IsNumber := by
  cases x <;> simp

theorem sub_finite_isNumber (x : Extended) (a : ℚ) : (x - finite a).IsNumber ↔ x.IsNumber := by
  cases x <;> simp [sub_eq]

theorem isNumber_of_sub (number : (x - y).IsNumber) : x.IsNumber ∧ y.IsNumber := by
  constructor
  · rintro rfl
    exact number rfl
  · rintro rfl
    exact number (add_undefined x)

end Order

end Extended

end Waveguide
