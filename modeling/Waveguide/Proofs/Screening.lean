import Mathlib
import Waveguide.Proofs.Additions
import Waveguide.Proofs.Extended

/-!
What the checks of a line let pass when values may be infinite or no numbers at all. A check that
rejects what is bad admits a value that is not a number; only the period must be shown to be good.
-/

namespace Waveguide

open Extended in
/-- The line comparisons that hold of an admitted line, each just when its numbers are numbers. -/
structure Line.Screened (line : Line Extended) : Prop where
  period : 0 < line.property.grooves.period
  groove : 0 ≤ line.property.grooves.width ∧
    line.property.grooves.width ≤ line.property.grooves.period ↔
      line.property.grooves.width.IsNumber
  width : 0 ≤ line.property.width ↔ line.property.width.IsNumber
  depth : 0 ≤ line.property.grooves.depth ↔ line.property.grooves.depth.IsNumber
  padding : 0 ≤ line.property.padding ↔ line.property.padding.IsNumber
  hard : ∀ hard ∈ [line.clearance.up, line.clearance.down], 0 ≤ hard ↔
    line.property.width.IsNumber ∧ line.property.grooves.depth.IsNumber
  soft : line.clearance.up ≤ line.clearance.softUp ∧ line.clearance.down ≤ line.clearance.softDown ↔
    (line.property.width.IsNumber ∧ line.property.grooves.depth.IsNumber) ∧
      line.property.padding.IsNumber
  skip : 0 ≤ line.skip ∧ line.skip < 1 ↔ line.skip.IsNumber
  ordered : line.start.x - Scalar.tolerance ≤ line.finish.x ↔
    line.start.x.IsNumber ∧ line.finish.x.IsNumber
  level : Scalar.abs (line.finish.y - line.start.y) ≤ Scalar.tolerance ↔
    line.start.y.IsFinite ∧ line.finish.y.IsFinite

namespace Extended

theorem normalizeSkip_finite (a : ℚ) : normalizeSkip (finite a) = finite (normalizeSkip a) := by
  simp only [normalizeSkip, one_eq, cyclicRemainder_finite a one_ne_zero, tolerance_eq, abs_finite,
    sub_finite, lt_finite, zero_eq, apply_ite finite]

theorem skip_iff (skip : Extended) :
    0 ≤ normalizeSkip skip ∧ normalizeSkip skip < 1 ↔ (normalizeSkip skip).IsNumber := by
  cases skip with
  | finite a =>
      have nonneg := normalizeSkip_nonneg a
      have small := normalizeSkip_lt_one a
      simp [normalizeSkip_finite, nonneg, small]
  | infinite negative =>
      have unknown : normalizeSkip (infinite negative) = undefined := by cases negative <;> rfl
      simp [unknown]
  | undefined =>
      have unknown : normalizeSkip undefined = undefined := rfl
      simp [unknown]

theorem level_iff {a b : Extended} (flat : ¬ Scalar.tolerance < Scalar.abs (b - a)) :
    Scalar.abs (b - a) ≤ Scalar.tolerance ↔ a.IsFinite ∧ b.IsFinite := by
  cases a with
  | finite x =>
      cases b with
      | finite y => simpa using flat
      | infinite negative => simp [sub_eq] at flat
      | undefined => simp [sub_eq, le_iff]
  | infinite negative =>
      cases b with
      | finite y => simp [sub_eq] at flat
      | infinite other =>
          by_cases same : other = !negative
          · simp [sub_eq, same] at flat
          · simp [sub_eq, same, le_iff]
      | undefined => simp [sub_eq, le_iff]
  | undefined => simp [sub_eq, le_iff]

end Extended

namespace Line

open Extended

theorem hard_not_neg {property : LineProperty Extended} (admitted : property.validate = .ok ()) :
    ¬ (Clearance.ofProperty property).up < 0 ∧ ¬ (Clearance.ofProperty property).down < 0 := by
  obtain ⟨_, _, measures⟩ := LineProperty.validate_iff.mp admitted
  push Not at measures
  have sign := (add_not_neg (half_not_neg measures.1) measures.2.1).1
  exact ⟨sign, sign⟩

theorem screened_of_admitted {line : Line Extended} (admitted : line.property.validate = .ok ())
    (clearance : line.clearance = Clearance.ofProperty line.property)
    (skip : ∃ raw, line.skip = normalizeSkip raw)
    (ordered : ¬ line.finish.x < line.start.x - Scalar.tolerance)
    (level : ¬ Scalar.tolerance < Scalar.abs (line.finish.y - line.start.y)) : line.Screened := by
  obtain ⟨period, groove, measures⟩ := LineProperty.validate_iff.mp admitted
  push Not at groove measures
  obtain ⟨notThin, fits⟩ := groove
  obtain ⟨notNarrow, notShallow, notTight⟩ := measures
  obtain ⟨raw, skip⟩ := skip
  have periodNumber := (isNumber_of_lt period).2
  obtain ⟨hardSign, _, hardNumber⟩ := add_not_neg (half_not_neg notNarrow) notShallow
  obtain ⟨_, softAbove, softNumber⟩ := add_not_neg hardSign notTight
  rw [half_isNumber] at hardNumber
  rw [hardNumber] at softNumber
  constructor
  case period => exact period
  case groove => rw [nonneg_iff notThin, le_iff_of_not_lt fits, and_iff_left periodNumber, and_self]
  case width => exact nonneg_iff notNarrow
  case depth => exact nonneg_iff notShallow
  case padding => exact nonneg_iff notTight
  case hard =>
    rw [clearance, ← hardNumber, ← nonneg_iff hardSign]
    simp [Clearance.ofProperty]
  case soft =>
    simp only [clearance, Clearance.ofProperty, le_iff_of_not_lt softAbove, and_self, hardNumber,
      softNumber]
    tauto
  case skip =>
    rw [skip]
    exact skip_iff raw
  case ordered => rw [le_iff_of_not_lt ordered, tolerance_eq, sub_finite_isNumber]
  case level => exact level_iff level

end Line

end Waveguide
