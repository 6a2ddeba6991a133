import Mathlib
import Waveguide.Conflict
import Waveguide.Proofs.Exact

/-!
Single lines over exact numbers: their x-range, the measures a layout admits, and the lines that a
cut or a split makes of them.
-/

namespace Waveguide

structure LineProperty.Valid (property : LineProperty ℚ) : Prop where
  period : 0 < property.grooves.period
  groove : 0 ≤ property.grooves.width
  fits : property.grooves.width ≤ property.grooves.period
  width : 0 ≤ property.width
  depth : 0 ≤ property.grooves.depth
  padding : 0 ≤ property.padding

theorem LineProperty.validate_iff {K : Type} [Scalar K] {property : LineProperty K} :
    property.validate = .ok () ↔ 0 < property.grooves.period ∧
      ¬ (property.grooves.width < 0 ∨ property.grooves.period < property.grooves.width) ∧
      ¬ (property.width < 0 ∨ property.grooves.depth < 0 ∨ property.padding < 0) := by
  simp only [LineProperty.validate]
  split
  · rename_i period
    simp [period]
  · rename_i period
    split
    · rename_i groove
      simp [groove]
    · rename_i groove
      split
      · rename_i measures
        simp [measures]
      · rename_i measures
        exact ⟨fun _ => ⟨not_not.mp period, groove, measures⟩, fun _ => rfl⟩

theorem LineProperty.validate_ok {property : LineProperty ℚ}
    (accepted : property.validate = .ok ()) : property.Valid := by
  obtain ⟨period, groove, measures⟩ := validate_iff.mp accepted
  push Not at groove measures
  exact ⟨period, groove.1, groove.2, measures.1, measures.2.1, measures.2.2⟩

def LineProperty.reach (property : LineProperty ℚ) : ℚ :=
  property.width / 2 + property.grooves.depth

theorem LineProperty.Valid.reach_nonneg {property : LineProperty ℚ} (valid : property.Valid) :
    0 ≤ property.reach := by
  have width := valid.width
  have depth := valid.depth
  unfold LineProperty.reach
  linarith

theorem Clearance.ofProperty_eq (property : LineProperty ℚ) :
    Clearance.ofProperty property =
      ⟨property.reach, property.reach, property.reach + property.padding,
        property.reach + property.padding⟩ := by
  have two : (2.0 : ℚ) = 2 := by norm_num
  simp only [Clearance.ofProperty, LineProperty.reach, two]

theorem normalizeSkip_eq (skip : ℚ) :
    normalizeSkip skip =
      if Int.fract skip < Scalar.tolerance ∨ 1 - Scalar.tolerance < Int.fract skip then 0
      else Int.fract skip := by
  have below := Int.fract_lt_one skip
  simp only [normalizeSkip, Scalar.cyclicRemainder_eq skip one_pos, Scalar.abs_eq, one_mul,
    div_one, abs_of_nonneg (Int.fract_nonneg skip), abs_sub_comm (Int.fract skip) 1,
    abs_of_pos (sub_pos.mpr below), sub_lt_comm]

theorem normalizeSkip_nonneg (skip : ℚ) : 0 ≤ normalizeSkip skip := by
  rw [normalizeSkip_eq]
  split
  · exact le_refl 0
  · exact Int.fract_nonneg skip

theorem normalizeSkip_lt_one (skip : ℚ) : normalizeSkip skip < 1 := by
  rw [normalizeSkip_eq]
  split
  · exact one_pos
  · exact Int.fract_lt_one skip

@[simp] theorem Endpoint.plain_x (point : Point ℚ) : (Endpoint.plain point).x = point.x := rfl

namespace Line

theorem minX_eq (line : Line ℚ) : line.minX = min line.start.x line.finish.x := by
  rw [minX]
  split
  · rename_i ordered
    exact (min_eq_left ordered.le).symm
  · rename_i reversed
    exact (min_eq_right (not_lt.mp reversed)).symm

theorem maxX_eq (line : Line ℚ) : line.maxX = max line.start.x line.finish.x := by
  rw [maxX]
  split
  · rename_i ordered
    exact (max_eq_right ordered.le).symm
  · rename_i reversed
    exact (max_eq_left (not_lt.mp reversed)).symm

theorem minX_le_maxX (line : Line ℚ) : line.minX ≤ line.maxX := by
  rw [minX_eq, maxX_eq]
  exact min_le_max

theorem minX_of_le {line : Line ℚ} (ordered : line.start.x ≤ line.finish.x) :
    line.minX = line.start.x := by
  rw [minX_eq, min_eq_left ordered]

theorem maxX_of_le {line : Line ℚ} (ordered : line.start.x ≤ line.finish.x) :
    line.maxX = line.finish.x := by
  rw [maxX_eq, max_eq_right ordered]

theorem disjoint_eq_false_iff (a b : Line ℚ) :
    a.disjoint b = false ↔ b.minX < a.maxX ∧ a.minX < b.maxX := by
  simp [disjoint]

section Cut

variable {K : Type} [Scalar K]

theorem disjoint_comm (a b : Line K) : a.disjoint b = b.disjoint a := by
  rw [disjoint, disjoint, Bool.or_comm]

def leftPart (line : Line K) (x : K) : Line K :=
  { line with finish := Endpoint.plain ⟨x, line.finish.y⟩ }

def rightPart (line : Line K) (x : K) (parent : Nat) : Line K :=
  { line with
    id := none
    comment := none
    start := Endpoint.plain ⟨x, line.finish.y⟩
    skip := normalizeSkip (line.skipAt x)
    parent := some parent }

theorem cut_ok {line left fragment : Line K} {x : K} {parent : Nat}
    (done : line.cut x parent = .ok (left, fragment)) :
    left = line.leftPart x ∧ fragment = line.rightPart x parent := by
  unfold cut at done
  split at done
  · contradiction
  · simp only [Except.ok.injEq, Prod.mk.injEq] at done
    exact ⟨done.1.symm, done.2.symm⟩

omit [Scalar K]

def withSoftUp (line : Line K) (softUp : K) : Line K :=
  { line with clearance := { line.clearance with softUp } }

def withSoftDown (line : Line K) (softDown : K) : Line K :=
  { line with clearance := { line.clearance with softDown } }

end Cut

section Parts

variable {line : Line ℚ} {x : ℚ}

theorem minX_leftPart (inside : line.start.x < x ∧ x < line.finish.x) :
    (line.leftPart x).minX = line.minX :=
  (minX_of_le inside.1.le).trans (minX_of_le (inside.1.trans inside.2).le).symm

theorem maxX_leftPart (inside : line.start.x < x ∧ x < line.finish.x) :
    (line.leftPart x).maxX = x :=
  maxX_of_le inside.1.le

theorem minX_rightPart (inside : line.start.x < x ∧ x < line.finish.x) (parent : Nat) :
    (line.rightPart x parent).minX = x :=
  minX_of_le inside.2.le

theorem maxX_rightPart (inside : line.start.x < x ∧ x < line.finish.x) (parent : Nat) :
    (line.rightPart x parent).maxX = line.maxX :=
  (maxX_of_le inside.2.le).trans (maxX_of_le (inside.1.trans inside.2).le).symm

theorem range_inside (inside : line.start.x < x ∧ x < line.finish.x) :
    line.minX < x ∧ x < line.maxX := by
  have ordered := (inside.1.trans inside.2).le
  rwa [minX_of_le ordered, maxX_of_le ordered]

theorem disjoint_parts {other : Line ℚ} (inside : line.start.x < x ∧ x < line.finish.x)
    (disjoint : line.disjoint other = true) (parent : Nat) :
    (line.leftPart x).disjoint other = true ∧ (line.rightPart x parent).disjoint other = true := by
  have within := range_inside inside
  simp only [Line.disjoint, Bool.or_eq_true, decide_eq_true_eq, minX_leftPart inside,
    maxX_leftPart inside, minX_rightPart inside, maxX_rightPart inside] at disjoint ⊢
  rcases disjoint with before | behind
  · exact ⟨Or.inl (within.2.le.trans before), Or.inl before⟩
  · exact ⟨Or.inr behind, Or.inr (behind.trans within.1.le)⟩

end Parts

def Level (line : Line ℚ) : Prop := line.start.y = line.finish.y

instance : DecidablePred Level := fun line =>
  inferInstanceAs (Decidable (line.start.y = line.finish.y))

theorem cut_of_le {line : Line ℚ} (ordered : line.start.x ≤ line.finish.x) (x : ℚ)
    (parent : Nat) : line.cut x parent = .ok (line.leftPart x, line.rightPart x parent) := by
  rw [cut, if_neg (not_lt.mpr ordered)]
  rfl

theorem disjoint_withSoftUp (line other : Line ℚ) (softUp : ℚ) :
    (line.withSoftUp softUp).disjoint other = line.disjoint other := rfl

theorem disjoint_withSoftDown (line other : Line ℚ) (softDown : ℚ) :
    (line.withSoftDown softDown).disjoint other = line.disjoint other := rfl

/-- What every line of a layout satisfies, before and while its conflicts are settled. -/
structure Sound (line : Line ℚ) : Prop where
  property : line.property.Valid
  up : line.clearance.up = line.property.reach
  down : line.clearance.down = line.property.reach
  softUp : line.property.reach ≤ line.clearance.softUp
  softDown : line.property.reach ≤ line.clearance.softDown
  skip_nonneg : 0 ≤ line.skip
  skip_lt_one : line.skip < 1
  ordered : line.start.x ≤ line.finish.x + Scalar.tolerance

theorem Sound.start_le_finish {line : Line ℚ} (sound : line.Sound)
    (long : Scalar.tolerance < line.maxX - line.minX) : line.start.x ≤ line.finish.x := by
  by_contra reversed
  have behind := not_le.mp reversed
  rw [maxX_eq, minX_eq, max_eq_left behind.le, min_eq_right behind.le] at long
  have near := sound.ordered
  linarith

theorem Sound.leftPart {line : Line ℚ} {x : ℚ} (sound : line.Sound) (inside : line.start.x < x) :
    (line.leftPart x).Sound :=
  { sound with ordered := le_of_lt (lt_of_lt_of_le inside (by
      have positive := Scalar.tolerance_pos
      simp only [Line.leftPart, Endpoint.plain, Endpoint.x]
      linarith)) }

theorem Sound.rightPart {line : Line ℚ} {x : ℚ} {parent : Nat} (sound : line.Sound)
    (inside : x < line.finish.x) : (line.rightPart x parent).Sound :=
  { sound with
    skip_nonneg := normalizeSkip_nonneg _
    skip_lt_one := normalizeSkip_lt_one _
    ordered := by
      have positive := Scalar.tolerance_pos
      simp only [Line.rightPart, Endpoint.plain, Endpoint.x] at inside ⊢
      linarith }

theorem Sound.withSoftUp {line : Line ℚ} {softUp : ℚ} (sound : line.Sound)
    (enough : line.property.reach ≤ softUp) : (line.withSoftUp softUp).Sound :=
  { sound with softUp := enough }

theorem Sound.withSoftDown {line : Line ℚ} {softDown : ℚ} (sound : line.Sound)
    (enough : line.property.reach ≤ softDown) : (line.withSoftDown softDown).Sound :=
  { sound with softDown := enough }

end Line

end Waveguide
