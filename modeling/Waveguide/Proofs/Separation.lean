import Mathlib
import Waveguide.Proofs.Layers
import Waveguide.Proofs.Termination

/-!
What settling achieves: lines that keep their clearances, and blocks that do not overlap. A layout
that has been settled, or on which settling has failed, is not changed by settling it again.
-/

namespace Waveguide

/-- Rectangles that share no more than a strip as high as the tolerance. -/
def Block.Apart (a b : Block ℚ) : Prop :=
  min a.right b.right ≤ max a.left b.left ∨
    min a.top b.top - max a.bottom b.bottom ≤ Scalar.tolerance

theorem Block.Apart.symm {a b : Block ℚ} (apart : a.Apart b) : b.Apart a := by
  unfold Apart at apart ⊢
  rwa [min_comm b.right, max_comm b.left, min_comm b.top, max_comm b.bottom]

namespace Line

variable {a b upper lower : Line ℚ} {p q : Block ℚ}

theorem blocks_extent {line : Line ℚ} (sound : line.Sound) (level : line.Level)
    (member : p ∈ line.blocks) :
    line.minX ≤ p.left ∧ p.right ≤ line.maxX ∧ line.y - line.clearance.softDown ≤ p.bottom ∧
      p.top ≤ line.y + line.clearance.softUp := by
  obtain ⟨segment, drawn, layer⟩ := mem_blocks.mp member
  obtain ⟨left, right, bottom, top⟩ := layers_extent sound layer
  have within := segments_within sound.patterned level drawn
  rw [left, right]
  exact ⟨within.1, within.2, bottom, top⟩

theorem blocks_apart_of_disjoint (aSound : a.Sound) (bSound : b.Sound) (aLevel : a.Level)
    (bLevel : b.Level) (disjoint : a.disjoint b = true) (first : p ∈ a.blocks)
    (second : q ∈ b.blocks) : p.Apart q := by
  obtain ⟨pLeft, pRight, _⟩ := blocks_extent aSound aLevel first
  obtain ⟨qLeft, qRight, _⟩ := blocks_extent bSound bLevel second
  left
  simp only [Line.disjoint, Bool.or_eq_true, decide_eq_true_eq] at disjoint
  rcases disjoint with before | after
  · calc min p.right q.right ≤ p.right := min_le_left _ _
      _ ≤ q.left := by linarith
      _ ≤ max p.left q.left := le_max_right _ _
  · calc min p.right q.right ≤ q.right := min_le_right _ _
      _ ≤ p.left := by linarith
      _ ≤ max p.left q.left := le_max_left _ _

theorem blocks_apart_of_roomy (upSound : upper.Sound) (lowSound : lower.Sound)
    (upLevel : upper.Level) (lowLevel : lower.Level)
    (roomy : Roomy upper lower) (first : p ∈ upper.blocks)
    (second : q ∈ lower.blocks) : p.Apart q := by
  obtain ⟨_, _, bottom, _⟩ := blocks_extent upSound upLevel first
  obtain ⟨_, _, _, top⟩ := blocks_extent lowSound lowLevel second
  right
  linarith [roomy.soft, min_le_right p.top q.top, le_max_left p.bottom q.bottom]

end Line

namespace Layout

structure Separated (layout : Layout ℚ) : Prop where
  lines : ∀ upper ∈ layout.lines, ∀ lower ∈ layout.lines, Over upper lower →
    upper.2.disjoint lower.2 = false → Roomy upper.2 lower.2
  blocks : ∀ a ∈ layout.lines, ∀ b ∈ layout.lines, a.1 ≠ b.1 →
    ∀ p ∈ a.2.blocks, ∀ q ∈ b.2.blocks, p.Apart q

theorem separated_of_nextChange {layout : Layout ℚ} (sound : layout.All Line.Sound)
    (level : layout.All Line.Level) (quiet : layout.nextChange = .ok none) :
    layout.Separated := by
  have lines : ∀ upper ∈ layout.lines, ∀ lower ∈ layout.lines, Over upper lower →
      upper.2.disjoint lower.2 = false → Roomy upper.2 lower.2 := by
    intro upper upperListed lower lowerListed above together
    exact stackChange_none (nextChange_none quiet upperListed lowerListed above) together
  have apart : ∀ upper ∈ layout.lines, ∀ lower ∈ layout.lines, Over upper lower →
      ∀ p ∈ upper.2.blocks, ∀ q ∈ lower.2.blocks, p.Apart q := by
    intro upper upperListed lower lowerListed above p first q second
    have upSound := sound _ _ (mem_lines.mp upperListed)
    have lowSound := sound _ _ (mem_lines.mp lowerListed)
    have upLevel := level _ _ (mem_lines.mp upperListed)
    have lowLevel := level _ _ (mem_lines.mp lowerListed)
    cases together : upper.2.disjoint lower.2 with
    | true =>
        exact Line.blocks_apart_of_disjoint upSound lowSound upLevel lowLevel together first second
    | false =>
        have roomy := lines upper upperListed lower lowerListed above together
        exact Line.blocks_apart_of_roomy upSound lowSound upLevel lowLevel roomy first second
  refine ⟨lines, ?_⟩
  intro a aListed b bListed different p first q second
  rcases over_or_over different with above | below
  · exact apart a aListed b bListed above p first q second
  · exact (apart b bListed a aListed below q second p first).symm

theorem settle_of_settled {layout : Layout ℚ} (quiet : layout.nextChange = .ok none) :
    layout.settle = (layout, .ok 0) := by
  have scanned : layout.scan = .settled := by
    simp only [scan, quiet]
  unfold settle scanLimit
  rw [settleWithin, scanned]

theorem settle_of_failed {layout : Layout ℚ} {failure : Failure ℚ}
    (loud : layout.nextChange = .error failure) : layout.settle = (layout, .error failure) := by
  have scanned : layout.scan = .failed failure := by
    simp only [scan, loud]
  unfold settle scanLimit
  rw [settleWithin, scanned]

theorem Ended.settle_eq {start : Layout ℚ} {result : Layout ℚ × Except (Failure ℚ) Nat}
    (ended : Ended start result) :
    result.1.settle = (result.1, result.2.map fun _ => 0) := by
  cases ended with
  | settled _ quiet => exact settle_of_settled quiet
  | failed _ loud => exact settle_of_failed loud

/-- Settling a layout of horizontal lines separates them if it succeeds, and settling again adds
nothing to what was done, whether it has succeeded or not. -/
theorem settle_separates {layout : Layout ℚ} (built : layout.Built)
    (level : layout.All Line.Level) :
    (∀ cuts, layout.settle.2 = .ok cuts → layout.settle.1.Separated) ∧
      layout.settle.1.settle = (layout.settle.1, layout.settle.2.map fun _ => 0) := by
  have sound := built.declared.allSound
  have ended := settle_ended sound
  refine ⟨?_, ended.settle_eq⟩
  intro cuts succeeded
  generalize layout.settle = result at ended succeeded
  cases ended with
  | settled run quiet => exact separated_of_nextChange (run.sound sound) (run.level level) quiet
  | failed run loud => contradiction

def crowdedLayout : Layout ℚ :=
  ofLines [
    .between sampleGuide ⟨0, 0⟩ ⟨30, 0⟩,
    .between sampleGuide ⟨10, 7⟩ ⟨50, 7⟩,
    .between sampleGuide ⟨5, 40⟩ ⟨45, 40⟩]

theorem crowdedLayout_separates :
    (crowdedLayout.Built ∧ crowdedLayout.All Line.Level) ∧
      crowdedLayout.settle.2.toOption = some 2 ∧
      (∀ cuts, crowdedLayout.settle.2 = .ok cuts → crowdedLayout.settle.1.Separated) ∧
      crowdedLayout.settle.1.settle =
        (crowdedLayout.settle.1, crowdedLayout.settle.2.map fun _ => 0) :=
  have built : crowdedLayout.Built := built_ofLines _
  have level : crowdedLayout.All Line.Level := all_iff.mpr (by decide +kernel)
  ⟨⟨built, level⟩, by decide +kernel, settle_separates built level⟩

end Layout

end Waveguide
