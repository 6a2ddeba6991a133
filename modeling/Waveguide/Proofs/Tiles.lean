import Mathlib
import Waveguide.Proofs.Consistency
import Waveguide.Proofs.Layers
import Waveguide.Proofs.Pattern
import Waveguide.Proofs.Writing

/-!
The blocks of a line as tiles. Over each segment three of them stand one on another, from the lower
soft clearance of the line to the upper one; the segments follow one another. A block is written by
its center and its size, which leave no doubt about where it lies.
-/

namespace Waveguide

attribute [ext] Point

namespace Block

def Parted (a b : Block ℚ) : Prop := ∀ point, a.Interior point → ¬ b.Interior point

theorem parted_of_beside {a b : Block ℚ} (beside : a.right ≤ b.left) : a.Parted b := by
  intro point first second
  exact absurd (first.1.2.trans_le beside) (lt_asymm second.1.1)

theorem parted_of_above {a b : Block ℚ} (above : b.top ≤ a.bottom) : a.Parted b := by
  intro point first second
  exact absurd (second.2.2.trans_le above) (lt_asymm first.2.1)

structure Stacked (left right bottom top : ℚ) (low middle high : Block ℚ) : Prop where
  sides : ∀ block ∈ [high, middle, low], block.left = left ∧ block.right = right
  rising : ∀ block ∈ [high, middle, low], block.bottom ≤ block.top
  bottom : low.bottom = bottom
  lower : low.top = middle.bottom
  upper : middle.top = high.bottom
  top : high.top = top

namespace Stacked

variable {left right bottom top : ℚ} {low middle high : Block ℚ}

theorem parted (stacked : Stacked left right bottom top low middle high) :
    [high, middle, low].Pairwise Parted := by
  have rising : middle.bottom ≤ middle.top := stacked.rising middle (by simp)
  have upper := stacked.upper
  have lower := stacked.lower
  simp only [List.pairwise_cons, List.forall_mem_cons, List.not_mem_nil, false_imp_iff,
    implies_true, and_true, List.Pairwise.nil]
  refine ⟨⟨parted_of_above upper.le, parted_of_above ?_⟩, parted_of_above lower.le⟩
  rw [lower, ← upper]
  exact rising

theorem covers_iff (stacked : Stacked left right bottom top low middle high) (point : Point ℚ) :
    (∃ block ∈ [high, middle, low], block.Covers point) ↔
      (left ≤ point.x ∧ point.x ≤ right) ∧ bottom ≤ point.y ∧ point.y ≤ top := by
  obtain ⟨highSides, middleSides, lowSides⟩ : (high.left = left ∧ high.right = right) ∧
      (middle.left = left ∧ middle.right = right) ∧ low.left = left ∧ low.right = right := by
    simpa using stacked.sides
  obtain ⟨highRising, middleRising, lowRising⟩ : high.bottom ≤ high.top ∧
      middle.bottom ≤ middle.top ∧ low.bottom ≤ low.top := by
    simpa using stacked.rising
  have bottom := stacked.bottom
  have lower := stacked.lower
  have upper := stacked.upper
  have top := stacked.top
  simp only [List.exists_mem_cons_iff, List.not_mem_nil, false_and, exists_false, or_false, Covers,
    highSides, middleSides, lowSides, ← and_or_left]
  apply and_congr_right
  intro _
  constructor
  · rintro (inHigh | inMiddle | inLow)
    · exact ⟨by linarith, by linarith⟩
    · exact ⟨by linarith, by linarith⟩
    · exact ⟨by linarith, by linarith⟩
  · rintro ⟨above, below⟩
    rcases le_total high.bottom point.y with inHigh | underHigh
    · exact Or.inl ⟨inHigh, by linarith⟩
    · rcases le_total middle.bottom point.y with inMiddle | underMiddle
      · exact Or.inr (Or.inl ⟨inMiddle, by linarith⟩)
      · exact Or.inr (Or.inr ⟨by linarith, by linarith⟩)

end Stacked

theorem left_eq (block : Block ℚ) : block.left = block.center.x - block.size.x / 2 := by
  norm_num [center, size]
  ring

theorem right_eq (block : Block ℚ) : block.right = block.center.x + block.size.x / 2 := by
  norm_num [center, size]
  ring

theorem bottom_eq (block : Block ℚ) : block.bottom = block.center.y - block.size.y / 2 := by
  norm_num [center, size]
  ring

theorem top_eq (block : Block ℚ) : block.top = block.center.y + block.size.y / 2 := by
  norm_num [center, size]
  ring

end Block

section Rows

variable {K : Type}

theorem Medium.template_injective : Function.Injective (Medium.template (K := K)) := by
  intro a b same
  cases a with
  | metal epsilon conductivity =>
      cases b with
      | metal otherEpsilon otherConductivity => simpa [Medium.template] using same
      | dielectric otherEpsilon => simp [Medium.template] at same
  | dielectric epsilon =>
      cases b with
      | metal otherEpsilon otherConductivity => simp [Medium.template] at same
      | dielectric otherEpsilon => simpa [Medium.template] using same

namespace Program

theorem Clause.plain_inj {template other : String} {slots others : List (Slot K)} :
    Clause.plain template slots = Clause.plain other others ↔
      template = other ∧ slots = others := by
  have injective : Function.Injective (Argument.slot (K := K)) := fun _ _ same => by simpa using same
  rw [Clause.plain, Clause.plain, Clause.mk.injEq, injective.list_map.eq_iff]

variable [Numeral K]

theorem positionClause_inj {a b : Block K} :
    positionClause a = positionClause b ↔
      a.thickness = b.thickness ∧ a.center = b.center ∧ a.size = b.size := by
  have place : a.center = b.center ∧ a.size = b.size ↔ a.center.x = b.center.x ∧
      a.center.y = b.center.y ∧ a.size.x = b.size.x ∧ a.size.y = b.size.y := by
    rw [Point.ext_iff, Point.ext_iff, and_assoc]
  unfold positionClause
  cases a.thickness with
  | none =>
      cases b.thickness with
      | none => simp [Clause.plain_inj, place]
      | some other => simp [Clause.plain_inj]
  | some thickness =>
      cases b.thickness with
      | none => simp [Clause.plain_inj]
      | some other => simp [Clause.plain_inj, place, and_comm, and_left_comm]

theorem blockRow_inj {a b : Block K} :
    blockRow a = blockRow b ↔
      a.medium = b.medium ∧ a.thickness = b.thickness ∧ a.center = b.center ∧ a.size = b.size := by
  have number : Function.Injective (Slot.number (K := K)) := fun _ _ same => by simpa using same
  have medium : a.medium = b.medium ↔
      a.medium.template.1 = b.medium.template.1 ∧ a.medium.template.2 = b.medium.template.2 := by
    rw [← Medium.template_injective.eq_iff, Prod.ext_iff]
  simp only [blockRow, List.cons.injEq, and_true, true_and, positionClause_inj, Clause.plain_inj,
    number.list_map.eq_iff, ← medium]
  exact and_comm

end Program

end Rows

/-- What is written of a block tells where it lies. -/
structure Block.Legible (block : Block ℚ) : Prop where
  written : ∀ renderer, Program.block renderer block =
    Program.writeRow renderer (Program.blockRow block)
  row : ∀ other : Block ℚ, Program.blockRow other = Program.blockRow block ↔
    other.medium = block.medium ∧ other.thickness = block.thickness ∧
      other.center = block.center ∧ other.size = block.size
  place : ∀ other : Block ℚ, other.center = block.center → other.size = block.size →
    (other.left = block.left ∧ other.right = block.right) ∧
      other.bottom = block.bottom ∧ other.top = block.top

theorem Block.legible (block : Block ℚ) : block.Legible where
  written renderer := Program.block_eq renderer block
  row _ := Program.blockRow_inj
  place other center size := by
    rw [left_eq, right_eq, bottom_eq, top_eq, center, size, ← left_eq, ← right_eq, ← bottom_eq,
      ← top_eq]
    exact ⟨⟨rfl, rfl⟩, rfl, rfl⟩

namespace Line

/-- The blocks of a line cover its segments between its soft clearances, each place once. -/
structure Tiled (line : Line ℚ) : Prop where
  proper : ∀ block ∈ line.blocks, 0 ≤ block.size.x ∧ 0 ≤ block.size.y
  parted : line.blocks.Pairwise Block.Parted
  layers : ∀ segment ∈ line.segments, ∃ low middle high,
    line.layers segment = [high, middle, low] ∧
      Block.Stacked segment.start segment.finish (line.y - line.clearance.softDown)
        (line.y + line.clearance.softUp) low middle high
  covered : ∀ point, (∃ block ∈ line.blocks, block.Covers point) ↔
    (∃ segment ∈ line.segments, segment.start ≤ point.x ∧ point.x ≤ segment.finish) ∧
      line.y - line.clearance.softDown ≤ point.y ∧ point.y ≤ line.y + line.clearance.softUp

variable {line : Line ℚ}

theorem layers_stacked (sound : line.Sound) (segment : Segment ℚ) :
    ∃ low middle high, line.layers segment = [high, middle, low] ∧
      Block.Stacked segment.start segment.finish (line.y - line.clearance.softDown)
        (line.y + line.clearance.softUp) low middle high := by
  have half : (0.5 : ℚ) * line.property.width = line.property.width / 2 := by
    norm_num
    ring
  have nonneg := segment.channel_nonneg sound.property
  have short := segment.channel_le_reach sound.property
  have up := sound.softUp
  have down := sound.softDown
  simp only [Segment.channel] at nonneg short
  refine ⟨_, _, _, rfl, by simp, ?_, rfl, rfl, rfl, rfl⟩
  simp only [half, List.forall_mem_cons, List.not_mem_nil, false_imp_iff, implies_true, and_true]
  exact ⟨by linarith, by linarith, by linarith⟩

theorem segments_follow (patterned : line.Patterned) :
    line.segments.Pairwise fun a b => a.finish ≤ b.start :=
  List.pairwise_map.mpr ((walk_reaches patterned).spans.ordered.filter _)

theorem segments_long (patterned : line.Patterned) {segment : Segment ℚ}
    (member : segment ∈ line.segments) : Scalar.tolerance < segment.length := by
  obtain ⟨stretch, passed, long, rfl⟩ := mem_segments.mp member
  rwa [(walk_reaches patterned).spans.length_eq passed] at long

theorem tiled (sound : line.Sound) : line.Tiled where
  proper := by
    intro block member
    obtain ⟨segment, drawn, layer⟩ := mem_blocks.mp member
    obtain ⟨low, middle, high, layers, stacked⟩ := layers_stacked sound segment
    rw [layers] at layer
    obtain ⟨left, right⟩ := stacked.sides block layer
    have long := segments_long sound.patterned drawn
    have positive := Scalar.tolerance_pos
    rw [Segment.length] at long
    simp only [Block.size, left, right, sub_nonneg]
    exact ⟨by linarith, stacked.rising block layer⟩
  parted := by
    rw [blocks, List.pairwise_flatMap]
    constructor
    · intro segment _
      obtain ⟨low, middle, high, layers, stacked⟩ := layers_stacked sound segment
      rw [layers]
      exact stacked.parted
    · apply (segments_follow sound.patterned).imp
      intro first second follows p inFirst q inSecond
      obtain ⟨_, right, _⟩ := layers_extent sound inFirst
      obtain ⟨left, _⟩ := layers_extent sound inSecond
      exact Block.parted_of_beside (right.trans_le (follows.trans_eq left.symm))
  layers segment _ := layers_stacked sound segment
  covered := by
    intro point
    have spanned : ∀ segment, (∃ block ∈ line.layers segment, block.Covers point) ↔
        (segment.start ≤ point.x ∧ point.x ≤ segment.finish) ∧
          line.y - line.clearance.softDown ≤ point.y ∧
          point.y ≤ line.y + line.clearance.softUp := by
      intro segment
      obtain ⟨low, middle, high, layers, stacked⟩ := layers_stacked sound segment
      rw [layers]
      exact stacked.covers_iff point
    constructor
    · rintro ⟨block, member, covers⟩
      obtain ⟨segment, drawn, layer⟩ := mem_blocks.mp member
      obtain ⟨along, between⟩ := (spanned segment).mp ⟨block, layer, covers⟩
      exact ⟨⟨segment, drawn, along⟩, between⟩
    · rintro ⟨⟨segment, drawn, along⟩, between⟩
      obtain ⟨block, layer, covers⟩ := (spanned segment).mpr ⟨along, between⟩
      exact ⟨block, mem_blocks.mpr ⟨segment, drawn, layer⟩, covers⟩

end Line

namespace Layout

/-- The blocks of every line tile what the line takes up, whatever has been done to its layout and
also while its conflicts are being settled. -/
theorem reached_tiled {thickness : Option ℚ} {layout state : Layout ℚ} {cuts handle : Nat}
    {line : Line ℚ} (reached : layout.Reached thickness) (run : Settling layout cuts state)
    (found : state.line? handle = some line) :
    line.Tiled ∧ ∀ block ∈ line.blocks, block.Legible := by
  have consistent := reached.consistent.settling run
  exact ⟨Line.tiled (consistent.line found).toSound, fun block _ => block.legible⟩

theorem extendedLayout_tiled :
    (extendedLayout.Reached (some 3) ∧ Settling extendedLayout 0 extendedLayout) ∧
      ∃ line, extendedLayout.line? 5 = some line ∧ line.parent = some 1 ∧
        line.blocks.length = 12 ∧ line.Tiled ∧ ∀ block ∈ line.blocks, block.Legible := by
  have reached : extendedLayout.Reached (some 3) :=
    .settle (.center (.line _ (.line _ (.settle (.center reached_joinedLayout)))))
  have there : (extendedLayout.line? 5).map (fun line => (line.parent, line.blocks.length)) =
      some (some 1, 12) := by
    decide +kernel
  obtain ⟨line, found, known⟩ := Option.map_eq_some_iff.mp there
  obtain ⟨parent, count⟩ := Prod.mk.inj known
  exact ⟨⟨reached, .start⟩, line, found, parent, count, reached_tiled reached .start found⟩

end Layout

end Waveguide
