import Mathlib
import Waveguide.Proofs.Subdivision

/-!
The blocks of a line: where they lie, what they cover and which medium is inside them.
-/

namespace Waveguide

namespace Block

def Interior (block : Block ℚ) (point : Point ℚ) : Prop :=
  (block.left < point.x ∧ point.x < block.right) ∧ block.bottom < point.y ∧ point.y < block.top

def Covers (block : Block ℚ) (point : Point ℚ) : Prop :=
  (block.left ≤ point.x ∧ point.x ≤ block.right) ∧ block.bottom ≤ point.y ∧ point.y ≤ block.top

end Block

/-- The medium at a height above the axis, where the channel reaches so far on either side. -/
def LineProperty.mediumAt (property : LineProperty ℚ) (channel height : ℚ) : Medium ℚ :=
  if channel < height then property.materials.up
  else if height < -channel then property.materials.down
  else property.materials.inner

def Segment.channel (property : LineProperty ℚ) (segment : Segment ℚ) : ℚ :=
  property.width / 2 + segment.depth property.grooves

namespace Segment

theorem channel_eq {property : LineProperty ℚ} {a b : Segment ℚ} (same : a.kind = b.kind) :
    a.channel property = b.channel property := by
  rw [channel, channel, depth, depth, same]

theorem channel_nonneg {property : LineProperty ℚ} (valid : property.Valid)
    (segment : Segment ℚ) : 0 ≤ segment.channel property := by
  have width := valid.width
  have depth := valid.depth
  unfold channel Segment.depth
  split
  · linarith
  · linarith

theorem channel_le_reach {property : LineProperty ℚ} (valid : property.Valid)
    (segment : Segment ℚ) : segment.channel property ≤ property.reach := by
  have depth := valid.depth
  unfold channel Segment.depth LineProperty.reach
  split
  · linarith
  · linarith

end Segment

namespace Line

variable {line : Line ℚ} {segment : Segment ℚ} {block : Block ℚ} {point : Point ℚ}

theorem mem_layers :
    block ∈ line.layers segment ↔
      let channel := segment.channel line.property
      let materials := line.property.materials
      let layer (medium : Medium ℚ) (bottom top : ℚ) : Block ℚ :=
        ⟨medium, segment.start, segment.finish, bottom, top, line.elevation⟩
      block = layer materials.up (line.y + channel) (line.y + line.clearance.softUp) ∨
        block = layer materials.inner (line.y - channel) (line.y + channel) ∨
        block = layer materials.down (line.y - line.clearance.softDown) (line.y - channel) := by
  have half : (0.5 : ℚ) * line.property.width = line.property.width / 2 := by
    norm_num
    ring
  simp only [layers, half, Segment.channel, List.mem_cons, List.not_mem_nil, or_false, add_assoc,
    sub_sub]

theorem mem_blocks : block ∈ line.blocks ↔ ∃ segment ∈ line.segments, block ∈ line.layers segment :=
  List.mem_flatMap

theorem layers_extent (sound : line.Sound) (member : block ∈ line.layers segment) :
    block.left = segment.start ∧ block.right = segment.finish ∧
      line.y - line.clearance.softDown ≤ block.bottom ∧
      block.top ≤ line.y + line.clearance.softUp := by
  have nonneg := segment.channel_nonneg sound.property
  have short := segment.channel_le_reach sound.property
  have up := sound.softUp
  have down := sound.softDown
  rcases mem_layers.mp member with rfl | rfl | rfl
  · exact ⟨rfl, rfl, by linarith, le_rfl⟩
  · exact ⟨rfl, rfl, by linarith, by linarith⟩
  · exact ⟨rfl, rfl, le_rfl, by linarith⟩

theorem segments_reach (sound : line.Sound) (member : segment ∈ line.segments) :
    line.minX ≤ segment.start ∧ segment.finish ≤ line.minX + line.length := by
  obtain ⟨stretch, passed, _, rfl⟩ := mem_segments.mp member
  exact (walk_reaches sound.patterned).spans.within passed

theorem layers_cover (sound : line.Sound)
    (along : segment.start ≤ point.x ∧ point.x ≤ segment.finish)
    (near : |point.y - line.y| ≤ line.property.reach) :
    ∃ block ∈ line.layers segment, block.Covers point := by
  have up := sound.softUp
  have down := sound.softDown
  obtain ⟨above, below⟩ := abs_le.mp near
  rcases lt_or_ge (line.y + segment.channel line.property) point.y with high | notHigh
  · exact ⟨_, mem_layers.mpr (Or.inl rfl), along, high.le, by simp only; linarith⟩
  · rcases lt_or_ge point.y (line.y - segment.channel line.property) with low | notLow
    · exact ⟨_, mem_layers.mpr (Or.inr (Or.inr rfl)), along, by simp only; linarith, low.le⟩
    · exact ⟨_, mem_layers.mpr (Or.inr (Or.inl rfl)), along, notLow, notHigh⟩

theorem layers_medium (sound : line.Sound) (member : block ∈ line.layers segment)
    (inside : block.bottom < point.y ∧ point.y < block.top) :
    block.medium =
      line.property.mediumAt (segment.channel line.property) (point.y - line.y) := by
  have nonneg := segment.channel_nonneg sound.property
  unfold LineProperty.mediumAt
  rcases mem_layers.mp member with rfl | rfl | rfl
  · rw [if_pos (by linarith [inside.1])]
  · rw [if_neg (by linarith [inside.2]), if_neg (by linarith [inside.1])]
  · rw [if_neg (by linarith [inside.2]), if_pos (by linarith [inside.2])]

end Line

end Waveguide
